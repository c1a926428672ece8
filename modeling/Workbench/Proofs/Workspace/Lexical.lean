import Workbench.Proofs.Workspace.Candidates
import Mathlib.Data.List.Flatten
/-!
# Names are resolved by where they stand

The scope of a reference is put together in several places: one pass over the
tree files the symbols under the nodes that contain them, a walk up the tree
collects these and filters them by type, the exports of all documents come
last and may have been asked for before, and the lookup takes one symbol or
drops those it has seen. All this comes to one list, read off the trees and
the index: the named children of the nodes around the reference, from the
inside out, then the exports of all documents. A reference stands for the
first entry that fits it, or for all of them.
-/

namespace Workbench

/-! ## What a walk meets of one owner -/

section Walk

variable {α : Type} {below : α → List α} {owner : α → Option α} {root a c : α} {n m : ℕ}

/-- Every node that a walk is taken from comes first in it. -/
theorem sublist_flatMap_walk (n : ℕ) (bs : List α) : bs.Sublist (bs.flatMap (walk below n)) := by
  induction bs with
  | nil => exact List.Sublist.refl _
  | cons b bs ih =>
    rw [List.flatMap_cons]
    exact (List.singleton_sublist.mpr (self_mem_walk n b)).append ih

/-- A walk meets the nodes below a node in their order. -/
theorem sublist_walk (hm : Steps below m a c) (hlt : m < n) :
    (below c).Sublist (walk below n a) := by
  induction n generalizing m a with
  | zero => omega
  | succ n ih =>
    rw [walk]
    cases m with
    | zero =>
      cases hm
      exact (sublist_flatMap_walk n (below c)).cons c
    | succ m =>
      obtain ⟨b, hb, hbc⟩ := hm.cases_head
      have hinto := (List.singleton_sublist.mpr hb).flatMap (walk below n)
      rw [List.flatMap_singleton] at hinto
      exact ((ih hbc (by omega)).trans hinto).cons a

/-- **In a tree a walk that is deep enough meets of one owner exactly what it
owns**, in order. -/
theorem IsTree.filter_walk [DecidableEq α] (ht : IsTree below owner root)
    (hdeep : Within below n root) (hc : Reaches below root c) :
    (walk below n root).filter (fun b => owner b = some c) = below c := by
  obtain ⟨m, hm⟩ := hc
  have hnodup : (walk below n root).Nodup := ht.nodup_walk (Reaches.refl root)
  have howned : ∀ b ∈ below c, owner b = some c := ht.owner_eq c ⟨m, hm⟩
  have hmem : ∀ b, b ∈ (walk below n root).filter (fun b => owner b = some c) ↔ b ∈ below c := by
    intro b
    rw [List.mem_filter, hdeep.mem_walk_iff, decide_eq_true_eq]
    refine ⟨fun ⟨⟨k, hk⟩, hown⟩ => ?_, fun hb => ⟨⟨m + 1, hm.down hb⟩, howned b hb⟩⟩
    cases hk with
    | here =>
      rw [ht.root_owner] at hown
      cases hown
    | @down k _ p _ hp hb =>
      rw [ht.owner_eq p ⟨k, hp⟩ b hb, Option.some.injEq] at hown
      rwa [← hown]
  have hsub : (below c).Sublist ((walk below n root).filter fun b => owner b = some c) := by
    cases hbelow : below c with
    | nil => exact List.nil_sublist _
    | cons b bs =>
      have hlt : m < n := hdeep (m + 1) b (hm.down (by rw [hbelow]; exact List.mem_cons_self))
      have hfiltered := (sublist_walk hm hlt).filter fun b => decide (owner b = some c)
      rwa [List.filter_eq_self.mpr fun b hb => decide_eq_true (howned b hb), hbelow] at hfiltered
  have hperm := (List.perm_ext_iff_of_nodup (hnodup.filter _) (ht.nodup c ⟨m, hm⟩)).mpr hmem
  exact (hsub.eq_of_length hperm.length_eq.symm).symm

end Walk

/-! ## The nodes around a reference -/

namespace SyntaxTree

variable {t : SyntaxTree} {id : NodeId} {chain : List NodeId}

/-- **The slots and the links to owners agree**: every node the root reaches
is owned in one slot and names its owner, and every reference names the node
that holds it. -/
structure Consistent (t : SyntaxTree) : Prop where
  tree : IsTree t.childrenOf t.ownerOf t.root
  holder : ∀ id node, t.HasNode id → t.node? id = some node → ∀ r ∈ node.heldRefs,
    ∃ reference, t.reference? r = some reference ∧ reference.container = id

/-- Trees whose links agree are such. -/
theorem Linked.toConsistent {g : Grammar} (h : t.Linked g) : t.Consistent := by
  refine ⟨h.ast_tree, fun id node hid hnode r hr => ?_⟩
  have hfits := h.nodeFits hid hnode
  obtain ⟨name, property, hproperty, hmem⟩ := mem_heldRefs.mp hr
  obtain ⟨reference, hreference, hfit⟩ := hfits.refs name property hproperty r hmem
  exact ⟨reference, hreference, hfit.container⟩

/-- The nodes from a node outwards to the root. -/
inductive Outwards (t : SyntaxTree) : NodeId → List NodeId → Prop
  | root : t.ownerOf t.root = none → Outwards t t.root [t.root]
  | inner {id owner : NodeId} {chain : List NodeId} : t.ownerOf id = some owner →
      Outwards t owner chain → Outwards t id (id :: chain)

/-- There is one such list. -/
theorem Outwards.unique {chain' : List NodeId} (h : t.Outwards id chain)
    (h' : t.Outwards id chain') : chain = chain' := by
  induction h generalizing chain' with
  | root hroot =>
    cases h' with
    | root => rfl
    | inner howner =>
      rw [hroot] at howner
      cases howner
  | inner howner _ ih =>
    cases h' with
    | root hroot =>
      rw [howner] at hroot
      cases hroot
    | inner howner' hrest =>
      rw [howner, Option.some.injEq] at howner'
      subst howner'
      rw [ih hrest]

theorem Outwards.enclosing (h : t.Outwards id chain) {n : ℕ} (hn : chain.length ≤ n) :
    LinkContext.enclosing t n id = chain := by
  induction h generalizing n with
  | root hroot =>
    obtain ⟨n, rfl⟩ : ∃ k, n = k + 1 := ⟨n - 1, by simp at hn; omega⟩
    rw [LinkContext.enclosing, show (t.node? t.root).bind AstNode.container = none from hroot]
  | @inner id owner chain howner _ ih =>
    rw [List.length_cons] at hn
    obtain ⟨n, rfl⟩ : ∃ k, n = k + 1 := ⟨n - 1, by omega⟩
    rw [LinkContext.enclosing, show (t.node? id).bind AstNode.container = some owner from howner]
    dsimp only
    rw [ih (by omega)]

/-- A root that is not in the arena reaches no node that is. -/
theorem isSome_root {node : AstNode} (hid : t.HasNode id) (hnode : t.node? id = some node) :
    (t.node? t.root).isSome := by
  cases hnone : t.node? t.root with
  | some _ => rfl
  | none =>
    have hnil : t.childrenOf t.root = [] := by
      rw [childrenOf, hnone]
      rfl
    rcases Reaches.cases_head hid with rfl | ⟨b, hb, -⟩
    · rw [hnone] at hnode
      cases hnode
    · rw [hnil] at hb
      cases hb

namespace Consistent

/-- Every node but the root names its owner, so it is in the arena. -/
theorem index_lt (h : t.Consistent) (hroot : (t.node? t.root).isSome) (hid : t.HasNode id) :
    id.index < t.ast.size := by
  obtain ⟨k, hk⟩ := hid
  cases hk with
  | here =>
    obtain ⟨node, hnode⟩ := Option.isSome_iff_exists.mp hroot
    exact index_lt_of_node? hnode
  | @down k _ p _ hp hmem =>
    obtain ⟨node, hnode, -⟩ := Option.bind_eq_some_iff.mp (h.tree.owner_eq p ⟨k, hp⟩ id hmem)
    exact index_lt_of_node? hnode

theorem steps_lt (h : t.Consistent) (hroot : (t.node? t.root).isSome) {k : ℕ}
    (hk : Steps t.childrenOf k t.root id) : k < t.ast.size :=
  h.tree.steps_lt NodeId.index (fun _ _ _ _ heq => NodeId.ext_index heq)
    (fun _ hb => h.index_lt hroot hb) hk

/-- **The owners of a node lead to the root**, in as many steps as lead down to
the node. -/
theorem exists_outwards (h : t.Consistent) {k : ℕ} (hk : Steps t.childrenOf k t.root id) :
    ∃ chain, t.Outwards id chain ∧ chain.length = k + 1 ∧ ∀ b ∈ chain, t.HasNode b := by
  generalize hstart : t.root = root at hk
  induction hk with
  | here =>
    subst hstart
    exact ⟨_, .root h.tree.root_owner, rfl, List.forall_mem_singleton.mpr (Reaches.refl _)⟩
  | @down k _ p id hp hmem ih =>
    obtain ⟨chain, hchain, hlength, hall⟩ := ih hstart
    subst hstart
    refine ⟨id :: chain, .inner (h.tree.owner_eq p ⟨k, hp⟩ id hmem) hchain, ?_, ?_⟩
    · rw [List.length_cons, hlength]
    · exact List.forall_mem_cons.mpr ⟨⟨k + 1, hp.down hmem⟩, hall⟩

/-- The preorder meets of one owner exactly what it owns. -/
theorem filter_preorder (h : t.Consistent) (hroot : (t.node? t.root).isSome) (hid : t.HasNode id) :
    t.preorder.filter (fun b => t.ownerOf b = some id) = t.childrenOf id := by
  rw [preorder, preorderFrom, preorderTo_eq_walk]
  exact h.tree.filter_walk (fun k b hk => (h.steps_lt hroot hk).le) hid

end Consistent
end SyntaxTree

/-! ## What is filed under a node -/

namespace Document

variable {d : Document} {tree : SyntaxTree}

/-- Symbols are filed behind those that are there, in the order of their
nodes. -/
theorem get?_addLocals (ids : List NodeId) (found : LocalSymbols) (c : NodeId) :
    ((ids.foldl (ScopeComputation.addLocal d tree) found).get? c).getD [] =
      (found.get? c).getD [] ++
        (ids.filter fun id => tree.ownerOf id = some c).filterMap d.symbol? := by
  induction ids generalizing found with
  | nil => rw [List.foldl_nil, List.filter_nil, List.filterMap_nil, List.append_nil]
  | cons id rest ih =>
    have hadd : ((ScopeComputation.addLocal d tree found id).get? c).getD [] =
        (found.get? c).getD [] ++
          ([id].filter fun id => tree.ownerOf id = some c).filterMap d.symbol? := by
      rw [ScopeComputation.addLocal, show (tree.node? id).bind AstNode.container = tree.ownerOf id
        from rfl, List.filter_singleton]
      cases howner : tree.ownerOf id with
      | none => simp
      | some outer =>
        cases hsymbol : d.symbol? id with
        | none =>
          by_cases hc : outer = c
          · simp [hc, hsymbol]
          · simp [hc]
        | some symbol =>
          dsimp only
          rw [LocalSymbols.add, OrderedMap.get?_insert]
          by_cases hc : c = outer
          · subst hc
            simp [hsymbol]
          · simp [hc, Ne.symm hc]
    rw [List.foldl_cons, ih, hadd, List.append_assoc, ← List.filterMap_append, ← List.filter_append,
      List.singleton_append]

/-- **What is visible in a node are its named children**, in order. -/
theorem get?_scoped_eq (htree : d.tree? = some tree) (h : tree.Consistent)
    (hroot : (tree.node? tree.root).isSome) {c : NodeId} (hc : tree.HasNode c) :
    (d.scoped.get? c).getD [] = (tree.childrenOf c).filterMap d.symbol? := by
  rw [Document.scoped, htree]
  dsimp only
  rw [get?_addLocals, OrderedMap.get?_empty, Option.getD_none, List.nil_append,
    h.filter_preorder hroot hc]

/-- The usual computation of local scopes gives what is visible in the
nodes. -/
theorem scoped_of_done {i left : Interrupt} {symbols : LocalSymbols}
    (h : ScopeComputation.default.localScopes d i = .done symbols left) : symbols = d.scoped := by
  rcases ScopeComputation.localScopes_finds d i with ⟨hcancelled, -⟩ | ⟨left', hdone, -⟩
  · rw [h] at hcancelled
    cases hcancelled
  · rw [h] at hdone
    cases hdone
    rfl

end Document

/-! ## Exports that were asked for before -/

namespace Index

variable {types : TypeGraph} {x : Index}

/-- **The indexes of workspaces**: what can be made of the empty one. -/
inductive Made (types : TypeGraph) : Index → Prop
  | empty : Made types .empty
  | updateContent {x : Index} (uri : Uri) (symbols : List Symbol) :
      Made types x → Made types (x.updateContent uri symbols)
  | updateReferences {x : Index} (d : Document) : Made types x → Made types (x.updateReferences d)
  | removeContent {x : Index} (uri : Uri) : Made types x → Made types (x.removeContent uri)
  | removeReferences {x : Index} (uri : Uri) : Made types x → Made types (x.removeReferences uri)
  | allElements {x : Index} (type : Option String) :
      Made types x → Made types (x.allElements types type).2

/-- Lists are kept under the types they were asked for. -/
theorem Made.kept (h : x.Made types) {type : Option String} {symbols : List Symbol}
    (hkept : x.kept.get? type = some symbols) : symbols = x.elements types type := by
  induction h with
  | empty => cases hkept
  | updateContent uri new _ ih => cases hkept
  | updateReferences d _ ih =>
    rw [Index.updateReferences] at hkept ⊢
    split at hkept
    · exact ih hkept
    · exact ih hkept
  | @removeContent x uri _ ih =>
    rw [Index.removeContent] at hkept ⊢
    split at hkept
    · cases hkept
    next habsent =>
      rw [if_neg habsent]
      exact ih hkept
  | removeReferences uri _ ih => exact ih hkept
  | @allElements x asked _ ih =>
    rw [Index.allElements] at hkept ⊢
    split at hkept
    · exact ih hkept
    · dsimp only at hkept
      rw [OrderedMap.get?_insert] at hkept
      split at hkept
      next heq =>
        cases hkept
        rw [heq]
        rfl
      next => exact ih hkept

/-- **Asking again gives what was given before**, up to date. -/
theorem Made.allElements_eq (h : x.Made types) (type : Option String) :
    (x.allElements types type).1 = x.elements types type := by
  rw [Index.allElements]
  split
  next symbols hkept => exact h.kept hkept
  next => rfl

end Index

/-! ## Looking up -/

/-- **The first of each place**: some entries of a list in their order, each
place of the list once, and each entry the first at its place. -/
structure FirstOfEach (symbols chosen : List Symbol) : Prop where
  sublist : chosen.Sublist symbols
  places : chosen.map Symbol.place = (symbols.map Symbol.place).eraseDups
  first : ∀ s ∈ chosen, symbols.find? (fun t => t.place == s.place) = some s

namespace Scope

theorem sublist_distinctPlaces (symbols : List Symbol) :
    (distinctPlaces symbols).Sublist symbols := by
  induction symbols with
  | nil => exact List.Sublist.refl _
  | cons s rest ih =>
    rw [distinctPlaces]
    exact (List.filter_sublist.trans ih).cons_cons s

/-- The test by which later symbols are dropped is that of their places. -/
theorem filter_distinctPlaces (s : Symbol) (rest : List Symbol) :
    (rest.filter fun t => !(t.uri == s.uri && t.path == s.path)) =
      rest.filter fun t => !(t.place == s.place) :=
  List.filter_congr fun _ _ => rfl

/-- Dropping a place commutes with keeping the first of each. -/
theorem distinctPlaces_filter (p : Uri × String) (symbols : List Symbol) :
    (distinctPlaces symbols).filter (fun t => !(t.place == p)) =
      distinctPlaces (symbols.filter fun t => !(t.place == p)) := by
  induction symbols with
  | nil => rfl
  | cons s rest ih =>
    by_cases hs : s.place = p
    · subst hs
      rw [distinctPlaces, filter_distinctPlaces, List.filter_cons_of_neg (by simp),
        List.filter_cons_of_neg (by simp), List.filter_filter, ← ih]
      simp only [Bool.and_self]
    · rw [distinctPlaces, filter_distinctPlaces, List.filter_cons_of_pos (by simpa using hs),
        List.filter_cons_of_pos (by simpa using hs), distinctPlaces, filter_distinctPlaces, ← ih,
        List.filter_filter, List.filter_filter]
      simp only [Bool.and_comm]

theorem map_place_distinctPlaces (symbols : List Symbol) :
    (distinctPlaces symbols).map Symbol.place = (symbols.map Symbol.place).eraseDups := by
  induction hlength : symbols.length using Nat.strong_induction_on generalizing symbols with
  | _ n ih =>
    cases symbols with
    | nil => rfl
    | cons s rest =>
      have hshorter : (rest.filter fun t => !(t.place == s.place)).length < n := by
        have := List.length_filter_le (fun t : Symbol => !(t.place == s.place)) rest
        rw [List.length_cons] at hlength
        omega
      rw [distinctPlaces, filter_distinctPlaces, distinctPlaces_filter, List.map_cons,
        List.map_cons, List.eraseDups_cons, ih _ hshorter _ rfl, List.filter_map]
      rfl

theorem find?_of_mem_distinctPlaces {symbols : List Symbol} {s : Symbol}
    (h : s ∈ distinctPlaces symbols) :
    symbols.find? (fun t => t.place == s.place) = some s := by
  induction symbols with
  | nil => cases h
  | cons first rest ih =>
    rw [distinctPlaces, filter_distinctPlaces, List.mem_cons, List.mem_filter] at h
    rcases h with rfl | ⟨hmem, hother⟩
    · exact List.find?_cons_of_pos (by simp)
    · rw [List.find?_cons_of_neg]
      · exact ih hmem
      · intro heq
        rw [beq_iff_eq] at heq
        simp [heq] at hother

theorem firstOfEach_distinctPlaces (symbols : List Symbol) :
    FirstOfEach symbols (distinctPlaces symbols) :=
  ⟨sublist_distinctPlaces symbols, map_place_distinctPlaces symbols,
    fun _ h => find?_of_mem_distinctPlaces h⟩

end Scope

namespace LinkContext

/-- The entries of a scope that a reference can stand for. -/
def named (reference : Reference) (scope : Scope) : List Symbol :=
  scope.symbols.filter (·.name == reference.refText)

/-- **What a reference stands for in a scope**: nothing if no entry has its
text for a name, else the first that has, or the first of each place. -/
theorem lookUp_spec (reference : Reference) (scope : Scope) :
    ((lookUp reference scope).isError = true ↔ named reference scope = []) ∧
      (reference.target.multi = false → ∀ s rest, named reference scope = s :: rest →
        lookUp reference scope = .single s.handle) ∧
      (reference.target.multi = true → named reference scope ≠ [] →
        ∃ chosen, FirstOfEach (named reference scope) chosen ∧
          lookUp reference scope = .multi (chosen.map Symbol.handle)) := by
  have hfirst : scope.symbol? reference.refText = (named reference scope).head? := by
    rw [Scope.symbol?, named, List.head?_filter]
  have hall : scope.symbolsNamed reference.refText =
      Scope.distinctPlaces (named reference scope) := rfl
  rw [lookUp, hfirst, hall]
  cases hnamed : named reference scope with
  | nil =>
    cases reference.target.multi <;> simp [Scope.distinctPlaces, notFound, Resolution.isError]
  | cons s rest =>
    have heach := Scope.firstOfEach_distinctPlaces (s :: rest)
    rw [Scope.distinctPlaces] at heach ⊢
    refine ⟨?_, fun hmulti => ?_, fun hmulti _ => ?_⟩
    · cases reference.target.multi <;> simp [Resolution.isError]
    · rw [if_neg (by rw [hmulti]; decide), List.head?_cons]
      rintro _ _ ⟨⟩
      rfl
    · rw [if_pos hmulti]
      exact ⟨_, heach, rfl⟩

end LinkContext

/-! ## Resolving -/

/-- **What a reference can stand for**, in the order of preference: the named
children of the nodes of `chain`, then the exports of all documents; of these
the symbols of its name and of a type that it wants. -/
def Document.candidates (d : Document) (x : Index) (types : TypeGraph) (tree : SyntaxTree)
    (chain : List NodeId) (reference : Reference) : List Symbol :=
  ((chain.flatMap fun id => (tree.childrenOf id).filterMap d.symbol?) ++
    x.exports.values.flatten).filter fun s =>
      s.name == reference.refText && types.isSubtype s.typeName reference.target.typeName

theorem LinkContext.named_lexicalScope {cx : LinkContext} {reference : Reference}
    {chain : List NodeId} (htree : cx.document.tree? = some cx.tree)
    (hscopes : cx.document.localScopes = some cx.document.scoped) (h : cx.tree.Consistent)
    (hroot : (cx.tree.node? cx.tree.root).isSome)
    (hchain : cx.tree.Outwards reference.container chain) (hall : ∀ b ∈ chain, cx.tree.HasNode b)
    (hlength : chain.length ≤ cx.tree.ast.size) :
    named reference (cx.lexicalScope reference) =
      cx.document.candidates cx.index cx.linker.types cx.tree chain reference := by
  have hlayers : ∀ id ∈ chain, (cx.document.scoped.get? id).getD [] =
      (cx.tree.childrenOf id).filterMap cx.document.symbol? :=
    fun id hid => Document.get?_scoped_eq htree h hroot (hall id hid)
  rw [named, lexicalScope, hscopes]
  dsimp only
  rw [hchain.enclosing hlength, Scope.symbols_withOuter, Index.elements, Scope.symbols,
    ← List.flatMap_def, ← List.filter_flatMap, List.flatMap_congr hlayers]
  simp only [Option.all_some]
  rw [← List.filter_append, List.filter_filter, Document.candidates]

namespace Linker

/-- **Name resolution is lexical scoping.** An unresolved reference that a node
of the tree holds is an error exactly if nothing can be what it stands for.
Else it is resolved to the first such symbol, so that inner symbols hide outer
and global ones, or to the first of each place if it stands for many. The
outcome is kept. The exports at the end of the scope are those the index gives
for the type, also from the lists it keeps. -/
theorem resolve_lexical (l : Linker) (x : Index) (d : Document) (tree : SyntaxTree)
    (hprovider : l.provider = .default) (hstate : d.state = .computedScopes) {i left : Interrupt}
    {symbols : LocalSymbols}
    (hcomputed : ScopeComputation.default.localScopes d i = .done symbols left)
    (hscopes : d.localScopes = some symbols) (htree : d.tree? = some tree)
    (hconsistent : tree.Consistent) {holder : NodeId} {node : AstNode}
    (hholder : tree.HasNode holder) (hnode : tree.node? holder = some node) {id : RefId}
    (hheld : id ∈ node.heldRefs) (hopen : d.resolution? id = none) :
    ∃ reference chain outcome, tree.reference? id = some reference ∧
      tree.Outwards reference.container chain ∧
      l.resolve x d id =
        (.ok outcome, { d with links := d.links.setIfInBounds id.index (some outcome) }) ∧
      (outcome.isError = true ↔ d.candidates x l.types tree chain reference = []) ∧
      (reference.target.multi = false → ∀ s rest,
        d.candidates x l.types tree chain reference = s :: rest → outcome = .single s.handle) ∧
      (reference.target.multi = true → d.candidates x l.types tree chain reference ≠ [] →
        ∃ chosen, FirstOfEach (d.candidates x l.types tree chain reference) chosen ∧
          outcome = .multi (chosen.map Symbol.handle)) ∧
      (x.Made l.types → (x.allElements l.types (some reference.target.typeName)).1 =
        x.exports.values.flatten.filter
          (l.types.isSubtype ·.typeName reference.target.typeName)) := by
  obtain ⟨reference, hreference, hcontainer⟩ :=
    hconsistent.holder holder node hholder hnode id hheld
  obtain ⟨k, hk⟩ := hholder
  obtain ⟨chain, hchain, hlength, hall⟩ := hconsistent.exists_outwards hk
  rw [Document.scoped_of_done hcomputed] at hscopes
  have hroot := SyntaxTree.isSome_root ⟨k, hk⟩ hnode
  have hlt := hconsistent.steps_lt hroot hk
  have hnamed : LinkContext.named reference (LinkContext.lexicalScope ⟨l, x, d, tree⟩ reference) =
      d.candidates x l.types tree chain reference :=
    LinkContext.named_lexicalScope htree hscopes hconsistent hroot
      (by rw [hcontainer]; exact hchain) hall (by dsimp only; omega)
  -- scopes are computed, so the outcome is kept whatever it is
  have hkeeps : ∀ outcome, LinkContext.keeps ⟨l, x, d, tree⟩ outcome = true := by
    intro outcome
    have hlater : ¬ d.state < .computedScopes := by rw [hstate]; decide
    simp [LinkContext.keeps, hlater]
  obtain ⟨herror, hsingle, hmulti⟩ :=
    LinkContext.lookUp_spec reference (LinkContext.lexicalScope ⟨l, x, d, tree⟩ reference)
  rw [hnamed] at herror hsingle hmulti
  refine ⟨reference, chain, LinkContext.answer ⟨l, x, d, tree⟩ reference, hreference,
    by rw [hcontainer]; exact hchain, ?_, herror, hsingle, hmulti, fun hmade => ?_⟩
  · rw [resolve, context?, htree, Option.map_some]
    dsimp only
    rw [LinkContext.resolve_usual hprovider hopen hreference, hkeeps, if_pos rfl]
  · rw [hmade.allElements_eq, Index.elements]
    rfl

end Linker

namespace Workspace

namespace Plural

theorem build_definition : definition.build = .ok definition.grammar :=
  Definition.build_of_isOk (by decide +kernel)

theorem links : services.parser.Links := Services.links_ofGrammar build_definition

/-- An item, and one that refers to the items of its name. -/
def own : Document := Items.documentOf services.parser Items.second "ab:a"

/-- Another file has such an item as well, and comes first in the index. -/
def exports : Index :=
  (Index.empty.updateContent Items.first
    (Items.documentOf services.parser Items.first "a").exported).updateContent
    Items.second own.exported

end Plural

open Plural in
/-- Three entries fit the reference: the item of its own file as a child of the
root, that of the other file, and the first again, since it is exported. -/
theorem resolve_lexical_twice :
    (own.tree?.map fun tree => (tree.reference? ⟨0⟩).map fun reference =>
      (own.candidates exports services.linker.types tree [⟨2⟩, ⟨0⟩] reference).map
        Symbol.handle) =
      some (some [⟨Items.second, 1, ⟨1⟩⟩, ⟨Items.first, 1, ⟨1⟩⟩, ⟨Items.second, 1, ⟨1⟩⟩]) ∧
    ∃ tree reference chain chosen, own.tree? = some tree ∧ tree.reference? ⟨0⟩ = some reference ∧
      tree.Outwards reference.container chain ∧
      FirstOfEach (own.candidates exports services.linker.types tree chain reference) chosen ∧
      chosen.map Symbol.handle = [⟨Items.second, 1, ⟨1⟩⟩, ⟨Items.first, 1, ⟨1⟩⟩] ∧
      (services.linker.resolve exports own ⟨0⟩).1 = .ok (.multi (chosen.map Symbol.handle)) := by
  refine ⟨by decide +kernel, ?_⟩
  have hparsed : (services.parser.parse "ab:a" none .never).toOption.any (fun parsed =>
      decide (⟨0⟩ ∈ parsed.1.tree.held) && (parsed.1.tree.reference? ⟨0⟩).any (·.target.multi)) =
      true := by decide +kernel
  have hresolved : (services.linker.resolve exports own ⟨0⟩).1 =
      .ok (.multi [⟨Items.second, 1, ⟨1⟩⟩, ⟨Items.first, 1, ⟨1⟩⟩]) := by decide +kernel
  obtain ⟨⟨result, left⟩, hresult, hand⟩ := (Option.any_eq_true _ _).mp hparsed
  rw [Bool.and_eq_true, decide_eq_true_eq, Option.any_eq_true] at hand
  obtain ⟨hheld, reference, hreference, hmulti⟩ := hand
  replace hresult := ok_of_toOption hresult
  have hlinked := links "ab:a" result left hresult
  obtain ⟨holder, node, hholder, hnode, hmem⟩ := hlinked.mem_held.mp hheld
  have htree : own.tree? = some result.tree := by
    rw [own, Items.documentOf, hresult]
    rfl
  have hstate : own.state = .computedScopes := by
    rw [own, Items.documentOf, hresult]
  have hscopes : own.localScopes = some own.scoped := by
    rw [own, Items.documentOf, hresult]
    rfl
  have hdone : ∃ left, ScopeComputation.default.localScopes own .never = .done own.scoped left := by
    rcases ScopeComputation.localScopes_finds own .never with ⟨-, hne⟩ | ⟨left, hdone, -⟩
    · exact absurd rfl hne
    · exact ⟨left, hdone⟩
  obtain ⟨_, hdone⟩ := hdone
  obtain ⟨reference', chain, outcome, hreference', hchain, hresolve, herror, -, hall, -⟩ :=
    Linker.resolve_lexical services.linker exports own result.tree rfl hstate hdone hscopes htree
      hlinked.toConsistent hholder hnode hmem (by decide +kernel)
  rw [hreference, Option.some.injEq] at hreference'
  subst hreference'
  rw [hresolve, Except.ok.injEq] at hresolved
  have hsome : own.candidates exports services.linker.types result.tree chain reference ≠ [] := by
    intro hnil
    rw [← herror, hresolved] at hnil
    cases hnil
  obtain ⟨chosen, hchosen, houtcome⟩ := hall hmulti hsome
  rw [hresolved, Resolution.multi.injEq] at houtcome
  exact ⟨result.tree, reference, chain, chosen, htree, hreference, hchain, hchosen, houtcome.symm,
    by rw [hresolve, hresolved, houtcome]⟩

end Workspace
end Workbench
