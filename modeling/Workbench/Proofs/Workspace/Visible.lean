import Workbench.Proofs.Tree.Restrict
import Workbench.Proofs.Workspace.Reached
/-!
# What a reference can see

The scope of a reference is made of symbols, which documents have collected
in earlier phases. In terms of the trees it is this: the children of the
nodes around the reference, and what the documents of the workspace offer to
each other, their roots and the children of these. Of all that a reference
sees, those nodes fit it that have its text as their name and a type that it
wants.
-/

namespace Workbench

/-! ## Nodes -/

namespace SyntaxTree

/-- A node has the name and a type that a reference asks for. -/
structure Fits (types : TypeGraph) (t : SyntaxTree) (reference : Reference) (id : NodeId) :
    Prop where
  name : t.name? id = some reference.refText
  type : types.isSubtype (t.typeOf id) reference.target.typeName = true

/-- A node is another one or lies around it. -/
def Encloses (t : SyntaxTree) (outer inner : NodeId) : Prop :=
  ∃ n, ownerAbove t.ownerOf n inner = some outer

/-- The nodes that a document offers to others. -/
def offered (t : SyntaxTree) : List NodeId := t.root :: t.childrenOf t.root

variable {g : Grammar} {t : SyntaxTree} {id outer inner : NodeId}

theorem mem_enclosing {n : ℕ} :
    outer ∈ LinkContext.enclosing t n inner ↔ ∃ k < n, ownerAbove t.ownerOf k inner = some outer := by
  induction n generalizing inner with
  | zero => simp [LinkContext.enclosing]
  | succ n ih =>
    have hcons : outer ∈ LinkContext.enclosing t (n + 1) inner ↔
        outer = inner ∨ ∃ k < n, ownerAbove t.ownerOf (k + 1) inner = some outer := by
      rw [LinkContext.enclosing, List.mem_cons,
        show (t.node? inner).bind AstNode.container = t.ownerOf inner from rfl]
      simp only [ownerAbove]
      cases t.ownerOf inner with
      | none => simp
      | some container => exact or_congr_right ih
    rw [hcons]
    constructor
    · rintro (rfl | ⟨k, hk, habove⟩)
      · exact ⟨0, Nat.succ_pos n, rfl⟩
      · exact ⟨k + 1, Nat.succ_lt_succ hk, habove⟩
    · rintro ⟨k, hk, habove⟩
      cases k with
      | zero => exact Or.inl (Option.some.inj habove).symm
      | succ k => exact Or.inr ⟨k, Nat.lt_of_succ_lt_succ hk, habove⟩

namespace Linked

/-- The node around a node that the root reaches is reached as well, and owns
it. -/
theorem hasNode_owner (h : t.Linked g) (hid : t.HasNode id) (howner : t.ownerOf id = some outer) :
    t.HasNode outer ∧ id ∈ t.childrenOf outer := by
  obtain ⟨n, hn⟩ := hid
  cases hn with
  | here =>
    rw [h.ast_tree.root_owner] at howner
    cases howner
  | @down m _ b _ hb hmem =>
    have hb' : t.HasNode b := ⟨m, hb⟩
    rw [h.ast_tree.owner_eq b hb' id hmem, Option.some.injEq] at howner
    subst howner
    exact ⟨hb', hmem⟩

theorem hasNode_of_encloses (h : t.Linked g) (hinner : t.HasNode inner)
    (henc : t.Encloses outer inner) : t.HasNode outer := by
  obtain ⟨n, hn⟩ := henc
  induction n generalizing inner with
  | zero =>
    cases hn
    exact hinner
  | succ n ih =>
    rw [ownerAbove] at hn
    obtain ⟨b, hb, hrest⟩ := Option.bind_eq_some_iff.mp hn
    exact ih (h.hasNode_owner hinner hb).1 hrest

/-- **No node has more nodes around it than the arena has places.** -/
theorem mem_enclosing_iff (h : t.Linked g) (hinner : t.HasNode inner) :
    outer ∈ LinkContext.enclosing t t.ast.size inner ↔ t.Encloses outer inner := by
  rw [mem_enclosing]
  refine ⟨fun ⟨k, _, hk⟩ => ⟨k, hk⟩, fun ⟨k, hk⟩ => ⟨k, ?_, hk⟩⟩
  obtain ⟨n, hn⟩ := hinner
  have hlt : n < t.ast.size :=
    h.ast_tree.steps_lt NodeId.index (fun _ _ _ _ heq => NodeId.ext_index heq) (fun b hb => by
      obtain ⟨node, hnode, -⟩ := h.ast_fits b hb
      exact index_lt_of_node? hnode) hn
  have htop := h.ast_tree.ownerAbove_of_steps (Reaches.refl _) hn
  -- above the root there is nothing
  have hnone : ∀ j, ownerAbove t.ownerOf (n + (j + 1)) inner = none := by
    intro j
    rw [ownerAbove_add, htop, Option.bind_some, ownerAbove, h.ast_tree.root_owner]
    rfl
  by_contra hge
  obtain ⟨j, rfl⟩ : ∃ j, k = n + (j + 1) := ⟨k - n - 1, by omega⟩
  rw [hnone] at hk
  cases hk

end Linked
end SyntaxTree

/-! ## Symbols -/

namespace Document

variable {d d' : Document} {id : NodeId} {s : Symbol}

/-- Two documents are the same parse of the same text. -/
structure SameParse (d d' : Document) : Prop where
  uri : d'.uri = d.uri
  version : d'.version = d.version
  parse : d'.parse = d.parse

namespace SameParse

theorem refl (d : Document) : d.SameParse d := ⟨rfl, rfl, rfl⟩

theorem trans {d'' : Document} (h : d.SameParse d') (h' : d'.SameParse d'') : d.SameParse d'' :=
  ⟨h'.uri.trans h.uri, h'.version.trans h.version, h'.parse.trans h.parse⟩

theorem symm (h : d.SameParse d') : d'.SameParse d := ⟨h.uri.symm, h.version.symm, h.parse.symm⟩

theorem tree?_eq (h : d.SameParse d') : d'.tree? = d.tree? := by
  rw [tree?, tree?, h.parse]

theorem symbol?_eq (h : d.SameParse d') : d'.symbol? = d.symbol? := by
  funext id
  rw [symbol?, symbol?, h.tree?_eq, h.uri, h.version]

theorem exported_eq (h : d.SameParse d') : d'.exported = d.exported := by
  rw [exported, exported, h.tree?_eq, h.symbol?_eq]

theorem scoped_eq (h : d.SameParse d') : d'.scoped = d.scoped := by
  have hadd : ScopeComputation.addLocal d' = ScopeComputation.addLocal d := by
    funext tree found id
    rw [ScopeComputation.addLocal, ScopeComputation.addLocal, h.symbol?_eq]
  rw [Document.scoped, Document.scoped, h.tree?_eq, hadd]

end SameParse

/-- The symbol of a node names it, and leads to it. -/
theorem symbol?_eq_some (h : d.symbol? id = some s) :
    ∃ tree, d.tree? = some tree ∧ tree.name? id = some s.name ∧ tree.typeOf id = s.typeName ∧
      s.handle = ⟨d.uri, d.version, id⟩ := by
  rw [symbol?, Option.bind_eq_some_iff] at h
  obtain ⟨tree, htree, hsymbol⟩ := h
  obtain ⟨name, hname, heq⟩ := Option.map_eq_some_iff.mp hsymbol
  subst heq
  exact ⟨tree, htree, hname, rfl, rfl⟩

/-- Every named node has a symbol. -/
theorem exists_symbol? {tree : SyntaxTree} (htree : d.tree? = some tree) {name : String}
    (hname : tree.name? id = some name) :
    ∃ s, d.symbol? id = some s ∧ s.name = name ∧ s.typeName = tree.typeOf id := by
  refine ⟨⟨name, tree.typeOf id, d.uri, d.version, id, tree.pathOf id, tree.nodeRange? id⟩, ?_, rfl,
    rfl⟩
  rw [symbol?, htree, Option.bind_some, SyntaxTree.symbol?, hname]
  rfl

theorem mem_exported : s ∈ d.exported ↔
    ∃ tree, d.tree? = some tree ∧ ∃ id ∈ tree.offered, d.symbol? id = some s := by
  rw [exported]
  cases d.tree? with
  | none => simp
  | some tree => simp [SyntaxTree.offered]

/-- An exported symbol leads to the document that exports it. -/
theorem uri_of_mem_exported (h : s ∈ d.exported) : s.handle.uri = d.uri := by
  obtain ⟨_, -, id, -, hsymbol⟩ := mem_exported.mp h
  obtain ⟨_, -, -, -, hhandle⟩ := symbol?_eq_some hsymbol
  rw [hhandle]

theorem mem_addLocals (tree : SyntaxTree) (ids : List NodeId) (found : LocalSymbols)
    (container : NodeId) :
    s ∈ (((ids.foldl (ScopeComputation.addLocal d tree) found).get? container).getD []) ↔
      s ∈ ((found.get? container).getD []) ∨
        ∃ id ∈ ids, tree.ownerOf id = some container ∧ d.symbol? id = some s := by
  induction ids generalizing found with
  | nil => simp
  | cons id rest ih =>
    have hadd : s ∈ (((ScopeComputation.addLocal d tree found id).get? container).getD []) ↔
        s ∈ ((found.get? container).getD []) ∨
          (tree.ownerOf id = some container ∧ d.symbol? id = some s) := by
      rw [ScopeComputation.addLocal, show (tree.node? id).bind AstNode.container = tree.ownerOf id
        from rfl]
      cases howner : tree.ownerOf id with
      | none => simp
      | some c =>
        cases hsymbol : d.symbol? id with
        | none => simp
        | some symbol =>
          dsimp only
          rw [LocalSymbols.add, OrderedMap.get?_insert]
          by_cases hc : container = c
          · subst hc
            rw [if_pos rfl, Option.getD_some, List.mem_append, List.mem_singleton]
            simp [eq_comm]
          · rw [if_neg hc]
            simp [Ne.symm hc]
    rw [List.foldl_cons, ih, hadd, or_assoc]
    simp only [List.mem_cons, exists_eq_or_imp]

/-- What is visible in a node are the symbols of the nodes that it contains. -/
theorem mem_scoped (container : NodeId) : s ∈ ((d.scoped.get? container).getD []) ↔
    ∃ tree, d.tree? = some tree ∧
      ∃ id ∈ tree.preorder, tree.ownerOf id = some container ∧ d.symbol? id = some s := by
  rw [Document.scoped]
  cases d.tree? with
  | none => simp [OrderedMap.get?_empty]
  | some tree => simp [mem_addLocals, OrderedMap.get?_empty]

end Document

/-! ## Scopes -/

namespace LinkContext

variable {reference : Reference} {scope : Scope}

theorem mem_distinctPlaces {s : Symbol} {symbols : List Symbol}
    (h : s ∈ Scope.distinctPlaces symbols) : s ∈ symbols := by
  induction symbols with
  | nil => exact h
  | cons first rest ih =>
    rw [Scope.distinctPlaces, List.mem_cons, List.mem_filter] at h
    rcases h with rfl | ⟨hin, -⟩
    · exact List.mem_cons_self
    · exact List.mem_cons_of_mem _ (ih hin)

/-- What a text stands for are symbols of that name. -/
theorem target_lookUp {h : NodeHandle} (hmem : h ∈ (lookUp reference scope).targets) :
    ∃ s ∈ scope.symbols, s.name = reference.refText ∧ s.handle = h := by
  rw [lookUp] at hmem
  split at hmem
  · split at hmem
    · exact absurd hmem List.not_mem_nil
    next symbols hsymbols =>
      obtain ⟨s, hs, rfl⟩ := List.mem_map.mp hmem
      rw [Scope.symbolsNamed] at hs
      obtain ⟨hin, hname⟩ := List.mem_filter.mp (mem_distinctPlaces hs)
      exact ⟨s, hin, by simpa using hname, rfl⟩
  · split at hmem
    next symbol hsymbol =>
      obtain rfl := List.mem_singleton.mp hmem
      exact ⟨symbol, List.mem_of_find?_eq_some hsymbol,
        by simpa using List.find?_some hsymbol, rfl⟩
    · exact absurd hmem List.not_mem_nil

/-- **A text stands for nothing exactly if no symbol has that name.** -/
theorem lookUp_cases (reference : Reference) (scope : Scope) :
    (lookUp reference scope = notFound reference ∧
        ∀ s ∈ scope.symbols, s.name ≠ reference.refText) ∨
      ((lookUp reference scope).isError = false ∧ (lookUp reference scope).targets ≠ []) := by
  rw [lookUp]
  split
  · split
    next hnil =>
      refine Or.inl ⟨rfl, fun s hs hname => ?_⟩
      have hmem : s ∈ scope.symbols.filter (·.name == reference.refText) :=
        List.mem_filter.mpr ⟨hs, by simpa using hname⟩
      rw [Scope.symbolsNamed] at hnil
      cases hfilter : scope.symbols.filter (·.name == reference.refText) with
      | nil =>
        rw [hfilter] at hmem
        cases hmem
      | cons first rest =>
        rw [hfilter, Scope.distinctPlaces] at hnil
        cases hnil
    next symbols hne =>
      refine Or.inr ⟨rfl, fun hnil => hne ?_⟩
      exact List.map_eq_nil_iff.mp hnil
  · split
    · exact Or.inr ⟨rfl, nofun⟩
    next hnone =>
      refine Or.inl ⟨rfl, fun s hs hname => ?_⟩
      have hfind := List.find?_eq_none.mp hnone s hs
      exact hfind (by simpa using hname)

end LinkContext

namespace Built

variable {services : Services} {types : TypeGraph} {b b' : Built} {d d' : Document}
  {reference : Reference} {s : Symbol}

/-- **A symbol that a reference of a document can stand for**: it has the name
and a type that are asked for, and it is visible in a node around the
reference or exported by a document. -/
structure InScope (types : TypeGraph) (b : Built) (d : Document) (reference : Reference)
    (s : Symbol) : Prop where
  name : s.name = reference.refText
  type : types.isSubtype s.typeName reference.target.typeName = true
  place :
    (∃ tree, d.tree? = some tree ∧
      ∃ id ∈ LinkContext.enclosing tree tree.ast.size reference.container,
        s ∈ (d.scoped.get? id).getD []) ∨
    ∃ uri e, b.documents.get? uri = some e ∧ .indexedContent ≤ e.state ∧ s ∈ e.exported

/-- A symbol stays in scope as long as the document that exports it does. -/
theorem InScope.congr (h : b.InScope types d reference s) (hd : d.SameParse d')
    (hexports : ∀ uri e, b.documents.get? uri = some e → .indexedContent ≤ e.state →
      s ∈ e.exported → ∃ e', b'.documents.get? uri = some e' ∧ e.SameParse e' ∧
        .indexedContent ≤ e'.state) : b'.InScope types d' reference s := by
  refine ⟨h.name, h.type, ?_⟩
  rcases h.place with ⟨tree, htree, hlocal⟩ | ⟨uri, e, he, hstate, hs⟩
  · rw [← hd.tree?_eq] at htree
    rw [← hd.scoped_eq] at hlocal
    exact Or.inl ⟨tree, htree, hlocal⟩
  · obtain ⟨e', he', hsame, hstate'⟩ := hexports uri e he hstate hs
    rw [← hsame.exported_eq] at hs
    exact Or.inr ⟨uri, e', he', hstate', hs⟩

/-- The index gives for a type what the documents export that are in it. -/
theorem mem_elements (hsound : b.Sound services) {type : String} :
    s ∈ b.index.elements services.linker.types (some type) ↔
      services.linker.types.isSubtype s.typeName type = true ∧
        ∃ uri e, b.documents.get? uri = some e ∧ .indexedContent ≤ e.state ∧ s ∈ e.exported := by
  -- the exports of a document are in the index from its phase on
  have hexports : ∀ uri symbols, b.index.exports.get? uri = some symbols ↔
      ∃ e, b.documents.get? uri = some e ∧ .indexedContent ≤ e.state ∧ e.exported = symbols := by
    intro uri symbols
    rw [(hsound.index uri).exports, Option.bind_eq_some_iff]
    refine exists_congr fun e => and_congr_right fun _ => ?_
    rw [Document.indexed?]
    split <;> simp [*]
  simp only [Index.elements, List.mem_filter, List.mem_flatten]
  constructor
  · rintro ⟨⟨symbols, hmem, hs⟩, ht⟩
    obtain ⟨⟨uri, _⟩, he, rfl⟩ := List.mem_map.mp hmem
    obtain ⟨e, hget, hstate, heq⟩ :=
      (hexports uri _).mp (OrderedMap.get?_of_mem hsound.exports_nodup he)
    dsimp only at hs heq
    exact ⟨ht, uri, e, hget, hstate, heq ▸ hs⟩
  · rintro ⟨ht, uri, e, hget, hstate, hs⟩
    have hexport := (hexports uri _).mpr ⟨e, hget, hstate, rfl⟩
    exact ⟨⟨_, List.mem_map_of_mem (f := Prod.snd) (OrderedMap.mem_of_get? hexport), hs⟩, ht⟩

/-- The symbols of a name in the scope of a reference. -/
theorem mem_lexicalScope (hsound : b.Sound services) (hscopes : d.localScopes = some d.scoped)
    {tree : SyntaxTree} (htree : d.tree? = some tree) :
    (s ∈ (LinkContext.lexicalScope ⟨services.linker, b.index, d, tree⟩ reference).symbols ∧
        s.name = reference.refText) ↔ b.InScope services.linker.types d reference s := by
  have hlocal : s ∈ ((LinkContext.enclosing tree tree.ast.size reference.container).map fun id =>
      ((d.scoped.get? id).getD []).filter fun s =>
        services.linker.types.isSubtype s.typeName reference.target.typeName).flatten ↔
      services.linker.types.isSubtype s.typeName reference.target.typeName = true ∧
        ∃ id ∈ LinkContext.enclosing tree tree.ast.size reference.container,
          s ∈ (d.scoped.get? id).getD [] := by
    simp only [List.mem_flatten, List.mem_map, exists_exists_and_eq_and, List.mem_filter]
    exact ⟨fun ⟨id, hid, hs, ht⟩ => ⟨ht, id, hid, hs⟩, fun ⟨ht, id, hid, hs⟩ => ⟨id, hid, hs, ht⟩⟩
  rw [LinkContext.lexicalScope]
  dsimp only
  rw [hscopes, Scope.symbols_withOuter, List.mem_append, mem_elements hsound, Scope.symbols,
    hlocal]
  constructor
  · rintro ⟨⟨ht, hid⟩ | ⟨ht, hexport⟩, hname⟩
    · exact ⟨hname, ht, Or.inl ⟨tree, htree, hid⟩⟩
    · exact ⟨hname, ht, Or.inr hexport⟩
  · rintro ⟨hname, ht, ⟨tree', htree', hid⟩ | hexport⟩
    · rw [htree, Option.some.injEq] at htree'
      subst htree'
      exact ⟨Or.inl ⟨ht, hid⟩, hname⟩
    · exact ⟨Or.inr ⟨ht, hexport⟩, hname⟩

/-- **The answer to a reference**: it is that nothing of the name was found
exactly if nothing is in scope, and else it leads to symbols that are. -/
theorem answer_cases (hsound : b.Sound services) (hscopes : d.localScopes = some d.scoped)
    {tree : SyntaxTree} (htree : d.tree? = some tree) (reference : Reference) :
    let answer := LinkContext.answer ⟨services.linker, b.index, d, tree⟩ reference
    (∀ h ∈ answer.targets, ∃ s, b.InScope services.linker.types d reference s ∧ s.handle = h) ∧
      ((answer = LinkContext.notFound reference ∧
          ∀ s, ¬ b.InScope services.linker.types d reference s) ∨
        (answer.isError = false ∧ answer.targets ≠ [])) := by
  refine ⟨fun h hmem => ?_, ?_⟩
  · obtain ⟨s, hs, hname, hhandle⟩ := LinkContext.target_lookUp hmem
    exact ⟨s, (mem_lexicalScope hsound hscopes htree).mp ⟨hs, hname⟩, hhandle⟩
  · refine (LinkContext.lookUp_cases reference _).imp_left fun ⟨heq, hnone⟩ => ⟨heq, fun s hs => ?_⟩
    obtain ⟨hmem, hname⟩ := (mem_lexicalScope hsound hscopes htree).mpr hs
    exact hnone s hmem hname

/-! ## Scopes in terms of nodes -/

/-- **A node that a reference can stand for**: one that fits, and that lies in
a node around the reference or is offered by a document. -/
inductive Visible (types : TypeGraph) (b : Built) (tree : SyntaxTree) (reference : Reference) : Prop
  | nearby {outer id : NodeId} : tree.Encloses outer reference.container →
      id ∈ tree.childrenOf outer → tree.Fits types reference id → Visible types b tree reference
  | offered {uri : Uri} {e : Document} {t : SyntaxTree} {id : NodeId} :
      b.documents.get? uri = some e → e.tree? = some t → id ∈ t.offered →
      t.Fits types reference id → Visible types b tree reference

/-- A symbol in scope is that of a node that fits. -/
theorem InScope.fits (h : b.InScope types d reference s) {e : Document} {t : SyntaxTree}
    {id : NodeId}
    (htree : e.tree? = some t) (hsymbol : e.symbol? id = some s) : t.Fits types reference id := by
  obtain ⟨t', htree', hname, htype, -⟩ := Document.symbol?_eq_some hsymbol
  rw [htree, Option.some.injEq] at htree'
  subst htree'
  exact ⟨by rw [hname, h.name], by rw [htype]; exact h.type⟩

/-- **A symbol in scope leads to a node that fits**, of the document itself or
of one that is in the index. -/
theorem InScope.target (hk : b.Keyed) (h : b.InScope types d reference s) {uri : Uri}
    (hd : b.documents.get? uri = some d) :
    ∃ e tree, b.documents.get? s.handle.uri = some e ∧ e.version = s.handle.version ∧
      e.tree? = some tree ∧ tree.Fits types reference s.handle.node := by
  have hnode : ∀ {v : Uri} {e : Document} {id : NodeId}, b.documents.get? v = some e →
      e.symbol? id = some s → ∃ e' tree, b.documents.get? s.handle.uri = some e' ∧
        e'.version = s.handle.version ∧ e'.tree? = some tree ∧
        tree.Fits types reference s.handle.node := by
    intro v e id he hsymbol
    obtain ⟨tree, htree, -, -, hhandle⟩ := Document.symbol?_eq_some hsymbol
    have hfits := h.fits htree hsymbol
    rw [hhandle, hk v e he]
    exact ⟨e, tree, he, rfl, htree, hfits⟩
  rcases h.place with ⟨_, -, id, -, hs⟩ | ⟨v, e, he, -, hs⟩
  · obtain ⟨_, -, id', -, -, hsymbol⟩ := (Document.mem_scoped id).mp hs
    exact hnode hd hsymbol
  · obtain ⟨_, -, id, -, hsymbol⟩ := Document.mem_exported.mp hs
    exact hnode he hsymbol

/-- **Something is in scope exactly if a node is visible**, once the exports of
all documents are known. -/
theorem exists_inScope_iff {g : Grammar} {tree : SyntaxTree} (htree : d.tree? = some tree)
    (hlinked : tree.Linked g) (hreference : tree.HasNode reference.container)
    (hstates : ∀ uri e, b.documents.get? uri = some e → .indexedContent ≤ e.state) :
    (∃ s, b.InScope types d reference s) ↔ b.Visible types tree reference := by
  constructor
  · rintro ⟨s, hs⟩
    rcases hs.place with ⟨tree', htree', outer, houter, hmem⟩ | ⟨uri, e, he, -, hmem⟩
    · rw [htree, Option.some.injEq] at htree'
      subst htree'
      obtain ⟨tree', htree', id, hid, howner, hsymbol⟩ := (Document.mem_scoped outer).mp hmem
      rw [htree, Option.some.injEq] at htree'
      subst htree'
      have howns := (hlinked.hasNode_owner (hlinked.mem_preorder.mp hid) howner).2
      exact .nearby ((hlinked.mem_enclosing_iff hreference).mp houter) howns (hs.fits htree hsymbol)
    · obtain ⟨t, ht, id, hid, hsymbol⟩ := Document.mem_exported.mp hmem
      exact .offered he ht hid (hs.fits ht hsymbol)
  · intro hvisible
    cases hvisible with
    | @nearby outer id hencloses hid hfits =>
      obtain ⟨s, hsymbol, hname, htype⟩ := Document.exists_symbol? htree hfits.name
      have houter := hlinked.hasNode_of_encloses hreference hencloses
      refine ⟨s, hname, by rw [htype]; exact hfits.type, Or.inl ⟨tree, htree, outer,
        (hlinked.mem_enclosing_iff hreference).mpr hencloses, ?_⟩⟩
      exact (Document.mem_scoped outer).mpr ⟨tree, htree, id,
        hlinked.mem_preorder.mpr (houter.down hid),
        hlinked.ast_tree.owner_eq outer houter id hid, hsymbol⟩
    | @offered uri e t id he ht hid hfits =>
      obtain ⟨s, hsymbol, hname, htype⟩ := Document.exists_symbol? ht hfits.name
      exact ⟨s, hname, by rw [htype]; exact hfits.type, Or.inr ⟨uri, e, he, hstates uri e he,
        Document.mem_exported.mpr ⟨t, ht, id, hid, hsymbol⟩⟩⟩

end Built
end Workbench
