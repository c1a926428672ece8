import Workbench.Proofs.OrderedMap
import Workbench.Proofs.Transfer.Site
/-!
# Rebuilding the abstract nodes

The instructions of a node set its type and its links and then its
properties, one after the other. A property with nodes makes the node their
owner, and one with references adds these to the arena. `AstStage` is the
state in between: the properties each node has so far, which nodes have an
owner, and the references so far.
-/

namespace Workbench

open SyntaxTree

/-- A node as far as it has come: nothing of its own before its type is set,
then some of its properties. Its owner is set apart from the rest. -/
def AstNode.staged (t : SyntaxTree) (node : AstNode) (owned : Bool) :
    Option (List (String × Property)) → AstNode
  | none => { AstNode.ofType "" with container := if owned then node.container.map t.place else none }
  | some entries =>
    { node.rename t.place t.cstPlace t.refPlace with
      container := if owned then node.container.map t.place else none
      properties := ⟨entries.map fun (name, p) => (name, p.rename t.place t.refPlace)⟩ }

/-- A reference in its slot, as it is noted until its target is known. -/
def SyntaxTree.pending (t : SyntaxTree) (slot : RefId × Option ℕ) : Transfer.PendingReference :=
  match t.reference? slot.1 with
  | some ref => ⟨t.place ref.container, ref.property, slot.2,
      ⟨ref.refText, ref.refNode.map t.cstPlace⟩⟩
  | none => default

namespace Transfer

/-- How far each node has come: `none` if it has not been begun, and its
properties so far if it has. -/
abbrev AstFill := NodeId → Option (List (String × Property))

/-- **The abstract arena while it is filled.** -/
structure AstStage (t : SyntaxTree) (fill : AstFill) (owned : NodeId → Bool)
    (refs : List (RefId × Option ℕ)) (s : Site) : Prop where
  /-- The arena has a slot for every node that is reached. -/
  size : s.ast.size = t.preorder.length
  /-- A slot holds its node as far as it has come. -/
  slot : ∀ id node, t.HasNode id → t.node? id = some node →
    s.ast[(t.place id).index]? = some (node.staged t (owned id) (fill id))
  /-- It is noted of every node whether it has a type. -/
  typedSize : s.typed.size = t.preorder.length
  /-- The nodes that have been begun have a type. -/
  typed : ∀ id, t.HasNode id → s.typed[(t.place id).index]? = some (fill id).isSome
  /-- It is noted which nodes have an owner. -/
  contained : ∀ id, t.HasNode id → s.contained[(t.place id).index]? = some (owned id)
  /-- The references so far. -/
  references : s.references.toList = refs.map t.pending
  /-- Every concrete node has its slot. -/
  cst : s.cst.size = t.cstPreorder.length

/-- Only the abstract side has changed. -/
def AstOnly (s s' : Site) : Prop :=
  s' = { s with
    ast := s'.ast, typed := s'.typed, contained := s'.contained, references := s'.references }

theorem AstOnly.refl (s : Site) : AstOnly s s := rfl

theorem AstOnly.trans {s₁ s₂ s₃ : Site} (h₁ : AstOnly s₁ s₂) (h₂ : AstOnly s₂ s₃) :
    AstOnly s₁ s₃ := by
  unfold AstOnly at *
  rw [h₂, h₁]

theorem AstOnly.setProperty (s : Site) (id : NodeId) (name : String) (p : Property) :
    AstOnly s (s.setProperty id name p) := rfl

variable {g : Grammar} {t : SyntaxTree} {table : ElementTable} {fill : AstFill}
variable {owned : NodeId → Bool} {refs : List (RefId × Option ℕ)} {a id : NodeId}
variable {node : AstNode} {s : Site}

theorem index_place_ne (h : t.Linked g) {a b : NodeId} (ha : t.HasNode a) (hb : t.HasNode b)
    (hab : a ≠ b) : (t.place a).index ≠ (t.place b).index :=
  fun heq => hab (h.place_inj ha hb (NodeId.ext_index heq))

theorem AstStage.lt (h : t.Linked g) (hstage : AstStage t fill owned refs s) (ha : t.HasNode a) :
    (t.place a).index < s.ast.size := by
  rw [hstage.size]
  exact h.place_lt ha

theorem AstStage.needNode (h : t.Linked g) (hstage : AstStage t fill owned refs s)
    (ha : t.HasNode a) : s.needNode (t.place a) = .ok () := by
  rw [Site.needNode, if_pos (hstage.lt h ha)]

/-- A change of one node is a step from one stage to the next. -/
theorem AstStage.modifyNode (h : t.Linked g) (hstage : AstStage t fill owned refs s)
    (ha : t.HasNode a) (hnode : t.node? a = some node) {es es' : List (String × Property)}
    (hfill : fill a = some es) {f : AstNode → AstNode}
    (hf : f (node.staged t (owned a) (some es)) = node.staged t (owned a) (some es')) :
    AstStage t (Function.update fill a (some es')) owned refs (s.modifyNode (t.place a) f) where
  size := by
    rw [Site.modifyNode, Array.size_modify]
    exact hstage.size
  slot := by
    intro b old hb hold
    rw [Site.modifyNode, Array.getElem?_modify]
    by_cases hba : b = a
    · subst hba
      rw [hnode, Option.some.injEq] at hold
      subst hold
      rw [if_pos rfl, hstage.slot b node hb hnode, hfill, Option.map_some, hf,
        Function.update_self]
    · rw [if_neg (index_place_ne h ha hb (Ne.symm hba)), Function.update_of_ne hba]
      exact hstage.slot b old hb hold
  typedSize := hstage.typedSize
  typed := by
    intro b hb
    have htyped := hstage.typed b hb
    by_cases hba : b = a
    · subst hba
      rw [Function.update_self]
      rw [hfill] at htyped
      exact htyped
    · rw [Function.update_of_ne hba]
      exact htyped
  contained := hstage.contained
  references := hstage.references
  cst := hstage.cst

/-- **A property is set.** -/
theorem AstStage.setProperty (h : t.Linked g) (hstage : AstStage t fill owned refs s)
    (ha : t.HasNode a) (hnode : t.node? a = some node) {es : List (String × Property)}
    (hfill : fill a = some es) {name : String} (p : Property)
    (hname : name ∉ es.map Prod.fst) :
    AstStage t (Function.update fill a (some (es ++ [(name, p)]))) owned refs
      (s.setProperty (t.place a) name (p.rename t.place t.refPlace)) := by
  refine hstage.modifyNode h ha hnode hfill ?_
  have hkeys : name ∉ (es.map fun (name, p) => (name, p.rename t.place t.refPlace)).map
      Prod.fst := by
    rw [List.map_map]
    exact hname
  simp only [AstNode.staged, OrderedMap.insert, OrderedMap.insertInto_of_not_mem hkeys, List.map_append,
    List.map_cons, List.map_nil]

/-! ## Owners -/

/-- **A node gets its owner**, if it had none. -/
theorem AstStage.adopt (h : t.Linked g) (ha : t.HasNode a) (hstage : AstStage t fill owned refs s)
    {c : NodeId} (hmem : c ∈ t.childrenOf a) (hfree : owned c = false) :
    ∃ s', s.adopt (t.place a) (t.place c) = .ok s' ∧ AstOnly s s' ∧
      AstStage t fill (Function.update owned c true) refs s' := by
  have hc : t.HasNode c := ha.down hmem
  have howner := h.ast_tree.owner_eq a ha c hmem
  have hcontained := hstage.contained c hc
  rw [hfree] at hcontained
  refine ⟨{ s.modifyNode (t.place c) fun node => { node with container := some (t.place a) } with
    contained := s.contained.setIfInBounds (t.place c).index true },
    by rw [Site.adopt, hcontained], rfl, ?_⟩
  refine ⟨?_, ?_, hstage.typedSize, hstage.typed, ?_, hstage.references, hstage.cst⟩
  · simp only [Site.modifyNode, Array.size_modify]
    exact hstage.size
  · intro b old hb hold
    simp only [Site.modifyNode, Array.getElem?_modify]
    by_cases hbc : b = c
    · subst hbc
      rw [ownerOf_eq hold] at howner
      rw [if_pos rfl, hstage.slot b old hb hold, Function.update_self]
      cases hfill : fill b <;> simp [AstNode.staged, howner]
    · rw [if_neg (index_place_ne h hc hb (Ne.symm hbc)), Function.update_of_ne hbc]
      exact hstage.slot b old hb hold
  · intro b hb
    by_cases hbc : b = c
    · subst hbc
      have hlt := (Array.getElem?_eq_some_iff.mp hcontained).1
      rw [Array.getElem?_setIfInBounds_self_of_lt hlt, Function.update_self]
    · rw [Array.getElem?_setIfInBounds_ne (index_place_ne h hc hb (Ne.symm hbc)),
        Function.update_of_ne hbc]
      exact hstage.contained b hb

/-- **Nodes get their owner.** -/
theorem AstStage.adoptAll (h : t.Linked g) (ha : t.HasNode a) :
    ∀ (children : List NodeId) (owned : NodeId → Bool) (s : Site),
      AstStage t fill owned refs s → (∀ c ∈ children, c ∈ t.childrenOf a) → children.Nodup →
      (∀ c ∈ children, owned c = false) →
      ∃ s', Site.adoptAll (t.place a) (children.map t.place) s = .ok s' ∧ AstOnly s s' ∧
        AstStage t fill (fun b => owned b || decide (b ∈ children)) refs s' := by
  intro children
  induction children with
  | nil =>
    intro owned s hstage _ _ _
    refine ⟨s, rfl, AstOnly.refl s, ?_⟩
    simpa using hstage
  | cons c children ih =>
    intro owned s hstage hmem hnodup hfree
    obtain ⟨hnot, hnodup⟩ := List.nodup_cons.mp hnodup
    obtain ⟨s₁, hadopt, honly, hstage₁⟩ :=
      hstage.adopt h ha (hmem c List.mem_cons_self) (hfree c List.mem_cons_self)
    obtain ⟨s₂, hadopts, honly', hstage₂⟩ := ih (Function.update owned c true) s₁ hstage₁
      (fun b hb => hmem b (List.mem_cons_of_mem _ hb)) hnodup (by
        intro b hb
        rw [Function.update_of_ne (ne_of_mem_of_not_mem hb hnot)]
        exact hfree b (List.mem_cons_of_mem _ hb))
    refine ⟨s₂, ?_, honly.trans honly', ?_⟩
    · rw [List.map_cons, Site.adoptAll, hadopt]
      exact hadopts
    · have howned : (fun b => Function.update owned c true b || decide (b ∈ children)) =
          fun b => owned b || decide (b ∈ c :: children) := by
        funext b
        by_cases hbc : b = c
        · subst hbc
          simp
        · simp [hbc]
      rw [howned] at hstage₂
      exact hstage₂

theorem owned_append (owned : NodeId → Bool) (l l' : List NodeId) :
    (fun b => (owned b || decide (b ∈ l)) || decide (b ∈ l')) =
      fun b => owned b || decide (b ∈ l ++ l') := by
  funext b
  rw [Bool.or_assoc]
  simp only [List.mem_append, Bool.decide_or]

/-! ## References -/

/-- What is noted for a reference that a node holds. -/
theorem pending_of_slot (h : t.Linked g) (ha : t.HasNode a) (hnode : t.node? a = some node)
    {name : String} {p : Property} (hp : (name, p) ∈ node.properties.entries) {ref : RefId}
    (href : ref ∈ p.refs) (index : Option ℕ) :
    t.pending (ref, index) = ⟨t.place a, name, index, (Numbered.ofTree t).sent ref⟩ ∧
      ∀ c ∈ ((Numbered.ofTree t).sent ref).refNode, c.index < t.cstPreorder.length := by
  have hfits := h.nodeFits ha hnode
  obtain ⟨r, hr, hfit⟩ := hfits.refs name p hp ref href
  have hsent : (Numbered.ofTree t).sent ref = ⟨r.refText, r.refNode.map t.cstPlace⟩ := by
    have hr' : (Numbered.ofTree t).tree.reference? ref = some r := hr
    simp only [Numbered.sent, hr']
    cases hc : r.refNode with
    | none => rfl
    | some c => rw [Option.bind_some, Numbered.cst?_ofTree h (hfit.refNode c hc), Option.map_some]
  refine ⟨?_, ?_⟩
  · simp only [pending, hr, hsent, hfit.container, hfit.property]
  · rw [hsent]
    intro c hc
    obtain ⟨c', hc', rfl⟩ := Option.map_eq_some_iff.mp hc
    exact h.cstPlace_lt (hfit.refNode c' hc')

theorem addReference_eq (h : t.Linked g) (hstage : AstStage t fill owned refs s)
    (ha : t.HasNode a) (name : String) (index : Option ℕ) {sent : SentReference}
    (hsent : ∀ c ∈ sent.refNode, c.index < t.cstPreorder.length) :
    s.addReference (t.place a) name index sent = .ok (⟨refs.length⟩,
      { s with references := s.references.push ⟨t.place a, name, index, sent⟩ }) := by
  have hsize : s.references.size = refs.length := by
    rw [← Array.length_toList, hstage.references, List.length_map]
  rw [Site.addReference, hstage.needNode h ha, hsize]
  cases hc : sent.refNode with
  | none => rfl
  | some c =>
    have hneed : s.needCst c = .ok () := by
      rw [Site.needCst, if_pos]
      rw [hstage.cst]
      exact hsent c hc
    simp only [bind, Except.bind, hneed]
    rfl

theorem AstStage.push (hstage : AstStage t fill owned refs s) {slot : RefId × Option ℕ}
    {r : PendingReference} (hr : t.pending slot = r) :
    AstStage t fill owned (refs ++ [slot]) { s with references := s.references.push r } :=
  ⟨hstage.size, hstage.slot, hstage.typedSize, hstage.typed, hstage.contained,
    by simp [hstage.references, hr], hstage.cst⟩

/-- References that are added get consecutive handles. -/
theorem AstStage.addReferences (h : t.Linked g) (ha : t.HasNode a) {name : String} :
    ∀ (more : List RefId) (i : ℕ) (refs : List (RefId × Option ℕ)) (s : Site),
      AstStage t fill owned refs s →
      (∀ ref ∈ more, ∀ index,
        t.pending (ref, index) = ⟨t.place a, name, index, (Numbered.ofTree t).sent ref⟩ ∧
          ∀ c ∈ ((Numbered.ofTree t).sent ref).refNode, c.index < t.cstPreorder.length) →
      ∃ s', Site.addReferences (t.place a) name i (more.map (Numbered.ofTree t).sent) s =
          .ok ((List.range more.length).map fun k => ⟨refs.length + k⟩, s') ∧
        AstOnly s s' ∧
        AstStage t fill owned (refs ++ (more.zipIdx i).map fun (ref, j) => (ref, some j)) s' := by
  intro more
  induction more with
  | nil =>
    intro i refs s hstage _
    exact ⟨s, rfl, AstOnly.refl s, by simpa using hstage⟩
  | cons ref more ih =>
    intro i refs s hstage hmore
    obtain ⟨hpending, hsent⟩ := hmore ref List.mem_cons_self (some i)
    obtain ⟨s', hadd, honly, hstage'⟩ := ih (i + 1) (refs ++ [(ref, some i)]) _
      (hstage.push hpending) fun ref' href' => hmore ref' (List.mem_cons_of_mem _ href')
    refine ⟨s', ?_, honly, ?_⟩
    · rw [List.map_cons, Site.addReferences, addReference_eq h hstage ha name (some i) hsent]
      simp only [bind, Except.bind, hadd, pure, Except.pure]
      rw [List.length_cons, List.range_succ_eq_map, List.map_cons, List.map_map]
      simp [Function.comp_def, Nat.add_comm, Nat.add_left_comm]
    · rw [List.append_assoc] at hstage'
      exact hstage'

/-- The handles the references of a property get are their places. -/
theorem refPlace_of_held (h : t.Linked g) {more rest : List (RefId × Option ℕ)}
    (hheld : t.heldSlots = refs ++ more ++ rest) :
    (List.range more.length).map (fun k => (⟨refs.length + k⟩ : RefId)) =
      more.map fun slot => t.refPlace slot.1 := by
  refine List.ext_getElem (by simp) ?_
  intro k hk hk'
  have hlt : k < more.length := by simpa using hk
  have hheld' := held_eq_heldSlots t
  rw [hheld] at hheld'
  have hlt' : refs.length + k < t.held.length := by
    rw [hheld']
    simp
    omega
  have hget : t.held[refs.length + k] = (more[k]).1 := by
    simp [hheld', List.getElem_append_right, hlt]
  rw [List.getElem_map, List.getElem_map, List.getElem_range, refPlace, ← hget,
    h.nodup_held.idxOf_getElem]

/-! ## Properties -/

/-- A node with its properties so far, about to be given the next one. -/
structure NextEntry (t : SyntaxTree) (fill : AstFill) (owned : NodeId → Bool)
    (refs : List (RefId × Option ℕ)) (a : NodeId) (node : AstNode)
    (es : List (String × Property)) (name : String) (p : Property) : Prop where
  /-- The node has these properties so far. -/
  fill : fill a = some es
  /-- The next property is one of the node. -/
  mem : (name, p) ∈ node.properties.entries
  /-- Its name is new. -/
  fresh : name ∉ es.map Prod.fst
  /-- Its nodes have no owner yet. -/
  free : ∀ c ∈ p.children, owned c = false
  /-- Its references are the next ones. -/
  held : ∃ rest, t.heldSlots = refs ++ p.slots ++ rest

theorem children_of_entry {name : String} {p : Property} (hnode : t.node? a = some node)
    (hp : (name, p) ∈ node.properties.entries) : ∀ c ∈ p.children, c ∈ t.childrenOf a :=
  fun _ hc => (childrenOf_eq hnode).symm ▸ Linked.mem_children_of_entry hp hc

theorem nodup_children_of_entry {name : String} {p : Property} (hnode : t.node? a = some node)
    (hnodup : (t.childrenOf a).Nodup) (hp : (name, p) ∈ node.properties.entries) :
    p.children.Nodup := by
  rw [childrenOf_eq hnode] at hnodup
  exact (List.nodup_flatMap.mp hnodup).1 p (List.mem_map.mpr ⟨(name, p), hp, rfl⟩)

theorem map_node?_ofTree (h : t.Linked g) (children : List NodeId)
    (hreach : ∀ c ∈ children, t.HasNode c) :
    children.filterMap (Numbered.ofTree t).node? = children.map t.place := by
  induction children with
  | nil => rfl
  | cons c children ih =>
    rw [List.filterMap_cons, Numbered.node?_ofTree h (hreach c List.mem_cons_self),
      ih fun b hb => hreach b (List.mem_cons_of_mem _ hb), List.map_cons]

theorem adoptAll_singleton (parent child : NodeId) (s : Site) :
    Site.adoptAll parent [child] s = s.adopt parent child := by
  rw [Site.adoptAll]
  cases s.adopt parent child <;> rfl

variable {es : List (String × Property)} {name : String} {p : Property}

/-- A property without references is set, once its nodes have their owner. -/
theorem AstStage.setOwning (h : t.Linked g) (ha : t.HasNode a) (hnode : t.node? a = some node)
    (hstage : AstStage t fill owned refs s) (hnext : NextEntry t fill owned refs a node es name p)
    (hslots : p.slots = []) :
    ∃ s₁, Site.adoptAll (t.place a) (p.children.map t.place) s = .ok s₁ ∧
      AstOnly s (s₁.setProperty (t.place a) name (p.rename t.place t.refPlace)) ∧
      AstStage t (Function.update fill a (some (es ++ [(name, p)])))
        (fun b => owned b || decide (b ∈ p.children)) (refs ++ p.slots)
        (s₁.setProperty (t.place a) name (p.rename t.place t.refPlace)) := by
  have hnodup := nodup_children_of_entry hnode (h.ast_tree.nodup a ha) hnext.mem
  obtain ⟨s₁, hadopt, honly, hstage₁⟩ := AstStage.adoptAll h ha p.children owned s hstage
    (children_of_entry hnode hnext.mem) hnodup hnext.free
  refine ⟨s₁, hadopt, honly.trans (AstOnly.setProperty s₁ _ _ _), ?_⟩
  rw [hslots, List.append_nil]
  exact hstage₁.setProperty h ha hnode hnext.fill p hnext.fresh

/-- A reference is noted, and then the property that holds it is set. -/
theorem does_reference (table : ElementTable) (h : t.Linked g) (ha : t.HasNode a)
    (hnode : t.node? a = some node) {ref : RefId}
    (hnext : NextEntry t fill owned refs a node es name (.reference ref))
    (hstage : AstStage t fill owned refs s) :
    ∃ s', Does table [.reference (t.place a) name ((Numbered.ofTree t).sent ref)] s s' ∧
      AstOnly s s' ∧ AstStage t (Function.update fill a (some (es ++ [(name, .reference ref)])))
        owned (refs ++ [(ref, none)]) s' := by
  obtain ⟨hpending, hsent⟩ := pending_of_slot h ha hnode hnext.mem List.mem_cons_self none
  obtain ⟨rest, hheld⟩ := hnext.held
  have hplace := refPlace_of_held h hheld
  simp only [Property.slots, List.length_cons, List.length_nil, List.range_one, List.map_cons,
    List.map_nil, List.cons.injEq, and_true, Nat.add_zero, Nat.zero_add] at hplace
  let s₁ : Site := { s with
    references := s.references.push ⟨t.place a, name, none, (Numbered.ofTree t).sent ref⟩ }
  refine ⟨s₁.setProperty (t.place a) name (.reference (t.refPlace ref)),
    Does.one (fun _ => by simp) ?_,
    (show AstOnly s s₁ from rfl).trans (AstOnly.setProperty s₁ _ _ _),
    (hstage.push hpending).setProperty h ha hnode hnext.fill (.reference ref) hnext.fresh⟩
  rw [Site.apply, addReference_eq h hstage ha name none hsent, hplace]
  rfl

/-- References are noted in order, and then the property that holds them is
set to the places they have got. -/
theorem does_references (table : ElementTable) (h : t.Linked g) (ha : t.HasNode a)
    (hnode : t.node? a = some node) {more : List RefId}
    (hnext : NextEntry t fill owned refs a node es name (.references more))
    (hstage : AstStage t fill owned refs s) :
    ∃ s', Does table [.referenceArray (t.place a) name (more.map (Numbered.ofTree t).sent)] s s' ∧
      AstOnly s s' ∧ AstStage t (Function.update fill a (some (es ++ [(name, .references more)])))
        owned (refs ++ (more.zipIdx).map fun (ref, j) => (ref, some j)) s' := by
  obtain ⟨s₁, hadd, honly, hstage₁⟩ := AstStage.addReferences h ha more 0 refs s
    hstage fun ref href index => pending_of_slot h ha hnode hnext.mem href index
  obtain ⟨rest, hheld⟩ := hnext.held
  have hplace := refPlace_of_held h hheld
  have hids : (List.range more.length).map (fun k => (⟨refs.length + k⟩ : RefId)) =
      more.map t.refPlace := by
    have hfst : (fun slot : RefId × Option ℕ => t.refPlace slot.1) ∘
        (fun e : RefId × ℕ => (e.1, some e.2)) = t.refPlace ∘ Prod.fst := rfl
    simp only [Property.slots, List.length_map, List.length_zipIdx, List.map_map] at hplace
    rw [hplace, hfst, ← List.map_map, List.zipIdx_map_fst]
  refine ⟨s₁.setProperty (t.place a) name (.references (more.map t.refPlace)),
    Does.one (fun _ => by simp) ?_, honly.trans (AstOnly.setProperty s₁ _ _ _),
    hstage₁.setProperty h ha hnode hnext.fill (.references more) hnext.fresh⟩
  rw [Site.apply, hadd, hids]
  simp only [bind, Except.bind, hstage₁.needNode h ha]
  rfl

/-- **The next property of a node is set**, together with the owners and the
references it brings. -/
theorem does_property (table : ElementTable) (h : t.Linked g) (ha : t.HasNode a)
    (hnode : t.node? a = some node)
    (hnext : NextEntry t fill owned refs a node es name p) (hsend : Sendable name p)
    (hstage : AstStage t fill owned refs s) :
    ∃ s', Does table (flattenProperty (Numbered.ofTree t) (t.place a) name p).toList s s' ∧
      AstOnly s s' ∧
      AstStage t (Function.update fill a (some (es ++ [(name, p)])))
        (fun b => owned b || decide (b ∈ p.children)) (refs ++ p.slots) s' := by
  have hmem := children_of_entry hnode hnext.mem
  have hneed := hstage.needNode h ha
  cases p with
  | scalar value =>
    obtain ⟨_, ⟨⟩, honly, hstage₁⟩ := hstage.setOwning h ha hnode hnext rfl
    refine ⟨_, Does.one (fun _ => by simp) ?_, honly, hstage₁⟩
    -- the name is none of those that the node's own fields are sent under
    simp only [Sendable, List.mem_cons, List.not_mem_nil, or_false, not_or] at hsend
    unfold Site.apply Site.setNodeProperty
    simp only [hneed, bind, Except.bind]
    rw [if_neg hsend.1, if_neg hsend.2.1, if_neg hsend.2.2]
    rfl
  | scalars values =>
    obtain ⟨_, ⟨⟩, honly, hstage₁⟩ := hstage.setOwning h ha hnode hnext rfl
    refine ⟨_, Does.one (fun _ => by simp) ?_, honly, hstage₁⟩
    rw [Site.apply, hneed]
    rfl
  | empty =>
    obtain ⟨_, ⟨⟩, honly, hstage₁⟩ := hstage.setOwning h ha hnode hnext rfl
    refine ⟨_, Does.one (fun _ => by simp) ?_, honly, hstage₁⟩
    rw [Site.apply, hneed]
    rfl
  | node child =>
    obtain ⟨s₁, hadopt, honly, hstage₁⟩ := hstage.setOwning h ha hnode hnext rfl
    refine ⟨_, ?_, honly, hstage₁⟩
    rw [flattenProperty, Numbered.node?_ofTree h (ha.down (hmem child List.mem_cons_self))]
    refine Does.one (fun _ => by simp) ?_
    rw [Site.apply, Site.link, if_neg hsend, hneed]
    simp only [bind, Except.bind, (adoptAll_singleton _ _ s).symm.trans hadopt]
    rfl
  | nodes children =>
    obtain ⟨s₁, hadopt, honly, hstage₁⟩ := hstage.setOwning h ha hnode hnext rfl
    refine ⟨_, ?_, honly, hstage₁⟩
    rw [flattenProperty, map_node?_ofTree h children fun c hc => ha.down (hmem c hc)]
    refine Does.one (fun _ => by simp) ?_
    rw [Site.apply, hneed]
    simp only [Property.children] at hadopt
    simp only [bind, Except.bind, hadopt]
    rfl
  | reference ref =>
    simpa [flattenProperty, Property.children, Property.slots] using
      does_reference table h ha hnode hnext hstage
  | references more =>
    simpa [flattenProperty, Property.children, Property.slots] using
      does_references table h ha hnode hnext hstage

theorem filterMap_cons_toList {α β : Type} (f : α → Option β) (a : α) (l : List α) :
    (a :: l).filterMap f = (f a).toList ++ l.filterMap f := by
  rw [List.filterMap_cons]
  cases f a <;> rfl

/-- **All properties of a node are set.** The induction is on those that are
still to come. -/
theorem does_entries (table : ElementTable) (h : t.Linked g) (ha : t.HasNode a)
    (hnode : t.node? a = some node)
    (hsend : ∀ name p, (name, p) ∈ node.properties.entries → Sendable name p) :
    ∀ (todo es : List (String × Property)) (fill : AstFill) (owned : NodeId → Bool)
      (refs : List (RefId × Option ℕ)) (s : Site),
      es ++ todo = node.properties.entries → fill a = some es →
      (∀ c ∈ todo.flatMap (·.2.children), owned c = false) →
      (∃ rest, t.heldSlots = refs ++ todo.flatMap (·.2.slots) ++ rest) →
      AstStage t fill owned refs s →
      ∃ s', Does table (todo.filterMap fun (name, p) =>
          flattenProperty (Numbered.ofTree t) (t.place a) name p) s s' ∧ AstOnly s s' ∧
        AstStage t (Function.update fill a (some node.properties.entries))
          (fun b => owned b || decide (b ∈ todo.flatMap (·.2.children)))
          (refs ++ todo.flatMap (·.2.slots)) s' := by
  intro todo
  induction todo with
  | nil =>
    intro es fill owned refs s hes hfill _ _ hstage
    refine ⟨s, Does.nil s, AstOnly.refl s, ?_⟩
    rw [← hes, List.append_nil, ← hfill, Function.update_eq_self]
    simpa using hstage
  | cons e todo ih =>
    intro es fill owned refs s hes hfill hfree hheld hstage
    obtain ⟨name, p⟩ := e
    have hfits := h.nodeFits ha hnode
    have hmem : (name, p) ∈ node.properties.entries := by
      rw [← hes]
      simp
    have hkeys := hfits.keys
    rw [OrderedMap.keys, ← hes, List.map_append, List.nodup_append] at hkeys
    have hchildren := h.ast_tree.nodup a ha
    rw [childrenOf_eq hnode, AstNode.children, OrderedMap.values, List.flatMap_map, ← hes,
      List.flatMap_append, List.flatMap_cons] at hchildren
    have hdisjoint := (List.nodup_append.mp (List.nodup_append.mp hchildren).2.1).2.2
    obtain ⟨rest, hheld⟩ := hheld
    rw [List.flatMap_cons] at hheld
    have hnext : NextEntry t fill owned refs a node es name p := by
      refine ⟨hfill, hmem, ?_, ?_, todo.flatMap (·.2.slots) ++ rest, ?_⟩
      · intro hin
        exact hkeys.2.2 name hin name (by simp) rfl
      · intro c hc
        exact hfree c (by rw [List.flatMap_cons]; exact List.mem_append_left _ hc)
      · rw [hheld]
        simp only [List.append_assoc]
    obtain ⟨s₁, hdoes, honly, hstage₁⟩ := does_property table h ha hnode hnext
      (hsend name p hmem) hstage
    obtain ⟨s₂, hdoes', honly', hstage₂⟩ := ih (es ++ [(name, p)]) _ _ _ s₁
      (by rw [← hes, List.append_assoc]; rfl) (Function.update_self ..)
      (by
        intro c hc
        -- no node is owned under two properties
        have hout : c ∉ p.children := fun hin => hdisjoint c hin c hc rfl
        have := hfree c (by rw [List.flatMap_cons]; exact List.mem_append_right _ hc)
        simp [this, hout])
      ⟨rest, by rw [hheld]; simp only [List.append_assoc]⟩ hstage₁
    refine ⟨s₂, ?_, honly.trans honly', ?_⟩
    · rw [filterMap_cons_toList]
      exact hdoes.append hdoes'
    · rw [Function.update_idem, List.append_assoc, owned_append] at hstage₂
      exact hstage₂

/-! ## Nodes -/

/-- The instructions that begin a node. -/
def beginNode (t : SyntaxTree) (a : NodeId) (node : AstNode) : List Instruction :=
  [.property (.ast (t.place a)) typeProperty (.str node.typeName)] ++
    (node.containerProperty.map fun name =>
      .property (.ast (t.place a)) containerPropertyProperty (.str name)).toList ++
    (node.containerIndex.map fun i =>
      .property (.ast (t.place a)) containerIndexProperty (.int (sentIndex i))).toList ++
    (node.cstNode.map fun cst =>
      .linkNode (.ast (t.place a)) cstNodeProperty (.cst (t.cstPlace cst))).toList

theorem flattenNode_eq (h : t.Linked g) (ha : t.HasNode a) (hnode : t.node? a = some node) :
    flattenNode (Numbered.ofTree t) a = beginNode t a node ++
      node.properties.entries.filterMap fun (name, p) =>
        flattenProperty (Numbered.ofTree t) (t.place a) name p := by
  have hfits := h.nodeFits ha hnode
  have hnode' : (Numbered.ofTree t).tree.node? a = some node := hnode
  have hcst : node.cstNode.bind (Numbered.ofTree t).cst? = node.cstNode.map t.cstPlace := by
    cases hc : node.cstNode with
    | none => rfl
    | some c => rw [Option.bind_some, Numbered.cst?_ofTree h (hfits.cstNode c hc)]; rfl
  simp only [flattenNode, Numbered.node?_ofTree h ha, hnode', hcst, beginNode, Option.map_map]
  rfl

/-- A node that has just been given its type has the fields of a node alone. -/
theorem does_type (table : ElementTable) (h : t.Linked g) (ha : t.HasNode a)
    (hstage : AstStage t fill owned refs s)
    (typeName : String) :
    Does table [.property (.ast (t.place a)) typeProperty (.str typeName)] s
      { s.modifyNode (t.place a) fun node => { node with typeName } with
        typed := s.typed.setIfInBounds (t.place a).index true } := by
  refine Does.one (fun _ => nofun) ?_
  unfold Site.apply Site.setNodeProperty
  simp only [hstage.needNode h ha, bind, Except.bind, if_true]
  rfl

/-- Only one slot of the abstract arena has changed. -/
structure AstPatch (s s' : Site) (k : ℕ) (node : AstNode) : Prop where
  /-- Everything but the arena is as before. -/
  rest : s' = { s with ast := s'.ast }
  /-- The arena is as long as before. -/
  size : s'.ast.size = s.ast.size
  /-- The slot holds the node. -/
  slot : s'.ast[k]? = some node
  /-- The other slots are as before. -/
  others : ∀ j, j ≠ k → s'.ast[j]? = s.ast[j]?

theorem AstPatch.refl {k : ℕ} (h : s.ast[k]? = some node) : AstPatch s s k node :=
  ⟨rfl, rfl, h, fun _ _ => rfl⟩

theorem AstPatch.modifyNode (h : s.ast[a.index]? = some node) (f : AstNode → AstNode) :
    AstPatch s (s.modifyNode a f) a.index (f node) where
  rest := rfl
  size := by rw [Site.modifyNode, Array.size_modify]
  slot := by rw [Site.modifyNode, Array.getElem?_modify, if_pos rfl, h]; rfl
  others := fun j hj => by rw [Site.modifyNode, Array.getElem?_modify, if_neg (Ne.symm hj)]

theorem AstPatch.trans {s₁ s₂ : Site} {k : ℕ} {node₁ node₂ : AstNode}
    (h₁ : AstPatch s s₁ k node₁) (h₂ : AstPatch s₁ s₂ k node₂) : AstPatch s s₂ k node₂ where
  rest := by rw [h₂.rest, h₁.rest]
  size := by rw [h₂.size, h₁.size]
  slot := h₂.slot
  others := fun j hj => by rw [h₂.others j hj, h₁.others j hj]

/-- A field that need not be there is set if it is. -/
theorem does_optional {β : Type} (table : ElementTable) (s : Site) (field : Option β)
    (set : β → Instruction) {f : β → AstNode → AstNode} (hslot : s.ast[a.index]? = some node)
    (happly : ∀ b, field = some b → (∀ root, set b ≠ .returnRoot root) ∧
      s.apply table (set b) = .ok (s.modifyNode a (f b))) :
    ∃ s', Does table (field.map set).toList s s' ∧
      AstPatch s s' a.index (field.elim node fun b => f b node) := by
  cases field with
  | none => exact ⟨s, Does.nil s, AstPatch.refl hslot⟩
  | some b =>
    exact ⟨_, Does.one (happly b rfl).1 (happly b rfl).2, AstPatch.modifyNode hslot (f b)⟩

/-- The fields that a node need not have are set one after the other. -/
theorem does_links (table : ElementTable) (h : t.Linked g) (hfits : t.NodeFits id node)
    (hindex : ∀ i ∈ node.containerIndex, i < 2 ^ 63) (hcst : s.cst.size = t.cstPreorder.length)
    {old : AstNode} (hslot : s.ast[a.index]? = some old) :
    ∃ s', Does table
        ((node.containerProperty.map fun name =>
            .property (.ast a) containerPropertyProperty (.str name)).toList ++
          (node.containerIndex.map fun i =>
            .property (.ast a) containerIndexProperty (.int (sentIndex i))).toList ++
          (node.cstNode.map fun cst =>
            .linkNode (.ast a) cstNodeProperty (.cst (t.cstPlace cst))).toList) s s' ∧
      AstPatch s s' a.index { old with
        containerProperty := node.containerProperty.or old.containerProperty
        containerIndex := node.containerIndex.or old.containerIndex
        cstNode := (node.cstNode.map t.cstPlace).or old.cstNode } := by
  have hlt : a.index < s.ast.size := (Array.getElem?_eq_some_iff.mp hslot).1
  obtain ⟨s₁, hdoes₁, hpatch₁⟩ := does_optional table s node.containerProperty
    (fun name => .property (.ast a) containerPropertyProperty (.str name))
    (f := fun name old => { old with containerProperty := some name }) hslot (by
      intro name _
      refine ⟨fun _ => nofun, ?_⟩
      have hne : ¬ containerPropertyProperty = typeProperty := by decide
      unfold Site.apply Site.setNodeProperty
      simp only [Site.needNode, if_pos hlt, bind, Except.bind, if_neg hne, if_true]
      rfl)
  obtain ⟨s₂, hdoes₂, hpatch₂⟩ := does_optional table s₁ node.containerIndex
    (fun i => .property (.ast a) containerIndexProperty (.int (sentIndex i)))
    (f := fun i old => { old with containerIndex := some i }) hpatch₁.slot (by
      intro i hi
      refine ⟨fun _ => nofun, ?_⟩
      rw [sentIndex_of_lt (hindex i hi)]
      have hne : ¬ containerIndexProperty = typeProperty := by decide
      have hne' : ¬ containerIndexProperty = containerPropertyProperty := by decide
      have hlt₁ : a.index < s₁.ast.size := by rw [hpatch₁.size]; exact hlt
      unfold Site.apply Site.setNodeProperty
      simp only [Site.needNode, if_pos hlt₁, bind, Except.bind, if_neg hne, if_neg hne', if_true]
      rfl)
  have hpatch₁₂ := hpatch₁.trans hpatch₂
  obtain ⟨s₃, hdoes₃, hpatch₃⟩ := does_optional table s₂ node.cstNode
    (fun cst => .linkNode (.ast a) cstNodeProperty (.cst (t.cstPlace cst)))
    (f := fun cst old => { old with cstNode := some (t.cstPlace cst) }) hpatch₂.slot (by
      intro cst hnode
      refine ⟨fun _ => nofun, ?_⟩
      have hlt₂ : a.index < s₂.ast.size := by rw [hpatch₁₂.size]; exact hlt
      have hcst' : (t.cstPlace cst).index < s₂.cst.size := by
        rw [hpatch₁₂.rest, hcst]
        exact h.cstPlace_lt (hfits.cstNode cst hnode)
      unfold Site.apply Site.link
      simp only [if_true, Site.needCst, if_pos hcst', Site.needNode, if_pos hlt₂, bind, Except.bind]
      rfl)
  refine ⟨s₃, (hdoes₁.append hdoes₂).append hdoes₃, ?_⟩
  have hpatch := hpatch₁₂.trans hpatch₃
  -- each field is either set or left alone
  cases hp : node.containerProperty <;> cases hi : node.containerIndex <;>
    cases hc : node.cstNode <;> simpa [hp, hi, hc] using hpatch

/-- A node has been begun once its slot holds its type and its links. -/
theorem AstStage.begun (h : t.Linked g) (ha : t.HasNode a) (hnode : t.node? a = some node)
    (hstage : AstStage t fill owned refs s) {s' : Site}
    (htyped : s'.typed = s.typed.setIfInBounds (t.place a).index true)
    (hpatch : AstPatch s { s' with typed := s.typed } (t.place a).index
      (node.staged t (owned a) (some []))) :
    AstOnly s s' ∧ AstStage t (Function.update fill a (some [])) owned refs s' := by
  have hrest : s' = { s with ast := s'.ast, typed := s'.typed } :=
    congrArg (fun r : Site => { r with typed := s'.typed }) hpatch.rest
  refine ⟨by rw [AstOnly, hrest], hpatch.size.trans hstage.size, ?_, ?_, ?_, ?_, ?_, ?_⟩
  · intro b old hb hold
    by_cases hba : b = a
    · subst hba
      obtain rfl := Option.some.inj (hnode.symm.trans hold)
      rw [Function.update_self]
      exact hpatch.slot
    · rw [Function.update_of_ne hba]
      exact (hpatch.others _ (index_place_ne h hb ha hba)).trans (hstage.slot b old hb hold)
  · rw [htyped, Array.size_setIfInBounds]
    exact hstage.typedSize
  · intro b hb
    rw [htyped]
    by_cases hba : b = a
    · subst hba
      have hlt := (Array.getElem?_eq_some_iff.mp (hstage.typed b hb)).1
      rw [Array.getElem?_setIfInBounds_self_of_lt hlt, Function.update_self]
      rfl
    · rw [Array.getElem?_setIfInBounds_ne (index_place_ne h ha hb (Ne.symm hba)),
        Function.update_of_ne hba]
      exact hstage.typed b hb
  · rw [hrest]
    exact hstage.contained
  · rw [hrest]
    exact hstage.references
  · rw [hrest]
    exact hstage.cst

/-- **A node is begun**: it gets its type and its links. -/
theorem does_beginNode (table : ElementTable) (h : t.Linked g) (ha : t.HasNode a)
    (hnode : t.node? a = some node) (hindex : ∀ i ∈ node.containerIndex, i < 2 ^ 63)
    (hstage : AstStage t fill owned refs s) (hfill : fill a = none) :
    ∃ s', Does table (beginNode t a node) s s' ∧ AstOnly s s' ∧
      AstStage t (Function.update fill a (some [])) owned refs s' := by
  have hfits := h.nodeFits ha hnode
  have hslot : s.ast[(t.place a).index]? = some (node.staged t (owned a) none) := by
    rw [hstage.slot a node ha hnode, hfill]
  have htype := AstPatch.modifyNode hslot fun old => { old with typeName := node.typeName }
  obtain ⟨s', hdoes, hlinks⟩ := does_links table h hfits hindex
    (s := { s.modifyNode (t.place a) fun old => { old with typeName := node.typeName } with
      typed := s.typed.setIfInBounds (t.place a).index true }) hstage.cst htype.slot
  refine ⟨s', ?_, hstage.begun h ha hnode (by rw [hlinks.rest]) ?_⟩
  · have hall := (does_type table h ha hstage node.typeName).append hdoes
    simpa only [beginNode, List.append_assoc] using hall
  · refine ⟨?_, hlinks.size.trans htype.size, ?_, fun j hj => ?_⟩
    · rw [hlinks.rest]
      rfl
    · refine hlinks.slot.trans ?_
      simp [AstNode.staged, AstNode.rename, AstNode.ofType, OrderedMap.empty]
    · exact (hlinks.others j hj).trans (htype.others j hj)

/-- **A node is rebuilt.** -/
theorem does_flattenNode (table : ElementTable) (h : t.Linked g) (ha : t.HasNode a)
    (hnode : t.node? a = some node)
    (hsend : ∀ name p, (name, p) ∈ node.properties.entries → Sendable name p)
    (hindex : ∀ i ∈ node.containerIndex, i < 2 ^ 63)
    (hstage : AstStage t fill owned refs s) (hfill : fill a = none)
    (hfree : ∀ c ∈ t.childrenOf a, owned c = false)
    (hheld : ∃ rest, t.heldSlots = refs ++ node.heldSlots ++ rest) :
    ∃ s', Does table (flattenNode (Numbered.ofTree t) a) s s' ∧ AstOnly s s' ∧
      AstStage t (Function.update fill a (some node.properties.entries))
        (fun b => owned b || decide (b ∈ t.childrenOf a)) (refs ++ node.heldSlots) s' := by
  have hchildren : t.childrenOf a = node.properties.entries.flatMap (·.2.children) := by
    rw [childrenOf_eq hnode, AstNode.children, OrderedMap.values, List.flatMap_map]
  have hrefs : node.heldSlots = node.properties.entries.flatMap (·.2.slots) := by
    rw [AstNode.heldSlots, OrderedMap.values, List.flatMap_map]
  obtain ⟨s₁, hdoes, honly, hstage₁⟩ := does_beginNode table h ha hnode hindex hstage hfill
  rw [hchildren] at hfree
  rw [hrefs] at hheld
  obtain ⟨s₂, hdoes', honly', hstage₂⟩ := does_entries table h ha hnode hsend
    node.properties.entries [] _ owned refs s₁ rfl (Function.update_self ..) hfree hheld hstage₁
  refine ⟨s₂, ?_, honly.trans honly', ?_⟩
  · rw [flattenNode_eq h ha hnode]
    exact hdoes.append hdoes'
  · rw [Function.update_idem] at hstage₂
    rw [hrefs]
    simpa only [hchildren] using hstage₂

/-! ## All nodes -/

/-- The stage with some more nodes complete. -/
def fillAll (t : SyntaxTree) (fill : AstFill) (ids : List NodeId) : AstFill :=
  fun b => if b ∈ ids then (t.node? b).map (·.properties.entries) else fill b

/-- The references of a node, if it is there. -/
def heldBy (t : SyntaxTree) (id : NodeId) : List (RefId × Option ℕ) :=
  ((t.node? id).map AstNode.heldSlots).getD []

/-- **Nodes are rebuilt one after the other.** -/
theorem does_flatMap_flattenNode (table : ElementTable) (h : t.Linked g) (hp : t.Portable g) :
    ∀ (todo : List NodeId) (fill : AstFill) (owned : NodeId → Bool)
      (refs : List (RefId × Option ℕ)) (s : Site),
      (∀ a ∈ todo, t.HasNode a) → todo.Nodup → (∀ a ∈ todo, fill a = none) →
      (∀ c ∈ todo.flatMap t.childrenOf, owned c = false) →
      (∃ rest, t.heldSlots = refs ++ todo.flatMap (heldBy t) ++ rest) →
      AstStage t fill owned refs s →
      ∃ s', Does table (todo.flatMap (flattenNode (Numbered.ofTree t))) s s' ∧ AstOnly s s' ∧
        AstStage t (fillAll t fill todo)
          (fun b => owned b || decide (b ∈ todo.flatMap t.childrenOf))
          (refs ++ todo.flatMap (heldBy t)) s' := by
  intro todo
  induction todo with
  | nil =>
    intro fill owned refs s _ _ _ _ _ hstage
    refine ⟨s, Does.nil s, AstOnly.refl s, ?_⟩
    have hsame : fillAll t fill [] = fill := by
      funext b
      exact if_neg List.not_mem_nil
    rw [hsame]
    simpa using hstage
  | cons a todo ih =>
    intro fill owned refs s hreach hnodup hfill hfree hheld hstage
    have ha : t.HasNode a := hreach a List.mem_cons_self
    obtain ⟨node, hnode, -⟩ := h.ast_fits a ha
    have hby : heldBy t a = node.heldSlots := by rw [heldBy, hnode]; rfl
    obtain ⟨rest, hheld⟩ := hheld
    rw [List.flatMap_cons, hby] at hheld
    obtain ⟨s₁, hdoes, honly, hstage₁⟩ := does_flattenNode table h ha hnode
      (hp.names a node ha hnode) (hp.indices a node ha hnode) hstage (hfill a List.mem_cons_self)
      (fun c hc => hfree c (by rw [List.flatMap_cons]; exact List.mem_append_left _ hc))
      ⟨todo.flatMap (heldBy t) ++ rest, by rw [hheld]; simp only [List.append_assoc]⟩
    have hnot : a ∉ todo := (List.nodup_cons.mp hnodup).1
    obtain ⟨s₂, hdoes', honly', hstage₂⟩ := ih _ _ _ s₁
      (fun b hb => hreach b (List.mem_cons_of_mem _ hb)) (List.nodup_cons.mp hnodup).2
      (by
        intro b hb
        rw [Function.update_of_ne (ne_of_mem_of_not_mem hb hnot)]
        exact hfill b (List.mem_cons_of_mem _ hb))
      (by
        intro c hc
        have hc₀ := hfree c (by rw [List.flatMap_cons]; exact List.mem_append_right _ hc)
        -- a node that two nodes own would name both as its owner
        have hout : c ∉ t.childrenOf a := by
          intro hca
          obtain ⟨b, hb, hcb⟩ := List.mem_flatMap.mp hc
          have hown := h.ast_tree.owner_eq a ha c hca
          rw [h.ast_tree.owner_eq b (hreach b (List.mem_cons_of_mem _ hb)) c hcb,
            Option.some.injEq] at hown
          exact hnot (hown ▸ hb)
        rw [hc₀, decide_eq_false hout]
        rfl)
      ⟨rest, by rw [hheld]; simp only [List.append_assoc]⟩ hstage₁
    refine ⟨s₂, ?_, honly.trans honly', ?_⟩
    · rw [List.flatMap_cons]
      exact hdoes.append hdoes'
    · have hfillAll : fillAll t (Function.update fill a (some node.properties.entries)) todo =
          fillAll t fill (a :: todo) := by
        funext b
        simp only [fillAll, List.mem_cons]
        by_cases hba : b = a
        · subst hba
          rw [if_neg hnot, if_pos (Or.inl rfl), Function.update_self, hnode]
          rfl
        · simp [hba]
      rw [hfillAll, owned_append, List.append_assoc, ← hby] at hstage₂
      exact hstage₂

theorem astStage_allocate (h : t.Linked g) {cst : Array (Option CstNode)} {root : Option CstId}
    (hcst : cst.size = t.cstPreorder.length) :
    AstStage t (fun _ => none) (fun _ => false) []
      { Site.allocate t.cstPreorder.length t.preorder.length with cst, rootCst := root } where
  size := by simp [Site.allocate]
  slot := by
    intro id node hid _
    simp [Site.allocate, h.place_lt hid, AstNode.staged, AstNode.ofType]
  typedSize := by simp [Site.allocate]
  typed := by
    intro id hid
    simp [Site.allocate, h.place_lt hid]
  contained := by
    intro id hid
    simp [Site.allocate, h.place_lt hid]
  references := rfl
  cst := hcst

/-- Every node but the root is owned by another one. -/
theorem mem_flatMap_childrenOf (h : t.Linked g) {id : NodeId} (hid : t.HasNode id) :
    id ∈ t.preorder.flatMap t.childrenOf ↔ id ≠ t.root := by
  rw [List.mem_flatMap]
  constructor
  · rintro ⟨a, ha, hmem⟩ rfl
    have := h.ast_tree.owner_eq a (h.mem_preorder.mp ha) _ hmem
    rw [h.ast_tree.root_owner] at this
    cases this
  · intro hne
    obtain ⟨n, hn⟩ := hid
    cases hn with
    | here => exact absurd rfl hne
    | @down n _ b _ hb hc => exact ⟨b, h.mem_preorder.mpr ⟨n, hb⟩, hc⟩

/-- **The abstract arena when it is complete.** -/
structure AstDone (t : SyntaxTree) (s : Site) : Prop where
  /-- It holds the nodes of the restricted tree. -/
  ast : s.ast = t.restrict.ast
  /-- Every node has a type. -/
  typed : s.typed.findIdx? (!·) = none
  /-- The references are noted in the order in which they are held. -/
  references : s.references.toList = t.heldSlots.map t.pending

theorem AstStage.done (h : t.Linked g)
    (hstage : AstStage t (fillAll t (fun _ => none) t.preorder)
      (fun b => false || decide (b ∈ t.preorder.flatMap t.childrenOf)) t.heldSlots s) :
    AstDone t s := by
  have hslots : ∀ k (hk : k < t.preorder.length), t.HasNode t.preorder[k] ∧
      (t.place t.preorder[k]).index = k := by
    intro k hk
    exact ⟨h.mem_preorder.mp (List.getElem_mem hk), h.nodup_preorder.idxOf_getElem k hk⟩
  refine ⟨?_, ?_, hstage.references⟩
  · refine Array.ext_getElem? fun k => ?_
    rw [h.restrict_ast]
    rcases Nat.lt_or_ge k t.preorder.length with hk | hk
    · obtain ⟨hid, hplace⟩ := hslots k hk
      obtain ⟨node, hnode, -⟩ := h.ast_fits _ hid
      have hslot := hstage.slot _ node hid hnode
      rw [hplace] at hslot
      rw [hslot, List.getElem?_eq_getElem hk, Option.bind_some, hnode, fillAll,
        if_pos (List.getElem_mem hk), hnode]
      simp only [Option.map_some, Bool.false_or, AstNode.staged, Option.some.injEq]
      by_cases hroot : t.preorder[k] = t.root
      · have howner := h.ast_tree.root_owner
        rw [← hroot, ownerOf, hnode, Option.bind_some] at howner
        simp [AstNode.rename, howner, OrderedMap.mapValues]
      · rw [decide_eq_true ((mem_flatMap_childrenOf h hid).mpr hroot)]
        simp [AstNode.rename, OrderedMap.mapValues]
    · rw [Array.getElem?_eq_none (by rw [hstage.size]; exact hk), List.getElem?_eq_none hk]
      rfl
  · rw [Array.findIdx?_eq_none_iff]
    intro b hb
    obtain ⟨k, hk, rfl⟩ := Array.mem_iff_getElem.mp hb
    have hk' : k < t.preorder.length := hstage.typedSize ▸ hk
    obtain ⟨hid, hplace⟩ := hslots k hk'
    obtain ⟨node, hnode, -⟩ := h.ast_fits _ hid
    have htyped := hstage.typed _ hid
    rw [hplace, fillAll, if_pos (List.getElem_mem hk'), hnode, Array.getElem?_eq_getElem hk,
      Option.some.injEq] at htyped
    rw [htyped]
    rfl

/-- **The abstract nodes are rebuilt.** -/
theorem does_nodes (table : ElementTable) (h : t.Linked g) (hp : t.Portable g)
    {cst : Array (Option CstNode)} {root : Option CstId}
    (hcst : cst.size = t.cstPreorder.length) :
    ∃ s', Does table (t.preorder.flatMap (flattenNode (Numbered.ofTree t)))
        { Site.allocate t.cstPreorder.length t.preorder.length with cst, rootCst := root } s' ∧
      AstOnly { Site.allocate t.cstPreorder.length t.preorder.length with cst, rootCst := root } s' ∧
      AstDone t s' := by
  obtain ⟨s', hdoes, honly, hstage⟩ := does_flatMap_flattenNode table h hp t.preorder
    _ _ _ _ (fun _ ha => h.mem_preorder.mp ha) h.nodup_preorder (fun _ _ => rfl) (fun _ _ => rfl)
    ⟨[], by rw [List.nil_append, List.append_nil]; rfl⟩ (astStage_allocate h hcst)
  exact ⟨s', hdoes, honly, hstage.done h⟩

end Transfer

end Workbench
