import Workbench.Proofs.Transfer.Nested
import Workbench.Proofs.Transfer.Owning
import Workbench.Proofs.Transfer.RoundTrip
import Workbench.Proofs.Transfer.Safety
import Workbench.Proofs.Tree.InRange
/-!
# Any instructions

A receiver takes instructions in any order, about any nodes, and with any
values. Links to what is not there yet are allowed, properties may be set
again, and nodes may be opened inside out. Whatever it accepts is a tree
whose links can be followed: beside the nesting of the concrete nodes
(`Nested`), it is kept that nothing is owned twice (`Owning`), that handles
and sources are of something that was announced (`Placed`), and that what is
there was said exactly once (`Recorded`).
-/

namespace Workbench

namespace Transfer

variable {table : ElementTable} {s s' : Site} {done : List Instruction}

/-! ## Handles -/

/-- **Handles and sources are of something that was announced.** -/
structure Placed (table : ElementTable) (s : Site) : Prop where
  cstNode : ∀ (i : ℕ) node, s.ast[i]? = some node → ∀ c ∈ node.cstNode, c.index < s.cst.size
  refs : ∀ (i : ℕ) node, s.ast[i]? = some node → ∀ r ∈ node.heldRefs,
    r.index < s.references.size
  astNode : ∀ id node, s.cst? id = some node → ∀ a ∈ node.astNode, a.index < s.ast.size
  source : ∀ id node, s.cst? id = some node → ∀ e ∈ node.source, e.index < table.entries.size
  references : ∀ r ∈ s.references, r.container.index < s.ast.size ∧
    ∀ c ∈ r.sent.refNode, c.index < s.cst.size

namespace Placed

theorem allocate (cst ast : ℕ) : Placed table (Site.allocate cst ast) := by
  have hundefined : ∀ {P : Prop} id node, (Site.allocate cst ast).cst? id = some node → P := by
    intro P id node hnode
    rw [Site.cst?_allocate] at hnode
    cases hnode
  refine ⟨?_, ?_, fun id node => hundefined id node, fun id node => hundefined id node, nofun⟩
  · intro i node hnode c hc
    rw [Site.eq_of_allocate hnode] at hc
    cases hc
  · intro i node hnode r hr
    rw [Site.eq_of_allocate hnode] at hr
    cases hr

theorem modifyNode (h : Placed table s) (id : NodeId) {f : AstNode → AstNode}
    (hcst : ∀ node, ∀ c ∈ (f node).cstNode, c ∈ node.cstNode ∨ c.index < s.cst.size)
    (hrefs : ∀ node, ∀ r ∈ (f node).heldRefs, r ∈ node.heldRefs ∨
      r.index < s.references.size) : Placed table (s.modifyNode id f) := by
  have hsize : (s.modifyNode id f).ast.size = s.ast.size := Array.size_modify
  constructor
  case cstNode =>
    intro i node' hnode' c hc
    obtain ⟨node, hnode, rfl | ⟨-, rfl⟩⟩ := Site.modifyNode_cases hnode'
    · exact h.cstNode i node' hnode c hc
    · exact (hcst node c hc).elim (h.cstNode i node hnode c) fun hlt => hlt
  case refs =>
    intro i node' hnode' r hr
    obtain ⟨node, hnode, rfl | ⟨-, rfl⟩⟩ := Site.modifyNode_cases hnode'
    · exact h.refs i node' hnode r hr
    · exact (hrefs node r hr).elim (h.refs i node hnode r) fun hlt => hlt
  case astNode =>
    rw [hsize]
    exact h.astNode
  case source => exact h.source
  case references =>
    rw [hsize]
    exact h.references

theorem adopted (h : Placed table s) {parent : NodeId} {children : List NodeId}
    (ha : Adopted parent children s s') : Placed table s' := by
  have hcst : s'.cst = s.cst := by rw [ha.frame]
  have hreferences : s'.references = s.references := by rw [ha.frame]
  have hnodes : ∀ (i : ℕ) node', s'.ast[i]? = some node' → ∃ node, s.ast[i]? = some node ∧
      node'.cstNode = node.cstNode ∧ node'.heldRefs = node.heldRefs := by
    intro i node' hnode'
    obtain ⟨node, hnode, rfl | rfl⟩ := ha.cases hnode'
    · exact ⟨node', hnode, rfl, rfl⟩
    · exact ⟨node, hnode, rfl, rfl⟩
  constructor
  case cstNode =>
    intro i node' hnode' c hc
    obtain ⟨node, hnode, hsame, -⟩ := hnodes i node' hnode'
    rw [hcst]
    exact h.cstNode i node hnode c (hsame ▸ hc)
  case refs =>
    intro i node' hnode' r hr
    obtain ⟨node, hnode, -, hsame⟩ := hnodes i node' hnode'
    rw [hreferences]
    exact h.refs i node hnode r (hsame ▸ hr)
  case astNode =>
    intro id node hnode
    rw [ha.size_ast]
    rw [Site.cst?, hcst] at hnode
    exact h.astNode id node hnode
  case source =>
    intro id node hnode
    rw [Site.cst?, hcst] at hnode
    exact h.source id node hnode
  case references =>
    rw [hreferences, hcst, ha.size_ast]
    exact h.references

theorem defined (h : Placed table s) {id : CstId} {kind : CstKind} {parent : Option CstId}
    (hd : Defined id kind parent s s') : Placed table s' := by
  have hast : s'.ast = s.ast := by rw [hd.frame]
  have hreferences : s'.references = s.references := by rw [hd.frame]
  -- a new node has neither link nor source yet
  have hnodes : ∀ j node', s'.cst? j = some node' →
      (node'.astNode = none ∧ node'.source = none) ∨ ∃ node, s.cst? j = some node ∧
        node'.astNode = node.astNode ∧ node'.source = node.source := by
    intro j node' hnode'
    have hlook := hd.cst? j
    rw [hnode', eq_comm, Option.map_eq_some_iff] at hlook
    obtain ⟨node, hnode, rfl⟩ := hlook
    split at hnode
    · cases hnode
      left
      split <;> exact ⟨rfl, rfl⟩
    · right
      refine ⟨node, hnode, ?_⟩
      split <;> exact ⟨rfl, rfl⟩
  constructor
  case cstNode =>
    rw [hast, hd.size]
    exact h.cstNode
  case refs =>
    rw [hast, hreferences]
    exact h.refs
  case astNode =>
    intro j node' hnode' a ha
    rw [hast]
    rcases hnodes j node' hnode' with ⟨hnone, -⟩ | ⟨node, hnode, hsame, -⟩
    · rw [hnone] at ha
      cases ha
    · exact h.astNode j node hnode a (hsame ▸ ha)
  case source =>
    intro j node' hnode' e he
    rcases hnodes j node' hnode' with ⟨-, hnone⟩ | ⟨node, hnode, -, hsame⟩
    · rw [hnone] at he
      cases he
    · exact h.source j node hnode e (hsame ▸ he)
  case references =>
    rw [hreferences, hast, hd.size]
    exact h.references

/-- **No instruction leads out of the arenas or the table.** -/
theorem effect (h : Placed table s) {x : Instruction} (he : Effect table s x s') :
    Placed table s' := by
  cases he with
  | quiet hx hframe hstack =>
    rw [hframe]
    exact ⟨h.cstNode, h.refs, h.astNode, h.source, h.references⟩
  | note hx htype hcontainer hproperties hcst =>
    refine h.modifyNode _ hcst fun node r hr => Or.inl ?_
    rw [AstNode.heldRefs, hproperties] at hr
    exact hr
  | @type id typeName hlt =>
    have hnode := h.modifyNode id (f := fun node => { node with typeName })
      (fun _ _ hc => Or.inl hc) fun _ _ hr => Or.inl hr
    exact ⟨hnode.cstNode, hnode.refs, hnode.astNode, hnode.source, hnode.references⟩
  | @put x node name value news s₁ hx hlt hname hnews hrefs hadopt =>
    -- the references that come with the property are noted before it is set
    have hmore : Placed table { s with references := s.references ++ news.toArray } := by
      refine ⟨h.cstNode, ?_, h.astNode, h.source, ?_⟩
      · intro i node hnode r hr
        rw [Array.size_append]
        exact Nat.lt_add_right _ (h.refs i node hnode r hr)
      · intro r hr
        rcases Array.mem_append.mp hr with hr | hr
        · exact h.references r hr
        · obtain ⟨hcontainer, hrefNode⟩ := hnews r (List.mem_toArray.mp hr)
          exact ⟨hcontainer ▸ hlt, hrefNode⟩
    have hreferences : s₁.references = s.references ++ news.toArray := by rw [hadopt.frame]
    refine (hmore.adopted hadopt).modifyNode node (fun _ _ hc => Or.inl hc) fun node r hr => ?_
    obtain ⟨rest, hrest, hperm⟩ :=
      node.properties.flatMap_values_insert_perm name value Property.refs
    rcases List.mem_append.mp (hperm.mem_iff.mp hr) with hr | hr
    · exact Or.inl (hrest.subset hr)
    · right
      rw [hreferences, Array.size_append, List.size_toArray]
      exact hrefs r hr
  | @noteCst x id f hx hkind hcontainer hroot hast hsource =>
    have hsize : (s.modifyCst id f).cst.size = s.cst.size := Array.size_modify
    refine ⟨by rw [hsize]; exact h.cstNode, h.refs, ?_, ?_, by rw [hsize]; exact h.references⟩
    · intro j node' hnode' a ha
      rw [Site.cst?_modifyCst] at hnode'
      split at hnode'
      · obtain ⟨node, hnode, rfl⟩ := Option.map_eq_some_iff.mp hnode'
        exact (hast node a ha).elim (h.astNode j node hnode a) fun hlt => hlt
      · exact h.astNode j node' hnode' a ha
    · intro j node' hnode' e he
      rw [Site.cst?_modifyCst] at hnode'
      split at hnode'
      · obtain ⟨node, hnode, rfl⟩ := Option.map_eq_some_iff.mp hnode'
        exact (hsource node e he).elim (h.source j node hnode e) fun hlt => hlt
      · exact h.source j node' hnode' e he
  | root hnone hstack hdef =>
    have hnode := h.defined hdef
    exact ⟨hnode.cstNode, hnode.refs, hnode.astNode, hnode.source, hnode.references⟩
  | below hx hparent hchildren hroot hdef hstack =>
    have hnode := h.defined hdef
    exact ⟨hnode.cstNode, hnode.refs, hnode.astNode, hnode.source, hnode.references⟩

end Placed

/-! ## What was said -/

/-- **What is there was said**: the arenas were announced, every concrete
node was defined once, and types are those that were given. -/
structure Recorded (done : List Instruction) (s : Site) : Prop where
  allocated : done.head? = some (.allocate s.cst.size s.ast.size)
  nodup : (done.filterMap Instruction.defined?).Nodup
  mem_defined : ∀ id, id ∈ done.filterMap Instruction.defined? ↔ (s.cst? id).isSome = true
  size : s.typed.size = s.ast.size
  typed : ∀ (i : ℕ) node, s.ast[i]? = some node → s.typed[i]? = some true →
    .property (.ast ⟨i⟩) typeProperty (.str node.typeName) ∈ done

namespace Recorded

theorem allocate (cst ast : ℕ) :
    Recorded [.allocate cst ast] (Site.allocate cst ast) where
  allocated := by simp [Site.allocate]
  nodup := List.nodup_nil
  mem_defined := by
    intro id
    rw [Site.cst?_allocate]
    exact ⟨by simp [Instruction.defined?], by simp⟩
  size := by simp [Site.allocate]
  typed := by
    intro i node _ htyped
    simp only [Site.allocate, Array.getElem?_replicate] at htyped
    split at htyped <;> cases htyped

/-- The first instruction stays the first. -/
theorem head?_append (h : Recorded done s) (x : Instruction) (hcst : s'.cst.size = s.cst.size)
    (hast : s'.ast.size = s.ast.size) :
    (done ++ [x]).head? = some (.allocate s'.cst.size s'.ast.size) := by
  rw [List.head?_append, h.allocated, Option.some_or, hcst, hast]

/-- Nothing is defined and no type is given. -/
theorem keep (h : Recorded done s) {x : Instruction} (hx : x.defined? = none)
    (hcst : s'.cst.size = s.cst.size) (hast : s'.ast.size = s.ast.size)
    (hsome : ∀ id, (s'.cst? id).isSome = (s.cst? id).isSome) (htyped : s'.typed = s.typed)
    (hnodes : ∀ (i : ℕ) node', s'.ast[i]? = some node' → ∃ node, s.ast[i]? = some node ∧
      node'.typeName = node.typeName) : Recorded (done ++ [x]) s' := by
  have hsame : (done ++ [x]).filterMap Instruction.defined? =
      done.filterMap Instruction.defined? := by
    rw [List.filterMap_append, List.filterMap_cons_none hx, List.filterMap_nil, List.append_nil]
  refine ⟨h.head?_append x hcst hast, ?_, ?_, by rw [htyped, hast, h.size], ?_⟩
  · rw [hsame]
    exact h.nodup
  · intro id
    rw [hsame, hsome]
    exact h.mem_defined id
  · intro i node' hnode' hflag
    obtain ⟨node, hnode, htype⟩ := hnodes i node' hnode'
    rw [htype]
    exact List.mem_append_left _ (h.typed i node hnode (htyped ▸ hflag))

/-- A concrete node is defined that was not there. -/
theorem define (h : Recorded done s) {x : Instruction} {id : CstId} (hx : x.defined? = some id)
    {kind : CstKind} {parent : Option CstId} (hd : Defined id kind parent s s') :
    Recorded (done ++ [x]) s' := by
  have hast : s'.ast = s.ast := by rw [hd.frame]
  have htyped : s'.typed = s.typed := by rw [hd.frame]
  have hmore : (done ++ [x]).filterMap Instruction.defined? =
      done.filterMap Instruction.defined? ++ [id] := by
    rw [List.filterMap_append, List.filterMap_cons_some hx, List.filterMap_nil]
  have hnew : id ∉ done.filterMap Instruction.defined? := by
    rw [h.mem_defined, hd.fresh]
    exact nofun
  refine ⟨h.head?_append x hd.size (by rw [hast]), ?_, ?_, by rw [htyped, hast, h.size], ?_⟩
  · rw [hmore]
    exact h.nodup.append (List.nodup_singleton _) (List.disjoint_singleton.mpr hnew)
  · intro j
    rw [hmore, hd.cst?, Option.isSome_map, List.mem_append, List.mem_singleton, h.mem_defined]
    split
    · next hj => exact ⟨fun _ => rfl, fun _ => Or.inr hj⟩
    · next hj => exact ⟨fun hmem => hmem.resolve_right hj, Or.inl⟩
  · intro i node hnode hflag
    rw [hast] at hnode
    rw [htyped] at hflag
    exact List.mem_append_left _ (h.typed i node hnode hflag)

/-- A node is given a type, maybe another one than before. -/
theorem type (h : Recorded done s) (id : NodeId) (typeName : String) :
    Recorded (done ++ [.property (.ast id) typeProperty (.str typeName)])
      { s.modifyNode id fun node => { node with typeName } with
        typed := s.typed.setIfInBounds id.index true } := by
  have hsame : (done ++ [Instruction.property (.ast id) typeProperty (.str typeName)]).filterMap
      Instruction.defined? = done.filterMap Instruction.defined? := by
    rw [List.filterMap_append, List.filterMap_cons_none rfl, List.filterMap_nil, List.append_nil]
  refine ⟨h.head?_append _ rfl Array.size_modify, by rw [hsame]; exact h.nodup, ?_, ?_, ?_⟩
  · intro j
    rw [hsame]
    exact h.mem_defined j
  · simp only [Site.modifyNode, Array.size_modify, Array.size_setIfInBounds, h.size]
  · intro i node hnode hflag
    simp only [Site.modifyNode, Array.getElem?_modify] at hnode
    rw [Array.getElem?_setIfInBounds] at hflag
    split at hnode
    · next hi =>
      obtain ⟨old, -, rfl⟩ := Option.map_eq_some_iff.mp hnode
      subst hi
      exact List.mem_append_right _ (List.mem_singleton.mpr rfl)
    · next hi =>
      rw [if_neg hi] at hflag
      exact List.mem_append_left _ (h.typed i node hnode hflag)

/-- **Every instruction is recorded.** -/
theorem effect (h : Recorded done s) {x : Instruction} (he : Effect table s x s') :
    Recorded (done ++ [x]) s' := by
  cases he with
  | quiet hx hframe hstack =>
    have hcst : s'.cst = s.cst := by rw [hframe]
    have hast : s'.ast = s.ast := by rw [hframe]
    refine h.keep hx (by rw [hcst]) (by rw [hast]) (fun id => ?_) (by rw [hframe]) ?_
    · rw [Site.cst?, hcst, Site.cst?]
    · rw [hast]
      exact fun i node hnode => ⟨node, hnode, rfl⟩
  | @note x id f hx htype hcontainer hproperties hcst =>
    refine h.keep hx rfl Array.size_modify (fun _ => rfl) rfl fun i node' hnode' => ?_
    obtain ⟨node, hnode, rfl | ⟨-, rfl⟩⟩ := Site.modifyNode_cases hnode'
    · exact ⟨node', hnode, rfl⟩
    · exact ⟨node, hnode, htype node⟩
  | type hlt => exact h.type _ _
  | @put x node name value news s₁ hx hlt hname hnews hrefs hadopt =>
    have hcst : s₁.cst = s.cst := by rw [hadopt.frame]
    have hsize : (s₁.setProperty node name value).ast.size = s.ast.size :=
      Array.size_modify.trans hadopt.size_ast
    refine h.keep hx (congrArg Array.size hcst) hsize (fun id => ?_)
      (show s₁.typed = s.typed by rw [hadopt.frame]) fun i node' hnode' => ?_
    · show (s₁.cst[id.index]?.join).isSome = _
      rw [hcst]
      rfl
    · obtain ⟨node, hnode, hafter⟩ := Site.modifyNode_cases hnode'
      have htype : node'.typeName = node.typeName := by
        rcases hafter with rfl | ⟨-, rfl⟩ <;> rfl
      obtain ⟨old, hold, rfl | rfl⟩ := hadopt.cases hnode
      · exact ⟨node, hold, htype⟩
      · exact ⟨old, hold, htype⟩
  | @noteCst x id f hx hkind hcontainer hroot hast hsource =>
    refine h.keep hx Array.size_modify rfl (fun j => ?_) rfl fun i node hnode =>
      ⟨node, hnode, rfl⟩
    rw [Site.cst?_modifyCst]
    split
    · exact Option.isSome_map
    · rfl
  | @root id text s₁ hnone hstack hdef =>
    have hmore := h.define (x := .rootCstNode id text) rfl hdef
    exact ⟨hmore.allocated, hmore.nodup, hmore.mem_defined, hmore.size, hmore.typed⟩
  | below hx hparent hchildren hroot hdef hstack =>
    have hmore := h.define hx hdef
    exact ⟨hmore.allocated, hmore.nodup, hmore.mem_defined, hmore.size, hmore.typed⟩

end Recorded

/-! ## The result -/

/-- **What is right about a tree that was rebuilt** from instructions. -/
structure Rebuilt (g : Grammar) (xs : List Instruction) (t : SyntaxTree) : Prop where
  inRange : t.InRange
  /-- The arenas are as large as was announced. -/
  allocated : xs.head? = some (.allocate t.cst.size t.ast.size)
  /-- Every concrete node was defined once. -/
  defined : (xs.filterMap Instruction.defined?).Perm ((List.range t.cst.size).map CstId.mk)
  /-- The concrete nodes are a tree, and all there are. -/
  cst_tree : IsTree t.cstChildrenOf t.cstOwnerOf t.cstRoot
  cst_owner : ∀ p c, c ∈ t.cstChildrenOf p ↔ t.cstOwnerOf c = some p
  cst_preorder : t.cstPreorder.Perm ((List.range t.cst.size).map CstId.mk)
  /-- The preorder has come to its end: further down there is nothing. -/
  cst_ends : ∀ n, t.cst.size ≤ n → t.cstPreorderTo n t.cstRoot = t.cstPreorder
  /-- Only the root is one, every node names it, and its source is in the
  table. -/
  cst_fits : ∀ id node, t.cst? id = some node → SyntaxTree.CstFits g t id node
  /-- Every node has a type that it was given. -/
  typed : ∀ id node, t.node? id = some node →
    .property (.ast id) typeProperty (.str node.typeName) ∈ xs
  /-- All properties of all nodes together hold every node at most once. -/
  owned : (t.ast.toList.flatMap AstNode.children).Nodup
  owner : ∀ id c, c ∈ t.childrenOf id → t.ownerOf c = some id
  /-- References have the targets of their places. -/
  targets : ∀ ref ∈ t.references,
    g.typeGraph.referenceTarget? (t.typeOf ref.container) ref.property = some ref.target

/-- Handles without repetition that are all those of an arena. -/
theorem perm_range_of_nodup {ids : List CstId} {size : ℕ} (hnodup : ids.Nodup)
    (hmem : ∀ id : CstId, id ∈ ids ↔ id.index < size) :
    ids.Perm ((List.range size).map CstId.mk) := by
  have hrange : ((List.range size).map CstId.mk).Nodup :=
    List.nodup_range.map fun a b h => congrArg CstId.index h
  refine (List.perm_ext_iff_of_nodup hnodup hrange).mpr fun id => ?_
  rw [hmem, List.mem_map]
  constructor
  · intro hlt
    exact ⟨id.index, List.mem_range.mpr hlt, rfl⟩
  · rintro ⟨i, hi, rfl⟩
    exact List.mem_range.mp hi

theorem size_of_definedCst {cst : Array CstNode} (h : s.definedCst = .ok cst) :
    cst.size = s.cst.size := by
  rw [Site.definedCst] at h
  obtain ⟨nodes, hnodes, h⟩ := bind_eq_ok h
  cases h
  rw [List.size_toArray, length_of_mapM hnodes, List.length_zipIdx, Array.length_toList]

/-- Every node of the site is defined in the end. -/
theorem cst?_of_definedCst {cst : Array CstNode} (h : s.definedCst = .ok cst) (id : CstId) :
    cst[id.index]? = s.cst? id := by
  cases hnode : cst[id.index]? with
  | none =>
    rw [Array.getElem?_eq_none_iff, size_of_definedCst h, ← Array.getElem?_eq_none_iff] at hnode
    rw [Site.cst?, hnode]
    rfl
  | some node => exact (Site.cst?_eq_some.mpr (getElem?_of_definedCst h hnode)).symm

/-- **The tree that is made of a site.** -/
structure Finished (s : Site) (t : SyntaxTree) : Prop where
  ast : t.ast = s.ast
  /-- Every node is defined in the end. -/
  size : t.cst.size = s.cst.size
  cst? : ∀ id, t.cst? id = s.cst? id
  root : t.root.index < s.ast.size
  cstRoot : s.rootCst = some t.cstRoot
  typed : ∀ flag ∈ s.typed, flag = true
  size_references : t.references.size = s.references.size
  references : ∀ ref ∈ t.references, ∃ pending ∈ s.references,
    ref.container = pending.container ∧ ref.refNode = pending.sent.refNode

namespace Finished

variable {t : SyntaxTree}

theorem of_finish {types : TypeGraph} {root : NodeId} {r : ParseResult}
    (h : s.finish types root = .ok r) : Finished s r.tree := by
  obtain ⟨cst, references, cstRoot, hcst, hreferences, htree, hroot, htyped, hcstRoot⟩ :=
    finish_ok h
  rw [htree]
  refine ⟨rfl, size_of_definedCst hcst, cst?_of_definedCst hcst, hroot, hcstRoot, htyped, ?_, ?_⟩
  · rw [List.size_toArray, length_of_mapM hreferences, Array.length_toList]
  · intro ref hmem
    obtain ⟨i, href⟩ := Array.getElem?_of_mem hmem
    rw [List.getElem?_toArray] at href
    obtain ⟨pending, hpending, hsettle⟩ := getElem?_of_mapM hreferences href
    rw [Array.getElem?_toList] at hpending
    refine ⟨pending, Array.mem_of_getElem? hpending, ?_⟩
    rw [Site.settle] at hsettle
    split at hsettle
    · cases hsettle
      exact ⟨rfl, rfl⟩
    · cases hsettle

/-- What is defined is what is in range. -/
theorem index_lt_iff (h : Finished s t) {id : CstId} :
    id.index < t.cst.size ↔ ∃ node, s.cst? id = some node := by
  rw [← h.cst? id]
  constructor
  · intro hlt
    exact ⟨_, Array.getElem?_eq_getElem hlt⟩
  · rintro ⟨node, hnode⟩
    exact SyntaxTree.index_lt_of_cst? hnode

theorem cstChildrenOf (h : Finished s t) : t.cstChildrenOf = s.below := by
  funext id
  rw [SyntaxTree.cstChildrenOf, h.cst?, Site.below]

theorem cstOwnerOf (h : Finished s t) : t.cstOwnerOf = s.owner := by
  funext id
  rw [SyntaxTree.cstOwnerOf, h.cst?, Site.owner]

/-! ### The concrete tree -/

theorem cst_tree (h : Finished s t) (hn : Nested s) :
    IsTree t.cstChildrenOf t.cstOwnerOf t.cstRoot := by
  rw [h.cstChildrenOf, h.cstOwnerOf]
  exact hn.isTree h.cstRoot

theorem cst_owner (h : Finished s t) (hn : Nested s) (p c : CstId) :
    c ∈ t.cstChildrenOf p ↔ t.cstOwnerOf c = some p := by
  rw [h.cstChildrenOf, h.cstOwnerOf]
  exact hn.owner p c

theorem names (h : Finished s t) (hn : Nested s) {id : CstId} {node : CstNode}
    (hnode : s.cst? id = some node) : node.root = t.cstRoot := by
  have hname := hn.names id node hnode
  rw [h.cstRoot, Option.some.injEq] at hname
  exact hname.symm

theorem cstRoot_lt (h : Finished s t) (hn : Nested s) : t.cstRoot.index < t.cst.size := by
  obtain ⟨node, hnode, -⟩ := hn.root t.cstRoot h.cstRoot
  exact h.index_lt_iff.mpr ⟨node, hnode⟩

/-- Children and owners are in range. -/
theorem cst_link_lt (h : Finished s t) (hn : Nested s) {p c : CstId}
    (hmem : c ∈ t.cstChildrenOf p) : p.index < t.cst.size ∧ c.index < t.cst.size := by
  have hown := (h.cst_owner hn p c).mp hmem
  constructor
  · cases hnode : t.cst? p with
    | none =>
      rw [SyntaxTree.cstChildrenOf, hnode] at hmem
      cases hmem
    | some node => exact SyntaxTree.index_lt_of_cst? hnode
  · cases hnode : t.cst? c with
    | none =>
      rw [SyntaxTree.cstOwnerOf, hnode] at hown
      cases hown
    | some node => exact SyntaxTree.index_lt_of_cst? hnode

/-- The root reaches all there is. -/
theorem hasCst_iff (h : Finished s t) (hn : Nested s) {id : CstId} :
    t.HasCst id ↔ id.index < t.cst.size := by
  constructor
  · intro hreach
    exact hreach.invariant (P := fun id => id.index < t.cst.size) (h.cstRoot_lt hn)
      fun b _ c hc => (h.cst_link_lt hn hc).2
  · intro hlt
    obtain ⟨node, hnode⟩ := h.index_lt_iff.mp hlt
    rw [SyntaxTree.HasCst, h.cstChildrenOf, ← h.names hn hnode]
    exact hn.reached id node hnode

theorem within (h : Finished s t) (hn : Nested s) :
    Within t.cstChildrenOf t.cst.size t.cstRoot := by
  intro m id hsteps
  have hlt := (h.cst_tree hn).steps_lt CstId.index (fun _ _ _ _ heq => CstId.ext_index heq)
    (fun id hid => (h.hasCst_iff hn).mp hid) hsteps
  exact hlt.le

theorem cst_preorder (h : Finished s t) (hn : Nested s) :
    t.cstPreorder.Perm ((List.range t.cst.size).map CstId.mk) := by
  rw [SyntaxTree.cstPreorder, SyntaxTree.cstPreorderTo_eq_walk]
  refine perm_range_of_nodup ((h.cst_tree hn).nodup_walk (Reaches.refl t.cstRoot)) fun id => ?_
  rw [(h.within hn).mem_walk_iff]
  exact h.hasCst_iff hn

theorem cst_fits {g : Grammar} (h : Finished s t) (hn : Nested s) (hp : Placed g.table s)
    (id : CstId) (node : CstNode) (hnode : t.cst? id = some node) :
    SyntaxTree.CstFits g t id node := by
  rw [h.cst?] at hnode
  have hname := h.names hn hnode
  refine ⟨?_, hname, hp.source id node hnode⟩
  rw [hn.kind id node hnode, hname]

/-! ### Nodes -/

/-- What two nodes own names both, so they are the same. -/
theorem owned (h : Finished s t) (ho : Owning s) :
    (t.ast.toList.flatMap AstNode.children).Nodup := by
  rw [h.ast, List.nodup_flatMap]
  constructor
  · intro node hmem
    obtain ⟨i, hnode⟩ := Array.getElem?_of_mem (Array.mem_toList_iff.mp hmem)
    exact ho.nodup i node hnode
  · rw [List.pairwise_iff_getElem]
    intro i j hi hj hij c hci hcj
    have hown := (ho.held i _ (Array.getElem?_eq_getElem hi) c hci).2
    rw [(ho.held j _ (Array.getElem?_eq_getElem hj) c hcj).2] at hown
    have hsame : j = i := congrArg NodeId.index (Option.some.inj hown)
    omega

theorem ownerOf (h : Finished s t) : t.ownerOf = s.ownerOf := by
  funext c
  rw [SyntaxTree.ownerOf, SyntaxTree.node?, h.ast, Site.ownerOf]

theorem owner (h : Finished s t) (ho : Owning s) (id c : NodeId) (hc : c ∈ t.childrenOf id) :
    t.ownerOf c = some id := by
  rw [SyntaxTree.childrenOf, SyntaxTree.node?, h.ast] at hc
  rw [h.ownerOf]
  cases hnode : s.ast[id.index]? with
  | none =>
    rw [hnode] at hc
    cases hc
  | some node =>
    rw [hnode] at hc
    exact (ho.held id.index node hnode c hc).2

/-! ### Handles -/

theorem inRange_node (h : Finished s t) (ho : Owning s) (hp : Placed table s) {node : AstNode}
    (hmem : node ∈ t.ast) : node.InRange t := by
  rw [h.ast] at hmem
  obtain ⟨i, hnode⟩ := Array.getElem?_of_mem hmem
  refine ⟨fun p hown => ?_, fun c hc => ?_, fun c hc => ?_, fun ref href => ?_⟩
  · rw [h.ast]
    exact ho.owner_lt ⟨i⟩ p (by rw [Site.ownerOf, hnode]; exact hown)
  · rw [h.size]
    exact hp.cstNode i node hnode c hc
  · rw [h.ast]
    obtain ⟨child, hchild, -⟩ := Option.bind_eq_some_iff.mp (ho.held i node hnode c hc).2
    exact (Array.getElem?_eq_some_iff.mp hchild).1
  · rw [h.size_references]
    exact hp.refs i node hnode ref href

theorem inRange_cst (h : Finished s t) (hn : Nested s) (hp : Placed table s) {node : CstNode}
    (hmem : node ∈ t.cst) : node.InRange t := by
  obtain ⟨i, hlook⟩ := Array.getElem?_of_mem hmem
  have hnode : s.cst? ⟨i⟩ = some node := (h.cst? ⟨i⟩).symm.trans hlook
  refine ⟨fun p hown => ?_, ?_, fun c hc => ?_, fun a ha => ?_⟩
  · have hchild : (⟨i⟩ : CstId) ∈ t.cstChildrenOf p := by
      rw [h.cst_owner hn, SyntaxTree.cstOwnerOf, h.cst?, hnode]
      exact hown
    exact (h.cst_link_lt hn hchild).1
  · rw [h.names hn hnode]
    exact h.cstRoot_lt hn
  · have hchild : c ∈ t.cstChildrenOf ⟨i⟩ := by
      rw [SyntaxTree.cstChildrenOf, h.cst?, hnode]
      exact hc
    exact (h.cst_link_lt hn hchild).2
  · rw [h.ast]
    exact hp.astNode ⟨i⟩ node hnode a ha

theorem inRange (h : Finished s t) (hn : Nested s) (ho : Owning s) (hp : Placed table s) :
    t.InRange where
  root := by
    rw [h.ast]
    exact h.root
  cstRoot := h.cstRoot_lt hn
  nodes := fun _ hmem => h.inRange_node ho hp hmem
  cstNodes := fun _ hmem => h.inRange_cst hn hp hmem
  references := by
    intro ref hmem
    obtain ⟨pending, hpending, hcontainer, hrefNode⟩ := h.references ref hmem
    obtain ⟨hlt, hlts⟩ := hp.references pending hpending
    refine ⟨?_, ?_⟩
    · rw [hcontainer, h.ast]
      exact hlt
    · rw [hrefNode, h.size]
      exact hlts

/-- Every node was given the type it has. -/
theorem type_mem (h : Finished s t) (hr : Recorded done s) (id : NodeId) (node : AstNode)
    (hnode : t.node? id = some node) :
    .property (.ast id) typeProperty (.str node.typeName) ∈ done := by
  rw [SyntaxTree.node?, h.ast] at hnode
  have hlt : id.index < s.typed.size := by
    rw [hr.size]
    exact (Array.getElem?_eq_some_iff.mp hnode).1
  refine hr.typed id.index node hnode ?_
  rw [Array.getElem?_eq_getElem hlt, h.typed _ (Array.getElem_mem hlt)]

end Finished

/-- **Whatever the instructions, what is rebuilt is safe to use**: its handles
are in range, its concrete nodes are one tree in which each was defined once,
its nodes have types and are owned at most once, and its references have the
targets that the types record. -/
theorem rebuilt_of_rebuild {g : Grammar} {xs : List Instruction} {r : ParseResult}
    (h : rebuild g xs = .ok r) : Rebuilt g xs r.tree := by
  have hsettled := settled_of_rebuild h
  unfold rebuild at h
  split at h
  · next cst ast rest =>
    -- the invariants are carried through the run side by side
    obtain ⟨s, root, ⟨hnested, howning, hplaced, hrecorded⟩, hfinish⟩ :=
      Effect.run (P := fun done s =>
          Nested s ∧ Owning s ∧ Placed g.table s ∧ Recorded done s)
        (fun done s x s' hs he =>
          ⟨hs.1.effect he, hs.2.1.effect he, hs.2.2.1.effect he, hs.2.2.2.effect he⟩)
        [.allocate cst ast]
        ⟨.allocate cst ast, .allocate cst ast, .allocate cst ast, .allocate cst ast⟩ h
    have hfinished := Finished.of_finish hfinish
    exact
      { inRange := hfinished.inRange hnested howning hplaced
        allocated := by
          rw [hfinished.size, hfinished.ast]
          exact hrecorded.allocated
        defined := perm_range_of_nodup hrecorded.nodup fun id => by
          rw [hfinished.index_lt_iff, ← Option.isSome_iff_exists]
          exact hrecorded.mem_defined id
        cst_tree := hfinished.cst_tree hnested
        cst_owner := hfinished.cst_owner hnested
        cst_preorder := hfinished.cst_preorder hnested
        cst_ends := fun n hn => by
          rw [SyntaxTree.cstPreorder, SyntaxTree.cstPreorderTo_eq_walk,
            SyntaxTree.cstPreorderTo_eq_walk]
          exact (hfinished.within hnested).walk_eq hn
        cst_fits := hfinished.cst_fits hnested hplaced
        typed := hfinished.type_mem hrecorded
        owned := hfinished.owned howning
        owner := hfinished.owner howning
        targets := fun ref hmem => by
          obtain ⟨i, href⟩ := Array.getElem?_of_mem hmem
          exact hsettled.targets ⟨i⟩ ref href }
  · cases h

namespace Shuffled

/-- Instructions that link nodes without a type, refer to a leaf that comes
later, open nodes in no order of their numbers, and set a property twice. -/
def instructions : List Instruction := [
  .allocate 3 3,
  .linkNode (.ast ⟨2⟩) "items" (.ast ⟨1⟩),
  .rootCstNode ⟨2⟩ "b",
  .reference ⟨0⟩ "next" ⟨"b", some ⟨0⟩⟩,
  .compositeCstNode ⟨1⟩,
  .linkNodeArray ⟨2⟩ "items" [⟨0⟩],
  .leafCstNode ⟨0⟩ "ID" 0 1 ⟨⟨0, 0⟩, ⟨0, 1⟩⟩,
  .property (.cst ⟨0⟩) sourceProperty (.int 5),
  .linkNode (.cst ⟨0⟩) astNodeProperty (.ast ⟨1⟩),
  .popCstNode,
  .property (.ast ⟨1⟩) typeProperty (.str "Item"),
  .property (.ast ⟨2⟩) typeProperty (.str "Item"),
  .property (.ast ⟨2⟩) typeProperty (.str "Model"),
  .property (.ast ⟨0⟩) typeProperty (.str "Item"),
  .popCstNode,
  .returnRoot ⟨2⟩]

end Shuffled

/-- Instructions in no order are accepted, and what they rebuild is safe. -/
theorem rebuilt_of_rebuild_shuffled :
    ∃ r, rebuild Remains.grammar Shuffled.instructions = .ok r ∧
      r.tree.references.size = 1 ∧ Rebuilt Remains.grammar Shuffled.instructions r.tree := by
  have hsize : (rebuild Remains.grammar Shuffled.instructions).toOption.map
      (fun r => r.tree.references.size) = some 1 := by decide +kernel
  cases h : rebuild Remains.grammar Shuffled.instructions with
  | error e =>
    rw [h] at hsize
    cases hsize
  | ok r =>
    rw [h] at hsize
    exact ⟨r, rfl, Option.some.inj hsize, rebuilt_of_rebuild h⟩

end Transfer

end Workbench
