import Workbench.Proofs.OrderedMap
import Workbench.Proofs.Tree.Render
import Workbench.Tree.Path
/-!
# Paths address nodes

The path of a node is printed on the way up, from what each node records
about the slot that holds it. A path is read on the way down, from the slots
themselves. Where the two agree and no name can be taken for a separator
(`Addressable`), the path of a node leads back to it. The induction is on the
number of steps from the root; the segments of the path are carried along as
a list, and only at the end put together and split again.
-/

namespace Workbench

/-- The nodes a property owns, with their places if it is a list. -/
def Property.childSlots : Property → List (NodeId × Option ℕ)
  | .node child => [(child, none)]
  | .nodes children => children.zipIdx.map fun (child, index) => (child, some index)
  | _ => []

namespace SyntaxTree

/-- A name that can stand in a segment: it is not empty and has no separator
in it. -/
structure PlainName (name : String) : Prop where
  /-- An empty segment would be skipped. -/
  nonempty : name ≠ ""
  /-- A segment ends at the next `/`. -/
  no_slash : '/' ∉ name.toList
  /-- The name ends at the first `@`. -/
  no_at : '@' ∉ name.toList

/-- What is right about a node: its properties are a map with plain names,
and the nodes it owns record the slots they are in. -/
structure ChildrenFit (t : SyntaxTree) (id : NodeId) (node : AstNode) : Prop where
  /-- A map has each key once. -/
  keys : node.properties.keys.Nodup
  /-- Every name can stand in a segment. -/
  plain : ∀ name ∈ node.properties.keys, PlainName name
  /-- A node that is owned records by what, under which name and where. -/
  slots : ∀ name property, (name, property) ∈ node.properties.entries →
    ∀ slot ∈ property.childSlots, ∃ child, t.node? slot.1 = some child ∧
      child.container = some id ∧ child.containerProperty = some name ∧
      child.containerIndex = slot.2

/-- **The nodes are a tree with consistent slots and plain names.** -/
structure Addressable (t : SyntaxTree) : Prop where
  /-- The owned edges form a tree. -/
  tree : IsTree t.childrenOf t.ownerOf t.root
  /-- Every node is there, and is as it should be. -/
  fits : ∀ id, t.HasNode id → ∃ node, t.node? id = some node ∧ t.ChildrenFit id node

end SyntaxTree

namespace Property

theorem children_eq_childSlots (p : Property) : p.children = p.childSlots.map Prod.fst := by
  cases p with
  | nodes children =>
    rw [Property.children, childSlots, List.map_map]
    exact (List.zipIdx_map_fst 0 children).symm
  | _ => rfl

/-- A child without a place is all there is; one with a place is there. -/
theorem mem_childSlots {p : Property} {child : NodeId} {index : Option ℕ} :
    (child, index) ∈ p.childSlots ↔
      (p = .node child ∧ index = none) ∨
        ∃ children i, p = .nodes children ∧ index = some i ∧ children[i]? = some child := by
  cases p with
  | node c => simp [childSlots, eq_comm]
  | nodes children =>
    simp only [childSlots, List.mem_map, Prod.mk.injEq, Prod.exists,
      List.mk_mem_zipIdx_iff_getElem?]
    grind
  | _ => simp [childSlots]

end Property

/-! ## Segments -/

namespace AstNode

/-- What stands between the separators for a node. -/
def slotText (node : AstNode) : List Char :=
  (node.containerProperty.getD "").toList ++
    match node.containerIndex with
    | some index => '@' :: (toString index).toList
    | none => []

theorem toList_segment (node : AstNode) : node.segment.toList = '/' :: node.slotText := by
  unfold segment slotText
  cases node.containerIndex <;> simp

/-- A segment under a plain name has no separator in it. -/
theorem slotText_plain {node : AstNode} {name : String}
    (hname : node.containerProperty = some name) (hplain : SyntaxTree.PlainName name) :
    node.slotText ≠ [] ∧ '/' ∉ node.slotText := by
  have hdigits : ∀ n : ℕ, '/' ∉ (toString n).toList := by
    intro n hmem
    rw [Nat.toString_eq_repr, Nat.toList_repr] at hmem
    exact absurd (Nat.isDigit_of_mem_toDigits (by decide) (by decide) hmem) (by decide)
  rw [slotText, hname, Option.getD_some]
  refine ⟨by simp [hplain.nonempty], ?_⟩
  rw [List.mem_append, not_or]
  refine ⟨hplain.no_slash, ?_⟩
  cases node.containerIndex with
  | none => simp
  | some index => simpa using hdigits index

end AstNode

namespace SyntaxTree

variable {t : SyntaxTree}

theorem splitIndex?_of_not_mem {cs : List Char} (h : '@' ∉ cs) : splitIndex? cs = none := by
  induction cs with
  | nil => rfl
  | cons c cs ih =>
    rw [List.mem_cons, not_or] at h
    rw [splitIndex?, if_neg (Ne.symm h.1), ih h.2, Option.map_none]

theorem splitIndex?_append_at {name : List Char} (h : '@' ∉ name) (index : List Char) :
    splitIndex? (name ++ '@' :: index) = some (name, index) := by
  induction name with
  | nil => rw [List.nil_append, splitIndex?, if_pos rfl]
  | cons c name ih =>
    rw [List.mem_cons, not_or] at h
    rw [List.cons_append, splitIndex?, if_neg (Ne.symm h.1), ih h.2, Option.map_some]

/-! ## One step down -/

/-- **A segment is followed to a node that is owned.** -/
theorem mem_childrenOf_of_follow? {id child : NodeId} {segment : List Char}
    (h : t.follow? id segment = some child) : child ∈ t.childrenOf id := by
  have hslot : ∃ node name p, t.node? id = some node ∧ node.properties.get? name = some p ∧
      child ∈ p.children := by
    unfold follow? at h
    split at h
    next =>
      split at h
      next c hget =>
        obtain ⟨node, hnode, hget⟩ := Option.bind_eq_some_iff.mp hget
        cases h
        exact ⟨node, _, _, hnode, hget, List.mem_singleton_self child⟩
      next => cases h
    next name index _ =>
      obtain ⟨i, -, h⟩ := Option.bind_eq_some_iff.mp h
      split at h
      next children hget =>
        obtain ⟨node, hnode, hget⟩ := Option.bind_eq_some_iff.mp hget
        exact ⟨node, _, _, hnode, hget, List.mem_of_getElem? h⟩
      next => cases h
  obtain ⟨node, name, p, hnode, hget, hc⟩ := hslot
  rw [childrenOf_eq hnode]
  exact Linked.mem_children_of_entry (OrderedMap.mem_of_get? hget) hc

/-- **Only what is reached has an address.** -/
theorem hasNode_of_nodeAtPath? {path : String} {id : NodeId} (h : t.nodeAtPath? path = some id) :
    t.HasNode id := by
  have hdown : ∀ (segments : List (List Char)) (start : NodeId), t.HasNode start →
      segments.foldlM t.follow? start = some id → t.HasNode id := by
    intro segments
    induction segments with
    | nil =>
      intro start hstart hfold
      cases hfold
      exact hstart
    | cons segment segments ih =>
      intro start hstart hfold
      rw [List.foldlM_cons] at hfold
      obtain ⟨child, hchild, hfold⟩ := Option.bind_eq_some_iff.mp hfold
      exact ih child (hstart.down (mem_childrenOf_of_follow? hchild)) hfold
  exact hdown _ t.root (Reaches.refl t.root) h

namespace Addressable

/-- No list of nodes is longer than the arena. -/
theorem length_le (h : t.Addressable) {id : NodeId} {node : AstNode} (hid : t.HasNode id)
    (hnode : t.node? id = some node) {name : String} {children : List NodeId}
    (hp : (name, Property.nodes children) ∈ node.properties.entries) :
    children.length ≤ t.ast.size := by
  have hsub : ∀ c ∈ children, c ∈ t.childrenOf id := by
    intro c hc
    rw [childrenOf_eq hnode]
    exact Linked.mem_children_of_entry hp hc
  have hnodup : children.Nodup := by
    have hall := h.tree.nodup id hid
    rw [childrenOf_eq hnode, AstNode.children, List.nodup_flatMap] at hall
    exact hall.1 _ (List.mem_map.mpr ⟨_, hp, rfl⟩)
  refine length_le_of_index_lt hnodup NodeId.index (fun _ _ _ _ hab => NodeId.ext_index hab) ?_
  intro c hc
  obtain ⟨child, hchild, -⟩ := h.fits c (hid.down (hsub c hc))
  exact index_lt_of_node? hchild

/-- **The segment of a node is followed to it from its owner.** -/
theorem follow?_slotText (h : t.Addressable) (hsize : t.ast.size ≤ UInt64.size) {id c : NodeId}
    (hid : t.HasNode id) (hc : c ∈ t.childrenOf id) :
    ∃ child name, t.node? c = some child ∧ child.container = some id ∧
      child.containerProperty = some name ∧ PlainName name ∧
      t.follow? id child.slotText = some c := by
  obtain ⟨node, hnode, hfit⟩ := h.fits id hid
  rw [childrenOf_eq hnode, AstNode.children, List.mem_flatMap] at hc
  obtain ⟨p, hp, hc⟩ := hc
  obtain ⟨⟨name, p⟩, hentry, rfl⟩ := List.mem_map.mp hp
  rw [Property.children_eq_childSlots] at hc
  obtain ⟨⟨c, index⟩, hslot, rfl⟩ := List.mem_map.mp hc
  obtain ⟨child, hchild, howner, hname, hindex⟩ := hfit.slots name p hentry _ hslot
  have hplain := hfit.plain name (List.mem_map_of_mem hentry)
  refine ⟨child, name, hchild, howner, hname, hplain, ?_⟩
  have hget : node.properties.get? name = some p := OrderedMap.get?_of_mem hfit.keys hentry
  rw [AstNode.slotText, hname, hindex, Option.getD_some, follow?]
  rcases Property.mem_childSlots.mp hslot with ⟨rfl, rfl⟩ | ⟨children, i, rfl, rfl, hi⟩
  · simp only [List.append_nil, splitIndex?_of_not_mem hplain.no_at, String.ofList_toList, hnode,
      Option.bind_some, hget]
  · have hlt : i < UInt64.size := by
      have := (List.getElem?_eq_some_iff.mp hi).1
      have := h.length_le hid hnode hentry
      omega
    simp only [splitIndex?_append_at hplain.no_at, String.ofList_toList, Nat.toString_eq_repr,
      Text.readUnsigned?_repr hlt, hnode, Option.bind_some, hget, hi]

/-! ## All the way down -/

/-- The segments of a node lead to it from the root. -/
theorem follow_segmentsTo (h : t.Addressable) (hsize : t.ast.size ≤ UInt64.size) {k n : ℕ}
    {id : NodeId} (hk : Steps t.childrenOf k t.root id) (hn : k ≤ n) :
    ∃ texts : List (List Char),
      (t.segmentsTo n id).flatMap String.toList = texts.flatMap ('/' :: ·) ∧
      (∀ text ∈ texts, text ≠ [] ∧ '/' ∉ text) ∧
      texts.foldlM t.follow? t.root = some id := by
  -- along the way down, while the segments are found on the way up
  generalize hroot : t.root = root at hk
  induction hk generalizing n with
  | here root =>
    subst hroot
    refine ⟨[], ?_, by simp, rfl⟩
    cases n with
    | zero => rfl
    | succ n => rw [segmentsTo_succ, h.tree.root_owner]; rfl
  | @down k root p c hp hc ih =>
    obtain ⟨n, rfl⟩ : ∃ m, n = m + 1 := ⟨n - 1, by omega⟩
    obtain ⟨texts, hsegments, hplain, hfold⟩ := ih (by omega : k ≤ n) hroot
    subst hroot
    obtain ⟨child, name, hchild, howner, hname, hplainName, hfollow⟩ :=
      h.follow?_slotText hsize ⟨k, hp⟩ hc
    refine ⟨texts ++ [child.slotText], ?_, ?_, ?_⟩
    · rw [segmentsTo_succ, ownerOf, hchild, Option.bind_some, howner]
      simp only [Option.map_some, Option.toList_some, List.flatMap_append, List.flatMap_singleton,
        hsegments, AstNode.toList_segment]
    · rw [List.forall_mem_append, List.forall_mem_singleton]
      exact ⟨hplain, AstNode.slotText_plain hname hplainName⟩
    · rw [List.foldlM_append, hfold]
      simp [hfollow]

/-- **The path of a node leads to it.** -/
theorem nodeAtPath?_pathOf (h : t.Addressable) (hsize : t.ast.size ≤ UInt64.size) {id : NodeId}
    (hid : t.HasNode id) : t.nodeAtPath? (t.pathOf id) = some id := by
  obtain ⟨k, hk⟩ := hid
  have hlt := h.tree.steps_lt NodeId.index (fun b c _ _ hbc => NodeId.ext_index hbc)
    (fun b hb => by
      obtain ⟨node, hnode, -⟩ := h.fits b hb
      exact index_lt_of_node? hnode) hk
  obtain ⟨texts, hsegments, hplain, hfold⟩ := h.follow_segmentsTo hsize hk hlt.le
  have hpieces : Text.splitAt '/' (t.pathOf id).toList = [] :: texts := by
    rw [pathOf, String.toList_join, hsegments]
    exact Text.splitAt_flatMap fun text htext => (hplain text htext).2
  have hkept : ([] :: texts).filter (!·.isEmpty) = texts := by
    rw [List.filter_cons_of_neg (by simp), List.filter_eq_self]
    intro text htext
    simpa using (hplain text htext).1
  rw [nodeAtPath?, hpieces, hkept, hfold]

end Addressable

/-- **Paths are addresses**: the path of a node that is reached leads back to
it, so no two such nodes share a path, and a path that leads anywhere leads to
a node that is reached. Places are read as numbers of 64 bits; an arena of
that size has no larger ones. -/
theorem paths_address (t : SyntaxTree) (h : t.Addressable) (hsize : t.ast.size ≤ UInt64.size) :
    (∀ id, t.HasNode id → t.nodeAtPath? (t.pathOf id) = some id) ∧
      (∀ id id', t.HasNode id → t.HasNode id' → t.pathOf id = t.pathOf id' → id = id') ∧
      ∀ path id, t.nodeAtPath? path = some id → t.HasNode id := by
  refine ⟨fun id hid => h.nodeAtPath?_pathOf hsize hid, ?_, fun _ _ => hasNode_of_nodeAtPath?⟩
  intro id id' hid hid' heq
  have hlead := h.nodeAtPath?_pathOf hsize hid
  rw [heq, h.nodeAtPath?_pathOf hsize hid', Option.some.injEq] at hlead
  exact hlead.symm

/-- A root that owns a list of two nodes, the second of which owns a node. -/
def outline : SyntaxTree where
  ast := #[
    ⟨"Model", none, none, none, none, ⟨[("elements", .nodes [⟨1⟩, ⟨2⟩])]⟩⟩,
    ⟨"Element", some ⟨0⟩, some "elements", some 0, none, .empty⟩,
    ⟨"Element", some ⟨0⟩, some "elements", some 1, none, ⟨[("body", .node ⟨3⟩)]⟩⟩,
    ⟨"Body", some ⟨2⟩, some "body", none, none, .empty⟩]
  cst := #[]
  references := #[]
  root := ⟨0⟩
  cstRoot := ⟨0⟩

/-- The nodes of the outline. -/
def outlineIds : List NodeId := [⟨0⟩, ⟨1⟩, ⟨2⟩, ⟨3⟩]

theorem mem_outlineIds {id : NodeId} (hid : outline.HasNode id) : id ∈ outlineIds := by
  have hclosed : ∀ b ∈ outlineIds, ∀ c ∈ outline.childrenOf b, c ∈ outlineIds := by decide
  exact hid.invariant (by decide) hclosed

theorem addressable_outline : outline.Addressable := by
  have hnodup : ∀ b ∈ outlineIds, (outline.childrenOf b).Nodup := by decide
  have howner : ∀ b ∈ outlineIds, ∀ c ∈ outline.childrenOf b, outline.ownerOf c = some b := by
    decide
  refine ⟨⟨rfl, fun id hid => hnodup id (mem_outlineIds hid),
    fun id hid => howner id (mem_outlineIds hid)⟩, ?_⟩
  intro id hid
  have hid := mem_outlineIds hid
  simp only [outlineIds, List.mem_cons, List.not_mem_nil, or_false] at hid
  rcases hid with rfl | rfl | rfl | rfl
  case inl =>
    refine ⟨_, rfl, by decide, List.forall_mem_singleton.mpr ⟨by decide, by decide, by decide⟩, ?_⟩
    intro name property hp slot hslot
    cases List.mem_singleton.mp hp
    rcases List.mem_pair.mp hslot with rfl | rfl
    · exact ⟨_, rfl, rfl, rfl, rfl⟩
    · exact ⟨_, rfl, rfl, rfl, rfl⟩
  case inr.inr.inl =>
    refine ⟨_, rfl, by decide, List.forall_mem_singleton.mpr ⟨by decide, by decide, by decide⟩, ?_⟩
    intro name property hp slot hslot
    cases List.mem_singleton.mp hp
    cases List.mem_singleton.mp hslot
    exact ⟨_, rfl, rfl, rfl, rfl⟩
  -- the other two have no properties
  all_goals
    exact ⟨_, rfl, by decide, fun _ hname => absurd hname List.not_mem_nil,
      fun _ _ hp => absurd hp List.not_mem_nil⟩

/-- The address of the node that the second node of the list owns. -/
theorem paths_address_outline :
    outline.Addressable ∧ outline.ast.size ≤ UInt64.size ∧ outline.HasNode ⟨3⟩ ∧
      outline.pathOf ⟨3⟩ = "/elements@1/body" ∧
      outline.nodeAtPath? (outline.pathOf ⟨3⟩) = some ⟨3⟩ := by
  have hsize : outline.ast.size ≤ UInt64.size := by decide
  have hid : outline.HasNode ⟨3⟩ := by
    have h2 : outline.HasNode ⟨2⟩ := (Reaches.refl outline.root).down (by decide)
    exact h2.down (by decide)
  exact ⟨addressable_outline, hsize, hid, by decide,
    (paths_address outline addressable_outline hsize).1 ⟨3⟩ hid⟩

end SyntaxTree

end Workbench
