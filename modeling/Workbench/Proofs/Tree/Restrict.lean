import Workbench.Grammar.Table
import Workbench.Grammar.Types
import Workbench.Proofs.Tree.Walk
/-!
# Trees restricted to what their roots reach

The arenas of a syntax tree may be in any order, and may hold nodes and
references that nothing leads to any more. `SyntaxTree.restrict` is the tree
without these: the nodes in preorder, the references in the order in which
the nodes hold them, and every handle replaced by the place of what it
stands for. A handle of something that is not reached becomes one that is
out of range.

`Linked` says when the links of a tree agree with each other. It is stated
of the nodes that the roots reach, so that it says nothing about the rest.
A reference also records its place in the list that holds it; where it
records another one, the two trees differ in that (`received`).
-/

namespace Workbench

/-! ## New handles -/

/-- A property with new handles. -/
def Property.rename (nodeName : NodeId → NodeId) (refName : RefId → RefId) : Property → Property
  | .node child => .node (nodeName child)
  | .nodes children => .nodes (children.map nodeName)
  | .reference ref => .reference (refName ref)
  | .references refs => .references (refs.map refName)
  | .scalar value => .scalar value
  | .scalars values => .scalars values
  | .empty => .empty

/-- A node with new handles. -/
def AstNode.rename (nodeName : NodeId → NodeId) (cstName : CstId → CstId)
    (refName : RefId → RefId) (node : AstNode) : AstNode :=
  { node with
    container := node.container.map nodeName
    cstNode := node.cstNode.map cstName
    properties := node.properties.mapValues fun _ => Property.rename nodeName refName }

/-- A concrete node with new handles. -/
def CstNode.rename (nodeName : NodeId → NodeId) (cstName : CstId → CstId) (node : CstNode) :
    CstNode :=
  { node with
    kind := node.kind.mapChildren (·.map cstName)
    container := node.container.map cstName
    root := cstName node.root
    astNode := node.astNode.map nodeName }

/-- A reference with new handles. -/
def Reference.rename (nodeName : NodeId → NodeId) (cstName : CstId → CstId) (ref : Reference) :
    Reference :=
  { ref with
    container := nodeName ref.container
    refNode := ref.refNode.map cstName }

/-- The references a node holds, in property order. -/
def AstNode.heldRefs (node : AstNode) : List RefId := node.properties.values.flatMap Property.refs

/-- The references a property holds, with their places if it is a list. -/
def Property.slots : Property → List (RefId × Option ℕ)
  | .reference ref => [(ref, none)]
  | .references refs => refs.zipIdx.map fun (ref, index) => (ref, some index)
  | _ => []

/-- The references a node holds, with their places in lists. -/
def AstNode.heldSlots (node : AstNode) : List (RefId × Option ℕ) :=
  node.properties.values.flatMap Property.slots

/-- Whether a concrete node holds the text. -/
def CstKind.isRoot : CstKind → Bool
  | .root _ _ => true
  | _ => false

theorem NodeId.ext_index {a b : NodeId} (h : a.index = b.index) : a = b := by
  cases a
  cases b
  exact congrArg NodeId.mk h

theorem CstId.ext_index {a b : CstId} (h : a.index = b.index) : a = b := by
  cases a
  cases b
  exact congrArg CstId.mk h

theorem RefId.ext_index {a b : RefId} (h : a.index = b.index) : a = b := by
  cases a
  cases b
  exact congrArg RefId.mk h

namespace SyntaxTree

/-! ## What the roots reach -/

/-- The node that a node names as its owner. -/
def ownerOf (t : SyntaxTree) (id : NodeId) : Option NodeId := (t.node? id).bind AstNode.container

/-- The concrete node that a concrete node names as its owner. -/
def cstOwnerOf (t : SyntaxTree) (id : CstId) : Option CstId := (t.cst? id).bind CstNode.container

/-- The root reaches the node. -/
def HasNode (t : SyntaxTree) (id : NodeId) : Prop := Reaches t.childrenOf t.root id

/-- The concrete root reaches the concrete node. -/
def HasCst (t : SyntaxTree) (id : CstId) : Prop := Reaches t.cstChildrenOf t.cstRoot id

/-- The references held by the nodes that the root reaches, in the order of
the nodes and of their properties. -/
def held (t : SyntaxTree) : List RefId :=
  t.preorder.flatMap fun id => ((t.node? id).map AstNode.heldRefs).getD []

/-- The references that are held, with their places in lists. -/
def heldSlots (t : SyntaxTree) : List (RefId × Option ℕ) :=
  t.preorder.flatMap fun id => ((t.node? id).map AstNode.heldSlots).getD []

/-- The place of a node in the preorder. -/
def place (t : SyntaxTree) (id : NodeId) : NodeId := ⟨t.preorder.idxOf id⟩

/-- The place of a concrete node in the preorder. -/
def cstPlace (t : SyntaxTree) (id : CstId) : CstId := ⟨t.cstPreorder.idxOf id⟩

/-- The place of a reference among those that are held. -/
def refPlace (t : SyntaxTree) (id : RefId) : RefId := ⟨t.held.idxOf id⟩

/-- **A tree restricted to what its roots reach.** -/
def restrict (t : SyntaxTree) : SyntaxTree :=
  { ast := (t.preorder.filterMap fun id =>
      (t.node? id).map (AstNode.rename t.place t.cstPlace t.refPlace)).toArray
    cst := (t.cstPreorder.filterMap fun id =>
      (t.cst? id).map (CstNode.rename t.place t.cstPlace)).toArray
    references := (t.held.filterMap fun id =>
      (t.reference? id).map (Reference.rename t.place t.cstPlace)).toArray
    root := t.place t.root
    cstRoot := t.cstPlace t.cstRoot }

/-- A tree as its receiver sees it: restricted to what its roots reach, and
with every reference at the place where it is held. -/
def received (t : SyntaxTree) : SyntaxTree :=
  { t.restrict with
    references := (t.heldSlots.filterMap fun (id, index) =>
      (t.reference? id).map fun ref => { ref.rename t.place t.cstPlace with index }).toArray }

/-- What is right about a concrete node: only the root holds the text, it
names the root, and its source is in the table of the grammar. -/
structure CstFits (g : Grammar) (t : SyntaxTree) (id : CstId) (node : CstNode) : Prop where
  /-- Only the root is of the kind of a root. -/
  kind : node.kind.isRoot = true ↔ id = t.cstRoot
  /-- The node names the root. -/
  root : node.root = t.cstRoot
  /-- The element that produced the node is one of the grammar. -/
  source : ∀ e ∈ node.source, e.index < g.table.entries.size

/-- What is right about a reference that a property holds: it records the
node and the property, and its text is in the concrete tree. -/
structure RefFits (t : SyntaxTree) (id : NodeId) (name : String) (ref : Reference) : Prop where
  /-- It records the node that holds it. -/
  container : ref.container = id
  /-- It records the property that holds it. -/
  property : ref.property = name
  /-- The leaf of its text is reached. -/
  refNode : ∀ c ∈ ref.refNode, t.HasCst c

/-- What is right about a node: its properties are a map, its concrete node
is reached, and it holds each reference where the reference says. -/
structure NodeFits (t : SyntaxTree) (id : NodeId) (node : AstNode) : Prop where
  /-- A map has each key once. -/
  keys : node.properties.keys.Nodup
  /-- The concrete node of the node is reached. -/
  cstNode : ∀ c ∈ node.cstNode, t.HasCst c
  /-- A property holds a reference once. -/
  distinct : ∀ name property, (name, property) ∈ node.properties.entries → property.refs.Nodup
  /-- Every reference that is held records by what. -/
  refs : ∀ name property, (name, property) ∈ node.properties.entries →
    ∀ ref ∈ property.refs,
      ∃ reference, t.reference? ref = some reference ∧ RefFits t id name reference

/-- **The links of a tree agree with each other**, as far as the roots
reach. -/
structure Linked (g : Grammar) (t : SyntaxTree) : Prop where
  /-- The concrete nodes are a tree. -/
  cst_tree : IsTree t.cstChildrenOf t.cstOwnerOf t.cstRoot
  /-- Every concrete node is there, and is as it should be. -/
  cst_fits : ∀ id, t.HasCst id → ∃ node, t.cst? id = some node ∧ CstFits g t id node
  /-- The nodes are a tree. -/
  ast_tree : IsTree t.childrenOf t.ownerOf t.root
  /-- Every node is there, and is as it should be. -/
  ast_fits : ∀ id, t.HasNode id → ∃ node, t.node? id = some node ∧ NodeFits t id node

/-! ## Preorders -/

theorem preorderTo_eq_walk (t : SyntaxTree) (n : ℕ) (id : NodeId) :
    t.preorderTo n id = walk t.childrenOf n id := by
  induction n generalizing id with
  | zero => rfl
  | succ n ih =>
    have hrec : t.preorderTo n = walk t.childrenOf n := funext ih
    rw [preorderTo, walk, hrec]

theorem cstPreorderTo_eq_walk (t : SyntaxTree) (n : ℕ) (id : CstId) :
    t.cstPreorderTo n id = walk t.cstChildrenOf n id := by
  induction n generalizing id with
  | zero => rfl
  | succ n ih =>
    have hrec : t.cstPreorderTo n = walk t.cstChildrenOf n := funext ih
    rw [cstPreorderTo, walk, hrec]

theorem index_lt_of_node? {t : SyntaxTree} {id : NodeId} {node : AstNode}
    (h : t.node? id = some node) : id.index < t.ast.size :=
  (Array.getElem?_eq_some_iff.mp h).1

theorem index_lt_of_cst? {t : SyntaxTree} {id : CstId} {node : CstNode}
    (h : t.cst? id = some node) : id.index < t.cst.size :=
  (Array.getElem?_eq_some_iff.mp h).1

theorem childrenOf_eq {t : SyntaxTree} {id : NodeId} {node : AstNode}
    (h : t.node? id = some node) : t.childrenOf id = node.children := by
  rw [childrenOf, h]
  rfl

theorem cstChildrenOf_eq {t : SyntaxTree} {id : CstId} {node : CstNode}
    (h : t.cst? id = some node) : t.cstChildrenOf id = node.children := by
  rw [cstChildrenOf, h]
  rfl

theorem ownerOf_eq {t : SyntaxTree} {id : NodeId} {node : AstNode}
    (h : t.node? id = some node) : t.ownerOf id = node.container := by
  rw [ownerOf, h]
  rfl

theorem cstOwnerOf_eq {t : SyntaxTree} {id : CstId} {node : CstNode}
    (h : t.cst? id = some node) : t.cstOwnerOf id = node.container := by
  rw [cstOwnerOf, h]
  rfl

namespace Linked

variable {g : Grammar} {t : SyntaxTree}

theorem mem_children_of_entry {node : AstNode} {name : String} {p : Property} {c : NodeId}
    (hp : (name, p) ∈ node.properties.entries) (hc : c ∈ p.children) : c ∈ node.children := by
  rw [AstNode.children, OrderedMap.values, List.mem_flatMap]
  exact ⟨p, List.mem_map.mpr ⟨(name, p), hp, rfl⟩, hc⟩

/-- A node that is looked up is as it should be. -/
theorem nodeFits (h : t.Linked g) {id : NodeId} (hid : t.HasNode id) {node : AstNode}
    (hnode : t.node? id = some node) : t.NodeFits id node := by
  obtain ⟨node', hnode', hfits⟩ := h.ast_fits id hid
  obtain rfl := Option.some.inj (hnode.symm.trans hnode')
  exact hfits

/-- A concrete node that is looked up is as it should be. -/
theorem cstFits (h : t.Linked g) {id : CstId} (hid : t.HasCst id) {node : CstNode}
    (hnode : t.cst? id = some node) : t.CstFits g id node := by
  obtain ⟨node', hnode', hfits⟩ := h.cst_fits id hid
  obtain rfl := Option.some.inj (hnode.symm.trans hnode')
  exact hfits

/-- No node lies deeper than the arena is long. -/
theorem within (h : t.Linked g) : Within t.childrenOf t.ast.size t.root := by
  intro n id hn
  have hlt := h.ast_tree.steps_lt NodeId.index (fun b c _ _ hbc => NodeId.ext_index hbc)
    (fun b hb => by
      obtain ⟨node, hnode, -⟩ := h.ast_fits b hb
      exact index_lt_of_node? hnode) hn
  omega

/-- No concrete node lies deeper than the arena is long. -/
theorem cst_within (h : t.Linked g) : Within t.cstChildrenOf t.cst.size t.cstRoot := by
  intro n id hn
  have hlt := h.cst_tree.steps_lt CstId.index (fun b c _ _ hbc => CstId.ext_index hbc)
    (fun b hb => by
      obtain ⟨node, hnode, -⟩ := h.cst_fits b hb
      exact index_lt_of_cst? hnode) hn
  omega

/-- **The preorder lists what the root reaches.** -/
theorem mem_preorder (h : t.Linked g) {id : NodeId} : id ∈ t.preorder ↔ t.HasNode id := by
  rw [preorder, preorderFrom, preorderTo_eq_walk]
  exact h.within.mem_walk_iff

theorem mem_cstPreorder (h : t.Linked g) {id : CstId} : id ∈ t.cstPreorder ↔ t.HasCst id := by
  rw [cstPreorder, cstPreorderTo_eq_walk]
  exact h.cst_within.mem_walk_iff

/-- **The preorder lists nothing twice.** -/
theorem nodup_preorder (h : t.Linked g) : t.preorder.Nodup := by
  rw [preorder, preorderFrom, preorderTo_eq_walk]
  exact h.ast_tree.nodup_walk (Reaches.refl _)

theorem nodup_cstPreorder (h : t.Linked g) : t.cstPreorder.Nodup := by
  rw [cstPreorder, cstPreorderTo_eq_walk]
  exact h.cst_tree.nodup_walk (Reaches.refl _)

end Linked

/-- The root comes first. -/
theorem place_root (t : SyntaxTree) : t.place t.root = ⟨0⟩ := by
  rw [place, preorder, preorderFrom, preorderTo_eq_walk]
  cases t.ast.size <;> simp [walk]

/-! ## References that are held -/

end SyntaxTree

namespace Property

theorem refs_eq_slots (p : Property) : p.refs = p.slots.map Prod.fst := by
  cases p with
  | references refs =>
    rw [Property.refs, slots, List.map_map]
    exact (List.zipIdx_map_fst 0 refs).symm
  | _ => rfl

/-- Two places of one reference are one place if it can record only one. -/
theorem nodup_refs {p : Property}
    (h : ∀ ref i j, (ref, i) ∈ p.slots → (ref, j) ∈ p.slots → i = j) : p.refs.Nodup := by
  cases p with
  | references refs =>
    rw [Property.refs, List.nodup_iff_getElem?_ne_getElem?]
    intro i j hij hj heq
    have hi : i < refs.length := by omega
    rw [List.getElem?_eq_getElem hi, List.getElem?_eq_getElem hj] at heq
    have hmem :
        ∀ k (hk : k < refs.length), (refs[k], some k) ∈ (Property.references refs).slots := by
      intro k hk
      rw [slots, List.mem_map]
      exact ⟨(refs[k], k), List.mk_mem_zipIdx_iff_getElem?.mpr (List.getElem?_eq_getElem hk), rfl⟩
    have hsame := h refs[i] (some i) (some j) (hmem i hi) (Option.some.inj heq ▸ hmem j hj)
    exact absurd (Option.some.inj hsame) (by omega)
  | reference ref => simp [Property.refs]
  | _ => simp [Property.refs]

end Property

namespace SyntaxTree

theorem mem_heldRefs {node : AstNode} {ref : RefId} :
    ref ∈ node.heldRefs ↔ ∃ name property,
      (name, property) ∈ node.properties.entries ∧ ref ∈ property.refs := by
  simp only [AstNode.heldRefs, OrderedMap.values, List.mem_flatMap, List.mem_map]
  constructor
  · rintro ⟨p, ⟨⟨name, q⟩, hq, rfl⟩, href⟩
    exact ⟨name, q, hq, href⟩
  · rintro ⟨name, p, hp, href⟩
    exact ⟨p, ⟨(name, p), hp, rfl⟩, href⟩

theorem heldRefs_eq_heldSlots (node : AstNode) :
    node.heldRefs = node.heldSlots.map Prod.fst := by
  rw [AstNode.heldRefs, AstNode.heldSlots, List.map_flatMap]
  exact List.flatMap_congr fun p _ => p.refs_eq_slots

theorem held_eq_heldSlots (t : SyntaxTree) : t.held = t.heldSlots.map Prod.fst := by
  rw [held, heldSlots, List.map_flatMap]
  refine List.flatMap_congr fun id _ => ?_
  cases t.node? id with
  | none => rfl
  | some node => exact heldRefs_eq_heldSlots node

/-- A node holds no reference twice. -/
theorem NodeFits.nodup_heldRefs {t : SyntaxTree} {id : NodeId} {node : AstNode}
    (h : t.NodeFits id node) : node.heldRefs.Nodup := by
  rw [AstNode.heldRefs, OrderedMap.values, List.flatMap_map, List.nodup_flatMap]
  refine ⟨fun e he => h.distinct e.1 e.2 he, ?_⟩
  have hkeys := h.keys
  rw [OrderedMap.keys, List.Nodup, List.pairwise_map] at hkeys
  refine hkeys.imp_of_mem ?_
  -- a reference in two properties would record both names
  rintro ⟨name, p⟩ ⟨name', p'⟩ hp hp' hne ref hr hr'
  obtain ⟨r, hlook, hfit⟩ := h.refs name p hp ref hr
  obtain ⟨r', hlook', hfit'⟩ := h.refs name' p' hp' ref hr'
  rw [hlook, Option.some.injEq] at hlook'
  subst hlook'
  exact hne (hfit.property ▸ hfit'.property)

namespace Linked

variable {g : Grammar} {t : SyntaxTree}

theorem mem_held (h : t.Linked g) {ref : RefId} :
    ref ∈ t.held ↔ ∃ id node, t.HasNode id ∧ t.node? id = some node ∧ ref ∈ node.heldRefs := by
  rw [held, List.mem_flatMap]
  constructor
  · rintro ⟨id, hid, href⟩
    obtain ⟨node, hnode, -⟩ := h.ast_fits id (h.mem_preorder.mp hid)
    rw [hnode] at href
    exact ⟨id, node, h.mem_preorder.mp hid, hnode, href⟩
  · rintro ⟨id, node, hid, hnode, href⟩
    refine ⟨id, h.mem_preorder.mpr hid, ?_⟩
    rw [hnode]
    exact href

/-- **No reference is held twice.** -/
theorem nodup_held (h : t.Linked g) : t.held.Nodup := by
  rw [held, List.nodup_flatMap]
  refine ⟨?_, ?_⟩
  · intro id hid
    obtain ⟨node, hnode, hfit⟩ := h.ast_fits id (h.mem_preorder.mp hid)
    rw [hnode]
    exact hfit.nodup_heldRefs
  · refine h.nodup_preorder.imp_of_mem ?_
    intro a b ha hb hab ref hra hrb
    obtain ⟨node, hnode, hfit⟩ := h.ast_fits a (h.mem_preorder.mp ha)
    obtain ⟨node', hnode', hfit'⟩ := h.ast_fits b (h.mem_preorder.mp hb)
    simp only [hnode, hnode', Option.map_some, Option.getD_some] at hra hrb
    obtain ⟨name, p, hp, hi⟩ := mem_heldRefs.mp hra
    obtain ⟨name', p', hp', hj⟩ := mem_heldRefs.mp hrb
    obtain ⟨r, hr, hrfit⟩ := hfit.refs name p hp ref hi
    obtain ⟨r', hr', hrfit'⟩ := hfit'.refs name' p' hp' ref hj
    rw [hr, Option.some.injEq] at hr'
    subst hr'
    exact hab (hrfit.container ▸ hrfit'.container)

theorem reference?_of_held (h : t.Linked g) {ref : RefId} (href : ref ∈ t.held) :
    ∃ reference, t.reference? ref = some reference := by
  obtain ⟨id, node, hid, hnode, hheld⟩ := h.mem_held.mp href
  have hfit := h.nodeFits hid hnode
  obtain ⟨name, p, hp, hi⟩ := mem_heldRefs.mp hheld
  obtain ⟨r, hr, -⟩ := hfit.refs name p hp ref hi
  exact ⟨r, hr⟩

end Linked

/-! ## Looking up in the restricted tree -/

/-- Where nothing is dropped, places are kept. -/
theorem getElem?_filterMap_of_isSome {α β : Type} {f : α → Option β} {l : List α}
    (h : ∀ a ∈ l, (f a).isSome) (k : ℕ) : (l.filterMap f)[k]? = l[k]?.bind f := by
  induction l generalizing k with
  | nil => simp
  | cons a l ih =>
    obtain ⟨b, hb⟩ := Option.isSome_iff_exists.mp (h a (by simp))
    rw [List.filterMap_cons, hb]
    cases k with
    | zero => simp [hb]
    | succ k => simpa using ih (fun c hc => h c (by simp [hc])) k

theorem length_filterMap_of_isSome {α β : Type} {f : α → Option β} {l : List α}
    (h : ∀ a ∈ l, (f a).isSome) : (l.filterMap f).length = l.length := by
  induction l with
  | nil => rfl
  | cons a l ih =>
    obtain ⟨b, hb⟩ := Option.isSome_iff_exists.mp (h a (by simp))
    rw [List.filterMap_cons, hb, List.length_cons, List.length_cons,
      ih fun c hc => h c (by simp [hc])]

theorem getElem?_idxOf {α : Type} [DecidableEq α] {l : List α} {a : α} (h : a ∈ l) :
    l[l.idxOf a]? = some a := by
  have hlt := List.idxOf_lt_length_of_mem h
  rw [List.getElem?_eq_getElem hlt, List.getElem_idxOf hlt]

namespace Linked

variable {g : Grammar} {t : SyntaxTree}

theorem isSome_node? (h : t.Linked g) {id : NodeId} (hid : id ∈ t.preorder) :
    (t.node? id).isSome := by
  obtain ⟨node, hnode, -⟩ := h.ast_fits id (h.mem_preorder.mp hid)
  rw [hnode]
  rfl

theorem isSome_cst? (h : t.Linked g) {id : CstId} (hid : id ∈ t.cstPreorder) :
    (t.cst? id).isSome := by
  obtain ⟨node, hnode, -⟩ := h.cst_fits id (h.mem_cstPreorder.mp hid)
  rw [hnode]
  rfl

/-- **The node at a place of the restricted tree.** -/
theorem restrict_ast (h : t.Linked g) (k : ℕ) :
    t.restrict.ast[k]? = (t.preorder[k]?.bind t.node?).map
      (AstNode.rename t.place t.cstPlace t.refPlace) := by
  rw [restrict, List.getElem?_toArray, getElem?_filterMap_of_isSome]
  · cases t.preorder[k]? <;> rfl
  · intro id hid
    simpa using h.isSome_node? hid

theorem restrict_cst (h : t.Linked g) (k : ℕ) :
    t.restrict.cst[k]? = (t.cstPreorder[k]?.bind t.cst?).map
      (CstNode.rename t.place t.cstPlace) := by
  rw [restrict, List.getElem?_toArray, getElem?_filterMap_of_isSome]
  · cases t.cstPreorder[k]? <;> rfl
  · intro id hid
    simpa using h.isSome_cst? hid

theorem restrict_references (h : t.Linked g) (k : ℕ) :
    t.restrict.references[k]? = (t.held[k]?.bind t.reference?).map
      (Reference.rename t.place t.cstPlace) := by
  rw [restrict, List.getElem?_toArray, getElem?_filterMap_of_isSome]
  · cases t.held[k]? <;> rfl
  · intro ref href
    obtain ⟨r, hr⟩ := h.reference?_of_held href
    simp [hr]

theorem size_restrict_ast (h : t.Linked g) : t.restrict.ast.size = t.preorder.length := by
  rw [restrict, List.size_toArray, length_filterMap_of_isSome]
  intro id hid
  simpa using h.isSome_node? hid

theorem size_restrict_cst (h : t.Linked g) : t.restrict.cst.size = t.cstPreorder.length := by
  rw [restrict, List.size_toArray, length_filterMap_of_isSome]
  intro id hid
  simpa using h.isSome_cst? hid

/-- **A node is found at its place.** -/
theorem restrict_node? (h : t.Linked g) {id : NodeId} (hid : t.HasNode id) :
    t.restrict.node? (t.place id) =
      (t.node? id).map (AstNode.rename t.place t.cstPlace t.refPlace) := by
  rw [node?, h.restrict_ast, place, getElem?_idxOf (h.mem_preorder.mpr hid), Option.bind_some]

theorem restrict_cst? (h : t.Linked g) {id : CstId} (hid : t.HasCst id) :
    t.restrict.cst? (t.cstPlace id) = (t.cst? id).map (CstNode.rename t.place t.cstPlace) := by
  rw [cst?, h.restrict_cst, cstPlace, getElem?_idxOf (h.mem_cstPreorder.mpr hid),
    Option.bind_some]

theorem restrict_reference? (h : t.Linked g) {ref : RefId} (href : ref ∈ t.held) :
    t.restrict.reference? (t.refPlace ref) =
      (t.reference? ref).map (Reference.rename t.place t.cstPlace) := by
  rw [reference?, h.restrict_references, refPlace, getElem?_idxOf href, Option.bind_some]

/-- Different nodes have different places. -/
theorem place_inj (h : t.Linked g) {a b : NodeId} (ha : t.HasNode a) (hb : t.HasNode b)
    (hab : t.place a = t.place b) : a = b := by
  have hidx : t.preorder.idxOf a = t.preorder.idxOf b := congrArg NodeId.index hab
  have hga := getElem?_idxOf (h.mem_preorder.mpr ha)
  rw [hidx, getElem?_idxOf (h.mem_preorder.mpr hb)] at hga
  exact (Option.some.inj hga).symm

theorem cstPlace_inj (h : t.Linked g) {a b : CstId} (ha : t.HasCst a) (hb : t.HasCst b)
    (hab : t.cstPlace a = t.cstPlace b) : a = b := by
  have hidx : t.cstPreorder.idxOf a = t.cstPreorder.idxOf b := congrArg CstId.index hab
  have hga := getElem?_idxOf (h.mem_cstPreorder.mpr ha)
  rw [hidx, getElem?_idxOf (h.mem_cstPreorder.mpr hb)] at hga
  exact (Option.some.inj hga).symm

theorem place_lt (h : t.Linked g) {id : NodeId} (hid : t.HasNode id) :
    (t.place id).index < t.preorder.length :=
  List.idxOf_lt_length_of_mem (h.mem_preorder.mpr hid)

theorem cstPlace_lt (h : t.Linked g) {id : CstId} (hid : t.HasCst id) :
    (t.cstPlace id).index < t.cstPreorder.length :=
  List.idxOf_lt_length_of_mem (h.mem_cstPreorder.mpr hid)

end Linked

end SyntaxTree

end Workbench
