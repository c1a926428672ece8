import Workbench.Proofs.Tree.Restrict
import Workbench.Tree.Render
/-!
# Rendering does not depend on handles

A tree and its restriction to what its roots reach cover the same text, have
the same paths and are shown alike. Each of these is computed by going down
the tree, or up to the root, by at most as many steps as the arena is long.
The two arenas differ in length, so two things are shown of each: that it
comes out the same on both trees for the same number of steps, and that the
number does not matter once it is large enough.
-/

namespace Workbench

namespace SyntaxTree

variable {g : Grammar} {t : SyntaxTree}

/-! ## How deep nodes lie -/

namespace Linked

theorem level_lt (h : t.Linked g) {n : ℕ} {id : NodeId} (hn : Steps t.childrenOf n t.root id) :
    n < t.preorder.length :=
  h.ast_tree.steps_lt (fun id => (t.place id).index)
    (fun _ _ ha hb hab => h.place_inj ha hb (NodeId.ext_index hab))
    (fun _ hb => h.place_lt hb) hn

theorem cst_level_lt (h : t.Linked g) {n : ℕ} {id : CstId}
    (hn : Steps t.cstChildrenOf n t.cstRoot id) : n < t.cstPreorder.length :=
  h.cst_tree.steps_lt (fun id => (t.cstPlace id).index)
    (fun _ _ ha hb hab => h.cstPlace_inj ha hb (CstId.ext_index hab))
    (fun _ hb => h.cstPlace_lt hb) hn

theorem within_restrict (h : t.Linked g) : Within t.childrenOf t.restrict.ast.size t.root := by
  intro n id hn
  have := h.level_lt hn
  rw [h.size_restrict_ast]
  omega

theorem cst_within_restrict (h : t.Linked g) :
    Within t.cstChildrenOf t.restrict.cst.size t.cstRoot := by
  intro n id hn
  have := h.cst_level_lt hn
  rw [h.size_restrict_cst]
  omega

end Linked

/-! ## Spans -/

theorem children_rename (nodeName : NodeId → NodeId) (cstName : CstId → CstId) (node : CstNode) :
    (node.rename nodeName cstName).children = node.children.map cstName := by
  rcases node with ⟨kind, _, _, _, _, _⟩
  cases kind <;> simp [CstNode.rename, CstNode.children, CstKind.mapChildren, CstKind.children]

namespace Linked

theorem spanTo_restrict (h : t.Linked g) (n : ℕ) {id : CstId} (hid : t.HasCst id) :
    t.restrict.spanTo n (t.cstPlace id) = t.spanTo n id := by
  induction n generalizing id with
  | zero => rfl
  | succ n ih =>
    obtain ⟨node, hnode, -⟩ := h.cst_fits id hid
    have hbelow : (node.children.map t.cstPlace).filterMap (t.restrict.spanTo n) =
        node.children.filterMap (t.spanTo n) := by
      rw [List.filterMap_map]
      refine List.filterMap_congr fun c hc => ih (hid.down ?_)
      rw [cstChildrenOf_eq hnode]
      exact hc
    rw [spanTo, spanTo, h.restrict_cst? hid, hnode]
    simp only [Option.map_some, children_rename, hbelow]
    cases hk : node.kind <;> simp [CstNode.rename, hk, CstKind.mapChildren]

end Linked

theorem spanTo_eq {n m : ℕ} {id : CstId} (hn : Within t.cstChildrenOf n id)
    (hm : Within t.cstChildrenOf m id) : t.spanTo (n + 1) id = t.spanTo (m + 1) id := by
  induction n generalizing m id with
  | zero =>
    rw [spanTo, spanTo]
    cases hnode : t.cst? id with
    | none => rfl
    | some node =>
      -- there is nothing below the node, so no further bound is used
      have hnil : node.children = [] := by
        rw [← cstChildrenOf_eq hnode]
        exact hn.below_nil
      simp [hnil]
  | succ n ih =>
    cases m with
    | zero =>
      rw [spanTo, spanTo]
      cases hnode : t.cst? id with
      | none => rfl
      | some node =>
        have hnil : node.children = [] := by
          rw [← cstChildrenOf_eq hnode]
          exact hm.below_nil
        simp [hnil]
    | succ m =>
      rw [spanTo, spanTo]
      cases hnode : t.cst? id with
      | none => rfl
      | some node =>
        have hbelow : node.children.filterMap (t.spanTo (n + 1)) =
            node.children.filterMap (t.spanTo (m + 1)) := by
          refine List.filterMap_congr fun c hc => ?_
          have hc' : c ∈ t.cstChildrenOf id := by rw [cstChildrenOf_eq hnode]; exact hc
          exact ih (hn.of_mem hc') (hm.of_mem hc')
        simp only [hbelow]

namespace Linked

/-- **A concrete node covers the same text in the restricted tree.** -/
theorem cstSpan?_restrict (h : t.Linked g) {id : CstId} (hid : t.HasCst id) :
    t.restrict.cstSpan? (t.cstPlace id) = t.cstSpan? id := by
  rw [cstSpan?, cstSpan?, h.spanTo_restrict _ hid]
  exact spanTo_eq (h.cst_within_restrict.of_reaches hid) (h.cst_within.of_reaches hid)

theorem spanSuffix_restrict (h : t.Linked g) {c : Option CstId} (hc : ∀ id ∈ c, t.HasCst id) :
    t.restrict.spanSuffix (c.map t.cstPlace) = t.spanSuffix c := by
  cases c with
  | none => rfl
  | some id =>
    have := h.cstSpan?_restrict (hc id rfl)
    simp only [spanSuffix, Option.map_some, Option.bind_some, this]

/-! ## Paths -/

/-- A node that is reached is the root, or is owned by a node that is
reached. -/
theorem owner_cases (h : t.Linked g) {n : ℕ} {id : NodeId} (hn : Steps t.childrenOf n t.root id) :
    (n = 0 ∧ id = t.root ∧ t.ownerOf id = none) ∨
      ∃ k p, n = k + 1 ∧ Steps t.childrenOf k t.root p ∧ id ∈ t.childrenOf p ∧
        t.ownerOf id = some p := by
  cases hn with
  | here => exact Or.inl ⟨rfl, rfl, h.ast_tree.root_owner⟩
  | @down k a p c hp hc => exact Or.inr ⟨k, p, rfl, hp, hc, h.ast_tree.owner_eq p ⟨k, hp⟩ id hc⟩

end Linked

theorem segmentsTo_succ (n : ℕ) (id : NodeId) :
    t.segmentsTo (n + 1) id =
      match t.ownerOf id with
      | none => []
      | some p => t.segmentsTo n p ++ ((t.node? id).map AstNode.segment).toList := by
  rw [segmentsTo, ownerOf]
  cases t.node? id with
  | none => rfl
  | some node => cases node.container <;> rfl

namespace Linked

theorem ownerOf_restrict (h : t.Linked g) {id : NodeId} (hid : t.HasNode id) :
    t.restrict.ownerOf (t.place id) = (t.ownerOf id).map t.place := by
  obtain ⟨node, hnode, -⟩ := h.ast_fits id hid
  rw [ownerOf, ownerOf, h.restrict_node? hid, hnode]
  rfl

theorem segmentsTo_restrict (h : t.Linked g) (n : ℕ) {id : NodeId} (hid : t.HasNode id) :
    t.restrict.segmentsTo n (t.place id) = t.segmentsTo n id := by
  induction n generalizing id with
  | zero => rfl
  | succ n ih =>
    rw [segmentsTo_succ, segmentsTo_succ, h.ownerOf_restrict hid, h.restrict_node? hid]
    obtain ⟨k, hk⟩ := hid
    rcases h.owner_cases hk with ⟨-, -, hown⟩ | ⟨j, p, -, hp, -, hown⟩
    · rw [hown]
      rfl
    · rw [hown]
      simp only [Option.map_some, ih ⟨j, hp⟩]
      cases t.node? id <;> rfl

/-- Going up more steps than there are owners changes nothing. -/
theorem segmentsTo_eq (h : t.Linked g) {k n m : ℕ} {id : NodeId}
    (hk : Steps t.childrenOf k t.root id) (hn : k ≤ n) (hm : k ≤ m) :
    t.segmentsTo n id = t.segmentsTo m id := by
  induction k generalizing n m id with
  | zero =>
    have hroot : ∀ n, t.segmentsTo n id = [] := by
      intro n
      cases n with
      | zero => rfl
      | succ n =>
        rcases h.owner_cases hk with ⟨-, -, hown⟩ | ⟨j, p, hj, -⟩
        · rw [segmentsTo_succ, hown]
        · omega
    rw [hroot, hroot]
  | succ k ih =>
    rcases h.owner_cases hk with ⟨h0, -⟩ | ⟨j, p, hj, hp, -, hown⟩
    · omega
    · have hjk : j = k := by omega
      subst hjk
      obtain ⟨n, rfl⟩ : ∃ n', n = n' + 1 := ⟨n - 1, by omega⟩
      obtain ⟨m, rfl⟩ : ∃ m', m = m' + 1 := ⟨m - 1, by omega⟩
      rw [segmentsTo_succ, segmentsTo_succ, hown]
      simp only [ih hp (by omega : j ≤ n) (by omega : j ≤ m)]

/-- **A node has the same path in the restricted tree.** -/
theorem pathOf_restrict (h : t.Linked g) {id : NodeId} (hid : t.HasNode id) :
    t.restrict.pathOf (t.place id) = t.pathOf id := by
  rw [pathOf, pathOf, h.segmentsTo_restrict _ hid]
  obtain ⟨k, hk⟩ := hid
  have h₁ := h.within k id hk
  have h₂ := h.within_restrict k id hk
  rw [h.segmentsTo_eq hk h₂ h₁]

/-! ## Lines -/

theorem referenceLine_restrict (h : t.Linked g) (depth : ℕ) (label : String) {ref : RefId}
    (href : ref ∈ t.held) :
    t.restrict.referenceLine depth label (t.refPlace ref) = t.referenceLine depth label ref := by
  obtain ⟨id, node, hid, hnode, hheld⟩ := h.mem_held.mp href
  have hfit := h.nodeFits hid hnode
  obtain ⟨name, p, hp, hi⟩ := mem_heldRefs.mp hheld
  obtain ⟨r, hr, hrfit⟩ := hfit.refs name p hp ref hi
  rw [referenceLine, referenceLine, h.restrict_reference? href, hr]
  simp only [Option.map_some, Reference.rename, h.spanSuffix_restrict hrfit.refNode]

/-- The lines of a property are the same if those of the nodes and
references it holds are. -/
theorem propertyLines_rename {t' : SyntaxTree} (depth : ℕ) (name : String) (p : Property)
    {below below' : NodeId → List String} {nodeName : NodeId → NodeId} {refName : RefId → RefId}
    (hbelow : ∀ c ∈ p.children, below' (nodeName c) = below c)
    (hrefs : ∀ r ∈ p.refs, ∀ label,
      t'.referenceLine (depth + 1) label (refName r) = t.referenceLine (depth + 1) label r) :
    t'.propertyLines depth below' name (p.rename nodeName refName) =
      t.propertyLines depth below name p := by
  cases p with
  | node child => exact hbelow child (by simp [Property.children])
  | nodes children =>
    simp only [Property.rename, propertyLines, List.flatMap_map]
    exact List.flatMap_congr fun c hc => hbelow c hc
  | reference ref =>
    simp only [Property.rename, propertyLines]
    rw [hrefs ref (by simp [Property.refs])]
  | references refs =>
    simp only [Property.rename, propertyLines, List.zipIdx_map, List.map_map]
    refine List.map_congr_left fun e he => ?_
    exact hrefs e.1 (List.fst_mem_of_mem_zipIdx he) _
  | scalar value => rfl
  | scalars values => rfl
  | empty => rfl

theorem mem_held_of_entry (h : t.Linked g) {id : NodeId} {node : AstNode} (hid : t.HasNode id)
    (hnode : t.node? id = some node) {name : String} {p : Property} {ref : RefId}
    (hp : (name, p) ∈ node.properties.entries) (href : ref ∈ p.refs) : ref ∈ t.held := by
  refine h.mem_held.mpr ⟨id, node, hid, hnode, ?_⟩
  rw [AstNode.heldRefs, OrderedMap.values, List.mem_flatMap]
  exact ⟨p, List.mem_map.mpr ⟨(name, p), hp, rfl⟩, href⟩

theorem nodeLines_restrict (h : t.Linked g) (n depth : ℕ) {parent : Option NodeId} {id : NodeId}
    (hid : t.HasNode id) (hparent : t.ownerOf id = parent) :
    t.restrict.nodeLines n (parent.map t.place) depth (t.place id) =
      t.nodeLines n parent depth id := by
  induction n generalizing depth parent id with
  | zero => rfl
  | succ n ih =>
    obtain ⟨node, hnode, hfit⟩ := h.ast_fits id hid
    have hcontainer : node.container = parent := by
      rw [← hparent, ownerOf, hnode]
      rfl
    rw [nodeLines, nodeLines, h.restrict_node? hid, hnode]
    simp only [Option.map_some, AstNode.rename, OrderedMap.mapValues, List.flatMap_map,
      h.spanSuffix_restrict hfit.cstNode, hcontainer, beq_self_eq_true]
    congr 1
    refine List.flatMap_congr fun e he => ?_
    refine propertyLines_rename depth e.1 e.2 (fun c hc => ?_) (fun r hr label => ?_)
    · have hmem : c ∈ t.childrenOf id := by
        rw [childrenOf_eq hnode]
        exact mem_children_of_entry he hc
      exact ih (depth + 1) (hid.down hmem) (h.ast_tree.owner_eq id hid c hmem)
    · exact h.referenceLine_restrict _ _ (h.mem_held_of_entry hid hnode he hr)

end Linked

theorem propertyLines_congr (depth : ℕ) (name : String) (p : Property)
    {below below' : NodeId → List String} (hbelow : ∀ c ∈ p.children, below' c = below c) :
    t.propertyLines depth below' name p = t.propertyLines depth below name p := by
  cases p with
  | node child => exact hbelow child (by simp [Property.children])
  | nodes children => exact List.flatMap_congr fun c hc => hbelow c hc
  | _ => rfl

theorem nodeLines_eq {n m depth : ℕ} {parent : Option NodeId} {id : NodeId}
    (hn : Within t.childrenOf n id) (hm : Within t.childrenOf m id) :
    t.nodeLines (n + 1) parent depth id = t.nodeLines (m + 1) parent depth id := by
  induction n generalizing m depth parent id with
  | zero =>
    rw [nodeLines, nodeLines]
    cases hnode : t.node? id with
    | none => rfl
    | some node =>
      simp only [List.cons.injEq, true_and]
      refine List.flatMap_congr fun e he => propertyLines_congr depth e.1 e.2 fun c hc => ?_
      have hmem := Linked.mem_children_of_entry he hc
      rw [← childrenOf_eq hnode, hn.below_nil] at hmem
      cases hmem
  | succ n ih =>
    rw [nodeLines, nodeLines]
    cases hnode : t.node? id with
    | none => rfl
    | some node =>
      simp only [List.cons.injEq, true_and]
      refine List.flatMap_congr fun e he => propertyLines_congr depth e.1 e.2 fun c hc => ?_
      have hmem : c ∈ t.childrenOf id := by
        rw [childrenOf_eq hnode]
        exact Linked.mem_children_of_entry he hc
      cases m with
      | zero =>
        rw [hm.below_nil] at hmem
        cases hmem
      | succ m => exact ih (hn.of_mem hmem) (hm.of_mem hmem)

namespace Linked

/-- **A tree and its restriction are shown alike.** -/
theorem render_restrict (h : t.Linked g) : t.restrict.render = t.render := by
  have hsame := h.nodeLines_restrict (t.restrict.ast.size + 1) 0 (Reaches.refl t.root)
    h.ast_tree.root_owner
  rw [render, render]
  refine congrArg unlines ?_
  calc t.restrict.nodeLines (t.restrict.ast.size + 1) none 0 t.restrict.root
      = t.nodeLines (t.restrict.ast.size + 1) none 0 t.root := hsame
    _ = t.nodeLines (t.ast.size + 1) none 0 t.root := nodeLines_eq h.within_restrict h.within

/-! ## Concrete lines -/

theorem cstLine_restrict (h : t.Linked g) {parent : Option CstId} {depth : ℕ} {id : CstId}
    {node : CstNode} (hid : t.HasCst id)
    (hparent : node.container = parent) (hroot : node.root = t.cstRoot)
    (hlink : ∀ a ∈ node.astNode, t.HasNode a) :
    t.restrict.cstLine (parent.map t.cstPlace) depth (t.cstPlace id)
      (node.rename t.place t.cstPlace) = t.cstLine parent depth id node := by
  have hspan : t.restrict.spanSuffix (some (t.cstPlace id)) = t.spanSuffix (some id) :=
    h.spanSuffix_restrict (c := some id) (fun c hc => by cases hc; exact hid)
  have hrr : (t.cstPlace t.cstRoot == t.restrict.cstRoot) = true := beq_self_eq_true _
  rw [cstLine, cstLine]
  simp only [CstNode.rename, hparent, hroot, hrr, beq_self_eq_true]
  cases ha : node.astNode with
  | none => cases node.kind <;> simp [CstKind.mapChildren, hspan]
  | some a =>
    have hpath := h.pathOf_restrict (hlink a ha)
    cases node.kind <;> simp [CstKind.mapChildren, hspan, hpath]

theorem cstLines_restrict (h : t.Linked g)
    (hlink : ∀ id node, t.HasCst id → t.cst? id = some node → ∀ a ∈ node.astNode, t.HasNode a)
    (n depth : ℕ) {parent : Option CstId} {id : CstId} (hid : t.HasCst id)
    (hparent : t.cstOwnerOf id = parent) :
    t.restrict.cstLines n (parent.map t.cstPlace) depth (t.cstPlace id) =
      t.cstLines n parent depth id := by
  induction n generalizing depth parent id with
  | zero => rfl
  | succ n ih =>
    obtain ⟨node, hnode, hfit⟩ := h.cst_fits id hid
    have hcontainer : node.container = parent := by
      rw [← hparent, cstOwnerOf, hnode]
      rfl
    rw [cstLines, cstLines, h.restrict_cst? hid, hnode]
    simp only [Option.map_some, children_rename, List.flatMap_map,
      h.cstLine_restrict hid hcontainer hfit.root (hlink id node hid hnode)]
    congr 1
    refine List.flatMap_congr fun c hc => ?_
    have hmem : c ∈ t.cstChildrenOf id := by rw [cstChildrenOf_eq hnode]; exact hc
    exact ih (depth + 1) (hid.down hmem) (h.cst_tree.owner_eq id hid c hmem)

end Linked

theorem cstLines_eq {n m depth : ℕ} {parent : Option CstId} {id : CstId}
    (hn : Within t.cstChildrenOf n id) (hm : Within t.cstChildrenOf m id) :
    t.cstLines (n + 1) parent depth id = t.cstLines (m + 1) parent depth id := by
  induction n generalizing m depth parent id with
  | zero =>
    rw [cstLines, cstLines]
    cases hnode : t.cst? id with
    | none => rfl
    | some node =>
      have hnil : node.children = [] := by
        rw [← cstChildrenOf_eq hnode]
        exact hn.below_nil
      simp [hnil]
  | succ n ih =>
    rw [cstLines, cstLines]
    cases hnode : t.cst? id with
    | none => rfl
    | some node =>
      simp only [List.cons.injEq, true_and]
      refine List.flatMap_congr fun c hc => ?_
      have hmem : c ∈ t.cstChildrenOf id := by rw [cstChildrenOf_eq hnode]; exact hc
      cases m with
      | zero =>
        rw [hm.below_nil] at hmem
        cases hmem
      | succ m => exact ih (hn.of_mem hmem) (hm.of_mem hmem)

/-- **The concrete trees are shown alike**, if every node that a concrete
node stands for is reached. -/
theorem Linked.renderCst_restrict (h : t.Linked g)
    (hlink : ∀ id node, t.HasCst id → t.cst? id = some node → ∀ a ∈ node.astNode, t.HasNode a) :
    t.restrict.renderCst = t.renderCst := by
  have hsame := h.cstLines_restrict hlink (t.restrict.cst.size + 1) 0 (Reaches.refl t.cstRoot)
    h.cst_tree.root_owner
  rw [renderCst, renderCst]
  refine congrArg unlines ?_
  calc t.restrict.cstLines (t.restrict.cst.size + 1) none 0 t.restrict.cstRoot
      = t.cstLines (t.restrict.cst.size + 1) none 0 t.cstRoot := hsame
    _ = t.cstLines (t.cst.size + 1) none 0 t.cstRoot :=
        cstLines_eq h.cst_within_restrict h.cst_within

/-! ## Places of references

The place that a reference records is not shown, so a tree and the tree as
its receiver sees it are shown alike. -/

theorem spanTo_references (t : SyntaxTree) (refs : Array Reference) (n : ℕ) (id : CstId) :
    ({ t with references := refs } : SyntaxTree).spanTo n id = t.spanTo n id := by
  induction n generalizing id with
  | zero => rfl
  | succ n ih =>
    have hrec : ({ t with references := refs } : SyntaxTree).spanTo n = t.spanTo n := funext ih
    rw [spanTo, spanTo, hrec]
    rfl

theorem segmentsTo_references (t : SyntaxTree) (refs : Array Reference) (n : ℕ) (id : NodeId) :
    ({ t with references := refs } : SyntaxTree).segmentsTo n id = t.segmentsTo n id := by
  induction n generalizing id with
  | zero => rfl
  | succ n ih =>
    have hrec : ({ t with references := refs } : SyntaxTree).segmentsTo n = t.segmentsTo n :=
      funext ih
    rw [segmentsTo, segmentsTo, hrec]
    rfl

theorem spanSuffix_references (t : SyntaxTree) (refs : Array Reference) (id : Option CstId) :
    ({ t with references := refs } : SyntaxTree).spanSuffix id = t.spanSuffix id := by
  cases id with
  | none => rfl
  | some id =>
    simp only [spanSuffix, Option.bind_some, cstSpan?, spanTo_references]

theorem cstLines_references (t : SyntaxTree) (refs : Array Reference) (n : ℕ)
    (parent : Option CstId) (depth : ℕ) (id : CstId) :
    ({ t with references := refs } : SyntaxTree).cstLines n parent depth id =
      t.cstLines n parent depth id := by
  have hline : ∀ parent depth id node,
      ({ t with references := refs } : SyntaxTree).cstLine parent depth id node =
        t.cstLine parent depth id node := by
    intro parent depth id node
    simp only [cstLine, spanSuffix_references, pathOf, segmentsTo_references]
  induction n generalizing parent depth id with
  | zero => rfl
  | succ n ih =>
    have hrec : ({ t with references := refs } : SyntaxTree).cstLines n = t.cstLines n := by
      funext parent depth id
      exact ih parent depth id
    rw [cstLines, cstLines, hrec]
    simp only [hline]
    rfl

/-- A reference without the place it records. -/
def unplaced (ref : Reference) : Reference := { ref with index := none }

theorem nodeLines_references {t : SyntaxTree} {refs : Array Reference}
    (h : ∀ k : ℕ, refs[k]?.map unplaced = t.references[k]?.map unplaced) (n : ℕ)
    (parent : Option NodeId) (depth : ℕ) (id : NodeId) :
    ({ t with references := refs } : SyntaxTree).nodeLines n parent depth id =
      t.nodeLines n parent depth id := by
  -- a line shows all of a reference but its place
  have hline : ∀ depth label ref,
      ({ t with references := refs } : SyntaxTree).referenceLine depth label ref =
        t.referenceLine depth label ref := by
    intro depth label ref
    have hk := h ref.index
    rw [referenceLine, referenceLine, reference?, reference?]
    simp only [spanSuffix_references]
    cases hold : t.references[ref.index]? with
    | none =>
      rw [hold, Option.map_none, Option.map_eq_none_iff] at hk
      rw [hk]
    | some old =>
      rw [hold, Option.map_some, Option.map_eq_some_iff] at hk
      obtain ⟨new, hnew, hsame⟩ := hk
      obtain ⟨-, -, -, htext, hnode, htarget⟩ := Reference.mk.inj hsame
      rw [hnew]
      simp only [htarget, htext, hnode]
  induction n generalizing parent depth id with
  | zero => rfl
  | succ n ih =>
    have hrec : ({ t with references := refs } : SyntaxTree).nodeLines n = t.nodeLines n := by
      funext parent depth id
      exact ih parent depth id
    have hprops : ∀ depth below name p,
        ({ t with references := refs } : SyntaxTree).propertyLines depth below name p =
          t.propertyLines depth below name p := by
      intro depth below name p
      cases p <;> simp only [propertyLines, hline]
    rw [nodeLines, nodeLines, hrec]
    simp only [spanSuffix_references, hprops]
    rfl

theorem received_references (t : SyntaxTree) (k : ℕ) :
    t.received.references[k]?.map unplaced = t.restrict.references[k]?.map unplaced := by
  rw [received, restrict, held_eq_heldSlots]
  simp only [List.getElem?_toArray, List.filterMap_map, ← List.getElem?_map, List.map_filterMap]
  congr 2
  funext e
  cases hr : t.reference? e.1 with
  | none => simp only [Function.comp_apply, hr, Option.map_none]
  | some r =>
    simp only [Function.comp_apply, hr, Option.map_some]
    rfl

namespace Linked

/-- **A tree is shown as its receiver sees it.** -/
theorem render_received (h : t.Linked g) : t.received.render = t.render := by
  rw [← h.render_restrict, render, render]
  exact congrArg unlines (nodeLines_references t.received_references _ _ _ _)

theorem renderCst_received (h : t.Linked g)
    (hlink : ∀ id node, t.HasCst id → t.cst? id = some node → ∀ a ∈ node.astNode, t.HasNode a) :
    t.received.renderCst = t.renderCst := by
  rw [← h.renderCst_restrict hlink, renderCst, renderCst]
  exact congrArg unlines (cstLines_references _ _ _ _ _ _)

end Linked

end SyntaxTree

end Workbench
