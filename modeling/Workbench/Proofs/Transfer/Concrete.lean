import Workbench.Proofs.Transfer.Site
/-!
# Rebuilding the concrete tree

The instructions of a concrete node open it inside the innermost open node,
set its fields, rebuild what is below it and close it again. `CstStage` is
the state in between: for each node of the tree, whether it has been opened,
and which of its children it has so far. A node and what is below it turns
one stage into the next (`Grows`), whatever the rest of the tree is like.
-/

namespace Workbench

/-- A concrete node with new handles and with some of its children. -/
def CstNode.staged (t : SyntaxTree) (node : CstNode) (children : List CstId) : CstNode :=
  { node.rename t.place t.cstPlace with
    kind := node.kind.mapChildren fun _ => (children.map t.cstPlace).toArray }

theorem CstNode.staged_children (t : SyntaxTree) (node : CstNode) :
    node.staged t node.children = node.rename t.place t.cstPlace := by
  rcases node with ⟨kind, _, _, _, _, _⟩
  cases kind <;>
    simp [staged, rename, children, CstKind.mapChildren, CstKind.children, ← List.map_toArray]

theorem CstNode.children_of_isLeaf {node : CstNode} (h : node.kind.isLeaf = true) :
    node.children = [] := by
  rcases node with ⟨kind, _, _, _, _, _⟩
  cases kind with
  | leaf => rfl
  | composite => cases h
  | root => cases h

namespace Transfer

/-- How far each concrete node has come: `none` if it has not been opened,
and its children so far if it has. -/
abbrev CstFill := CstId → Option (List CstId)

/-- **The concrete arena while it is filled.** -/
structure CstStage (t : SyntaxTree) (fill : CstFill) (cst : Array (Option CstNode)) : Prop where
  /-- The arena has a slot for every node that is reached. -/
  size : cst.size = t.cstPreorder.length
  /-- A slot holds its node as far as it has come. -/
  slot : ∀ id node, t.HasCst id → t.cst? id = some node →
    cst[(t.cstPlace id).index]? = some ((fill id).map (node.staged t))

/-- The nodes `ids` and all below them have been added to a node. -/
structure Grows (t : SyntaxTree) (parent : CstId) (ids : List CstId) (fill fill' : CstFill) :
    Prop where
  /-- The node has them as further children. -/
  grown : ∃ children, fill parent = some children ∧ fill' parent = some (children ++ ids)
  /-- They are complete. -/
  below : ∀ id ∈ ids, ∀ b, Reaches t.cstChildrenOf id b → fill' b = some (t.cstChildrenOf b)
  /-- Nothing else has changed. -/
  others : ∀ b, b ≠ parent → (∀ id ∈ ids, ¬ Reaches t.cstChildrenOf id b) → fill' b = fill b

variable {g : Grammar} {t : SyntaxTree} {table : ElementTable} {fill fill₁ fill₂ : CstFill}
variable {parent id : CstId} {ids ids' : List CstId} {node : CstNode} {s : Site}

/-! ## Stages -/

theorem Grows.nil {children : List CstId} (h : fill parent = some children) :
    Grows t parent [] fill fill where
  grown := ⟨children, h, by rw [List.append_nil]; exact h⟩
  below := fun id hid => absurd hid List.not_mem_nil
  others := fun _ _ _ => rfl

/-- Children are added one after the other. -/
theorem Grows.append (h : t.Linked g) (hparent : t.HasCst parent)
    (hids : ∀ id ∈ ids ++ ids', id ∈ t.cstChildrenOf parent) (hnodup : (ids ++ ids').Nodup)
    (h₁ : Grows t parent ids fill fill₁) (h₂ : Grows t parent ids' fill₁ fill₂) :
    Grows t parent (ids ++ ids') fill fill₂ := by
  have hne : ∀ id ∈ ids ++ ids', ∀ b, Reaches t.cstChildrenOf id b → b ≠ parent := by
    rintro id hid b hb rfl
    exact h.cst_tree.not_reaches_of_mem hparent (hids id hid) hb
  refine ⟨?_, ?_, ?_⟩
  · obtain ⟨children, hfill, hfill₁⟩ := h₁.grown
    obtain ⟨children', hfill₁', hfill₂⟩ := h₂.grown
    rw [hfill₁, Option.some.injEq] at hfill₁'
    exact ⟨children, hfill, by rw [hfill₂, ← hfill₁', List.append_assoc]⟩
  · intro id hid b hb
    rcases List.mem_append.mp hid with hmem | hmem
    · rw [h₂.others b (hne id hid b hb) ?_, h₁.below id hmem b hb]
      -- nothing lies below two children
      intro id' hid' hb'
      have heq := h.cst_tree.eq_of_common hparent (hids id hid)
        (hids id' (List.mem_append.mpr (Or.inr hid'))) hb hb'
      exact (List.nodup_append.mp hnodup).2.2 id hmem id' hid' heq
    · exact h₂.below id hmem b hb
  · intro b hb hout
    rw [h₂.others b hb fun id hid => hout id (List.mem_append.mpr (Or.inr hid)),
      h₁.others b hb fun id hid => hout id (List.mem_append.mpr (Or.inl hid))]

theorem index_cstPlace_ne (h : t.Linked g) {a b : CstId} (ha : t.HasCst a) (hb : t.HasCst b)
    (hab : a ≠ b) : (t.cstPlace a).index ≠ (t.cstPlace b).index :=
  fun heq => hab (h.cstPlace_inj ha hb (CstId.ext_index heq))

/-! ## Opening a node -/

/-- The fields of a node that has just been opened. -/
def opened (kind : CstKind) (parent : Option CstId) (root : CstId) : CstNode :=
  ⟨kind, parent, root, none, none, false⟩

/-- The instructions that set the fields of an open node. -/
def fieldsOf (n : Numbered) (number : CstId) (node : CstNode) : List Instruction :=
  [.property (.cst number) hiddenProperty (.bool node.hidden),
    .property (.cst number) sourceProperty (.int (ElementTable.encode node.source))] ++
    match node.astNode.bind n.node? with
    | some ast => [.linkNode (.cst number) astNodeProperty (.ast ast)]
    | none => []

theorem needDefined_eq {old : CstNode} (h : s.cst[id.index]? = some (some old)) :
    s.needDefined id = .ok () := by
  rw [Site.needDefined, h]

theorem does_hidden (table : ElementTable) {old : CstNode} (h : s.cst[id.index]? = some (some old))
    (hidden : Bool) :
    Does table [.property (.cst id) hiddenProperty (.bool hidden)] s
      (s.modifyCst id fun node => { node with hidden }) := by
  refine Does.one (fun _ => nofun) ?_
  rw [Site.apply, Site.setCstProperty, needDefined_eq h]
  rfl

theorem does_source {old : CstNode} (h : s.cst[id.index]? = some (some old))
    {source : Option ElementId} (hsource : ∀ e ∈ source, e.index < table.entries.size) :
    Does table [.property (.cst id) sourceProperty (.int (ElementTable.encode source))] s
      (s.modifyCst id fun node => { node with source }) := by
  refine Does.one (fun _ => nofun) ?_
  have hne : ¬ sourceProperty = hiddenProperty := by decide
  rw [Site.apply, Site.setCstProperty, needDefined_eq h]
  simp only [bind, Except.bind, hne, if_false, if_true, table.decode_encode source hsource]
  rfl

theorem does_astNode {old : CstNode} (h : s.cst[id.index]? = some (some old)) {ast : NodeId}
    (hast : ast.index < s.ast.size) :
    Does table [.linkNode (.cst id) astNodeProperty (.ast ast)] s
      (s.modifyCst id fun node => { node with astNode := some ast }) := by
  refine Does.one (fun _ => nofun) ?_
  rw [Site.apply, Site.link, if_pos rfl, Site.needNode, if_pos hast, needDefined_eq h]
  rfl

theorem getElem?_modifyCst_self {old : CstNode} (h : s.cst[id.index]? = some (some old))
    (f : CstNode → CstNode) : (s.modifyCst id f).cst[id.index]? = some (some (f old)) := by
  rw [Site.modifyCst, Array.getElem?_modify, if_pos rfl, h]
  rfl

theorem getElem?_modifyCst_ne {k : ℕ} (h : k ≠ id.index) (f : CstNode → CstNode) :
    (s.modifyCst id f).cst[k]? = s.cst[k]? := by
  rw [Site.modifyCst, Array.getElem?_modify, if_neg (Ne.symm h)]

/-- Only one slot of the concrete arena has changed. -/
structure CstPatch (s s' : Site) (k : ℕ) (node : CstNode) : Prop where
  /-- Everything but the arena is as before. -/
  rest : s' = { s with cst := s'.cst }
  /-- The arena is as long as before. -/
  size : s'.cst.size = s.cst.size
  /-- The slot holds the node. -/
  slot : s'.cst[k]? = some (some node)
  /-- The other slots are as before. -/
  others : ∀ j, j ≠ k → s'.cst[j]? = s.cst[j]?

theorem CstPatch.modifyCst {old : CstNode} (h : s.cst[id.index]? = some (some old))
    (f : CstNode → CstNode) : CstPatch s (s.modifyCst id f) id.index (f old) where
  rest := rfl
  size := by rw [Site.modifyCst, Array.size_modify]
  slot := getElem?_modifyCst_self h f
  others := fun _ hj => getElem?_modifyCst_ne hj f

theorem CstPatch.trans {s₁ s₂ : Site} {k : ℕ} {node₁ node₂ : CstNode}
    (h₁ : CstPatch s s₁ k node₁) (h₂ : CstPatch s₁ s₂ k node₂) : CstPatch s s₂ k node₂ where
  rest := by rw [h₂.rest, h₁.rest]
  size := by rw [h₂.size, h₁.size]
  slot := h₂.slot
  others := fun j hj => by rw [h₂.others j hj, h₁.others j hj]

/-- **The fields of a node are set.** -/
theorem does_fieldsOf (h : t.Linked g) (node : CstNode) {kind : CstKind} {owner : Option CstId}
    {root : CstId} (hslot : s.cst[id.index]? = some (some (opened kind owner root)))
    (hast : s.ast.size = t.preorder.length)
    (hsource : ∀ e ∈ node.source, e.index < g.table.entries.size)
    (hlink : ∀ a ∈ node.astNode, t.HasNode a) :
    ∃ s', Does g.table (fieldsOf (Numbered.ofTree t) id node) s s' ∧
      CstPatch s s' id.index
        ⟨kind, owner, root, node.astNode.map t.place, node.source, node.hidden⟩ := by
  have p₁ := CstPatch.modifyCst hslot fun old => { old with hidden := node.hidden }
  have p₂ := CstPatch.modifyCst p₁.slot fun old => { old with source := node.source }
  have hdoes := (does_hidden g.table hslot node.hidden).append (does_source p₁.slot hsource)
  cases hnode : node.astNode with
  | none =>
    refine ⟨_, ?_, p₁.trans p₂⟩
    rw [fieldsOf, hnode]
    exact hdoes
  | some a =>
    have ha := hlink a hnode
    refine ⟨_, ?_, (p₁.trans p₂).trans
      (CstPatch.modifyCst p₂.slot fun old => { old with astNode := some (t.place a) })⟩
    rw [fieldsOf, hnode, Option.bind_some, Numbered.node?_ofTree h ha]
    refine hdoes.append (does_astNode p₂.slot ?_)
    rw [(p₁.trans p₂).rest, hast]
    exact h.place_lt ha

/-- The site is about to add to a node. -/
structure CstReady (t : SyntaxTree) (fill : CstFill) (parent : CstId) (s : Site) : Prop where
  /-- The arena is at this stage. -/
  stage : CstStage t fill s.cst
  /-- The node is the innermost open one. -/
  top : ∃ rest, s.stack = t.cstPlace parent :: rest
  /-- The root has been opened. -/
  root : s.rootCst = some (t.cstPlace t.cstRoot)
  /-- Every abstract node has its slot. -/
  ast : s.ast.size = t.preorder.length

/-- The concrete arena with a new node below another one. -/
def openBelow (s : Site) (id parent : CstId) (kind : CstKind) : Array (Option CstNode) :=
  (s.cst.setIfInBounds id.index
    (some (opened (kind.mapChildren fun _ => #[]) (some parent) (s.rootCst.getD id)))).modify
      parent.index (Option.map fun node =>
        { node with kind := node.kind.mapChildren (·.push id) })

section OpenBelow

variable {kind : CstKind}

theorem size_openBelow : (openBelow s id parent kind).size = s.cst.size := by
  rw [openBelow, Array.size_modify, Array.size_setIfInBounds]

/-- The new node has no children yet. -/
theorem openBelow_self (kind : CstKind) (hne : id.index ≠ parent.index)
    (hlt : id.index < s.cst.size) :
    (openBelow s id parent kind)[id.index]? =
      some (some (opened (kind.mapChildren fun _ => #[]) (some parent) (s.rootCst.getD id))) := by
  rw [openBelow, Array.getElem?_modify, if_neg (Ne.symm hne),
    Array.getElem?_setIfInBounds_self_of_lt hlt]

/-- Its parent has it as its last child. -/
theorem openBelow_parent (hne : id.index ≠ parent.index) :
    (openBelow s id parent kind)[parent.index]? = s.cst[parent.index]?.map (Option.map fun node =>
      { node with kind := node.kind.mapChildren (·.push id) }) := by
  rw [openBelow, Array.getElem?_modify, if_pos rfl, Array.getElem?_setIfInBounds_ne hne]

theorem openBelow_other {k : ℕ} (hid : k ≠ id.index) (hparent : k ≠ parent.index) :
    (openBelow s id parent kind)[k]? = s.cst[k]? := by
  rw [openBelow, Array.getElem?_modify, if_neg (Ne.symm hparent),
    Array.getElem?_setIfInBounds_ne (Ne.symm hid)]

end OpenBelow

theorem does_openNode (table : ElementTable) {rest : List CstId} {kind : CstKind}
    (hkind : kind.isRoot = false)
    (hstack : s.stack = parent :: rest) (hslot : s.cst[id.index]? = some none) :
    Does table [openNode id kind] s { s with
      cst := openBelow s id parent kind
      stack := if kind.isLeaf then s.stack else id :: s.stack } := by
  cases kind with
  | root text children => cases hkind
  | composite children =>
    refine Does.one (fun _ => nofun) ?_
    simp only [openNode, Site.apply, Site.openParent, hstack, Site.defineCst, hslot]
    simp [bind, Except.bind, pure, Except.pure, openBelow, Site.modifyCst, opened,
      CstKind.mapChildren, CstKind.isLeaf]
  | leaf tokenType offset length range =>
    refine Does.one (fun _ => nofun) ?_
    simp only [openNode, Site.apply, Site.openParent, hstack, Site.defineCst, hslot]
    simp [bind, Except.bind, openBelow, Site.modifyCst, opened, CstKind.mapChildren,
      CstKind.isLeaf]

/-- The stage after a node has been opened. -/
def fillOpen (fill : CstFill) (parent id : CstId) : CstFill :=
  fun b => if b = id then some [] else if b = parent then (fill parent).map (· ++ [id]) else fill b

theorem staged_push {children : List CstId} {old : CstNode} (hleaf : old.kind.isLeaf = false) :
    ({ old.staged t children with
      kind := (old.staged t children).kind.mapChildren (·.push (t.cstPlace id)) } : CstNode) =
      old.staged t (children ++ [id]) := by
  rcases old with ⟨kind, _, _, _, _, _⟩
  cases kind with
  | leaf => cases hleaf
  | composite => simp [CstNode.staged, CstNode.rename, CstKind.mapChildren]
  | root => simp [CstNode.staged, CstNode.rename, CstKind.mapChildren]

/-- The root is not below another node. -/
theorem isRoot_of_mem (h : t.Linked g) (hparent : t.HasCst parent)
    (hmem : id ∈ t.cstChildrenOf parent) (hnode : t.cst? id = some node) :
    node.kind.isRoot = false := by
  rw [Bool.eq_false_iff, Ne, (h.cstFits (hparent.down hmem) hnode).kind]
  rintro rfl
  have howner := h.cst_tree.owner_eq parent hparent t.cstRoot hmem
  rw [h.cst_tree.root_owner] at howner
  cases howner

/-- Nothing is below a leaf. -/
theorem isLeaf_of_mem (hmem : id ∈ t.cstChildrenOf parent) (hnode : t.cst? parent = some node) :
    node.kind.isLeaf = false := by
  rw [Bool.eq_false_iff]
  intro hleaf
  rw [SyntaxTree.cstChildrenOf_eq hnode, CstNode.children_of_isLeaf hleaf] at hmem
  cases hmem

/-- The stage after a node has been opened and has got its fields. -/
theorem CstStage.opened (h : t.Linked g) (hparent : t.HasCst parent)
    (hmem : id ∈ t.cstChildrenOf parent) (hnode : t.cst? id = some node)
    (hstage : CstStage t fill s.cst) {cst : Array (Option CstNode)} (hsize : cst.size = s.cst.size)
    (hslot : cst[(t.cstPlace id).index]? = some (some (node.staged t [])))
    (hothers : ∀ k ≠ (t.cstPlace id).index,
      cst[k]? = (openBelow s (t.cstPlace id) (t.cstPlace parent) node.kind)[k]?) :
    CstStage t (fillOpen fill parent id) cst where
  size := hsize.trans hstage.size
  slot := by
    intro b old hb hold
    have hid : t.HasCst id := hparent.down hmem
    have hne : id ≠ parent := by
      rintro rfl
      exact h.cst_tree.not_reaches_of_mem hparent hmem (Reaches.refl id)
    by_cases hbid : b = id
    · subst hbid
      obtain rfl := Option.some.inj (hnode.symm.trans hold)
      rw [hslot, fillOpen, if_pos rfl]
      rfl
    · rw [hothers _ (index_cstPlace_ne h hb hid hbid), fillOpen, if_neg hbid]
      by_cases hbp : b = parent
      · subst hbp
        rw [if_pos rfl, openBelow_parent (index_cstPlace_ne h hid hb hne),
          hstage.slot b old hb hold, Option.map_some, Option.map_map, Option.map_map]
        congr 2
        funext children
        exact staged_push (isLeaf_of_mem hmem hold)
      · rw [if_neg hbp, openBelow_other (index_cstPlace_ne h hb hid hbid)
          (index_cstPlace_ne h hb hparent hbp)]
        exact hstage.slot b old hb hold

/-- **A node is opened and its fields are set.** -/
theorem does_head (h : t.Linked g) (hlink : ∀ a ∈ node.astNode, t.HasNode a)
    (hparent : t.HasCst parent) (hmem : id ∈ t.cstChildrenOf parent)
    (hnode : t.cst? id = some node) (hready : CstReady t fill parent s) (hfill : fill id = none) :
    ∃ s', Does g.table
        (openNode (t.cstPlace id) node.kind :: fieldsOf (Numbered.ofTree t) (t.cstPlace id) node) s s' ∧
      s' = { s with
        cst := s'.cst
        stack := if node.kind.isLeaf then s.stack else t.cstPlace id :: s.stack } ∧
      CstStage t (fillOpen fill parent id) s'.cst := by
  have hid : t.HasCst id := hparent.down hmem
  have hfits := h.cstFits hid hnode
  obtain ⟨rest, hstack⟩ := hready.top
  have hslot : s.cst[(t.cstPlace id).index]? = some none := by
    rw [hready.stage.slot id node hid hnode, hfill]
    rfl
  have hne : id ≠ parent := by
    rintro rfl
    exact h.cst_tree.not_reaches_of_mem hparent hmem (Reaches.refl id)
  have hlt : (t.cstPlace id).index < s.cst.size := (Array.getElem?_eq_some_iff.mp hslot).1
  have hopen := does_openNode g.table (isRoot_of_mem h hparent hmem hnode) hstack hslot
  have hnew := openBelow_self node.kind (index_cstPlace_ne h hid hparent hne) hlt
  obtain ⟨s', hdoes, hpatch⟩ := does_fieldsOf (s := { s with
    cst := openBelow s (t.cstPlace id) (t.cstPlace parent) node.kind
    stack := if node.kind.isLeaf then s.stack else t.cstPlace id :: s.stack }) h node
    hnew hready.ast hfits.source hlink
  refine ⟨s', hopen.append hdoes, ?_, ?_⟩
  · rw [hpatch.rest]
  · refine hready.stage.opened h hparent hmem hnode (hpatch.size.trans size_openBelow) ?_
      hpatch.others
    have howner := h.cst_tree.owner_eq parent hparent id hmem
    rw [SyntaxTree.cstOwnerOf_eq hnode] at howner
    rw [hpatch.slot]
    simp [CstNode.staged, CstNode.rename, howner, hfits.root, hready.root]

/-! ## Nodes with what is below them -/

theorem flattenCst_eq (h : t.Linked g) (hid : t.HasCst id) (hnode : t.cst? id = some node)
    (levels : ℕ) :
    flattenCst (Numbered.ofTree t) (levels + 1) id =
      (openNode (t.cstPlace id) node.kind ::
        fieldsOf (Numbered.ofTree t) (t.cstPlace id) node) ++
      if node.isLeaf then []
      else node.children.flatMap (flattenCst (Numbered.ofTree t) levels) ++ [.popCstNode] := by
  have hcst : (Numbered.ofTree t).tree.cst? id = some node := hnode
  rw [flattenCst, Numbered.cst?_ofTree h hid, hcst]
  cases hleaf : node.isLeaf <;>
    cases hast : node.astNode.bind (Numbered.ofTree t).node? <;>
      simp [fieldsOf, hleaf, hast]

/-- What it means to add a child with all that is below it. -/
def AddsBelow (g : Grammar) (t : SyntaxTree) (parent : CstId) (ids : List CstId)
    (xs : List Instruction) : Prop :=
  ∀ fill s, CstReady t fill parent s → (∃ children, fill parent = some children) →
    (∀ id ∈ ids, ∀ b, Reaches t.cstChildrenOf id b → fill b = none) →
    ∃ cst fill', Does g.table xs s { s with cst } ∧ CstStage t fill' cst ∧
      Grows t parent ids fill fill'

/-- The children of a node are added one after the other. -/
theorem addsBelow_flatMap (h : t.Linked g) (hparent : t.HasCst parent) {levels : ℕ}
    (hids : ∀ id ∈ ids, id ∈ t.cstChildrenOf parent) (hnodup : ids.Nodup)
    (hadds : ∀ id ∈ ids, AddsBelow g t parent [id] (flattenCst (Numbered.ofTree t) levels id)) :
    AddsBelow g t parent ids (ids.flatMap (flattenCst (Numbered.ofTree t) levels)) := by
  induction ids with
  | nil =>
    rintro fill s hready ⟨children, hfill⟩ -
    exact ⟨s.cst, fill, Does.nil s, hready.stage, Grows.nil hfill⟩
  | cons id ids ih =>
    intro fill s hready hopen hnone
    obtain ⟨cst, fill₁, hdoes, hstage, hgrows⟩ := hadds id List.mem_cons_self fill s hready hopen
      fun _ hid => hnone _ (List.mem_cons.mpr (Or.inl (List.mem_singleton.mp hid)))
    have hready₁ : CstReady t fill₁ parent { s with cst } :=
      ⟨hstage, hready.top, hready.root, hready.ast⟩
    obtain ⟨children, -, hfill₁⟩ := hgrows.grown
    obtain ⟨cst', fill₂, hdoes', hstage', hgrows'⟩ := ih
      (fun a ha => hids a (List.mem_cons_of_mem _ ha)) (List.nodup_cons.mp hnodup).2
      (fun a ha => hadds a (List.mem_cons_of_mem _ ha)) fill₁ { s with cst } hready₁ ⟨_, hfill₁⟩ (by
        -- what lies below the other children has not been touched yet
        intro a ha b hb
        have hne : b ≠ parent := by
          rintro rfl
          exact h.cst_tree.not_reaches_of_mem hparent (hids a (List.mem_cons_of_mem _ ha)) hb
        rw [hgrows.others b hne ?_, hnone a (List.mem_cons_of_mem _ ha) b hb]
        intro id' hid' hb'
        rw [List.mem_singleton.mp hid'] at hb'
        have heq := h.cst_tree.eq_of_common hparent (hids a (List.mem_cons_of_mem _ ha))
          (hids id List.mem_cons_self) hb hb'
        exact (List.nodup_cons.mp hnodup).1 (heq ▸ ha))
    refine ⟨cst', fill₂, ?_, hstage', ?_⟩
    · rw [List.flatMap_cons]
      exact hdoes.append hdoes'
    · have hcons : (id :: ids) = [id] ++ ids := rfl
      rw [hcons] at hids hnodup ⊢
      exact Grows.append h hparent hids hnodup hgrows hgrows'

/-- The node with its children is added, once it has been opened. -/
theorem Grows.of_open (h : t.Linked g) (hparent : t.HasCst parent)
    (hmem : id ∈ t.cstChildrenOf parent) {children : List CstId}
    (hchildren : fill parent = some children)
    (hgrows : Grows t id (t.cstChildrenOf id) (fillOpen fill parent id) fill₂) :
    Grows t parent [id] fill fill₂ := by
  have hid : t.HasCst id := hparent.down hmem
  have hne : parent ≠ id := by
    rintro rfl
    exact h.cst_tree.not_reaches_of_mem hparent hmem (Reaches.refl parent)
  -- the parent is not below its own child
  have hout : ∀ a ∈ t.cstChildrenOf id, ¬ Reaches t.cstChildrenOf a parent := by
    intro a ha hreach
    exact h.cst_tree.not_reaches_of_mem hparent hmem (Reaches.of_mem ha hreach)
  refine ⟨⟨children, hchildren, ?_⟩, ?_, ?_⟩
  · rw [hgrows.others parent hne hout, fillOpen, if_neg hne, if_pos rfl, hchildren]
    rfl
  · intro id' hid' b hb
    rw [List.mem_singleton.mp hid'] at hb
    rcases hb.cases_head with rfl | ⟨a, ha, hab⟩
    · obtain ⟨children', hopen, hfill⟩ := hgrows.grown
      rw [fillOpen, if_pos rfl, Option.some.injEq] at hopen
      rw [hfill, ← hopen, List.nil_append]
    · exact hgrows.below a ha b hab
  · intro b hb hnot
    have hbid : ¬ Reaches t.cstChildrenOf id b := hnot id List.mem_cons_self
    have hne' : b ≠ id := by
      rintro rfl
      exact hbid (Reaches.refl b)
    rw [hgrows.others b hne' fun a ha hab => hbid (Reaches.of_mem ha hab), fillOpen, if_neg hne',
      if_neg hb]

theorem does_popCstNode (table : ElementTable) (s : Site) (number : CstId) (rest : List CstId)
    (h : s.stack = number :: rest) :
    Does table [.popCstNode] s { s with stack := rest } := by
  refine Does.one (fun _ => nofun) ?_
  rw [Site.apply, h]

/-- A node is added if its children can be. -/
theorem AddsBelow.of_children (h : t.Linked g) (hlink : ∀ a ∈ node.astNode, t.HasNode a)
    (hparent : t.HasCst parent) (hmem : id ∈ t.cstChildrenOf parent)
    (hnode : t.cst? id = some node) {levels : ℕ}
    (hadds : AddsBelow g t id node.children
      (node.children.flatMap (flattenCst (Numbered.ofTree t) levels))) :
    AddsBelow g t parent [id] (flattenCst (Numbered.ofTree t) (levels + 1) id) := by
  rintro fill s hready ⟨children, hchildren⟩ hnone
  have hbelow : t.cstChildrenOf id = node.children := SyntaxTree.cstChildrenOf_eq hnode
  have hid : ∀ b, Reaches t.cstChildrenOf id b → fill b = none := hnone id List.mem_cons_self
  obtain ⟨s', hdoes, hs', hstage⟩ :=
    does_head h hlink hparent hmem hnode hready (hid id (Reaches.refl id))
  rw [flattenCst_eq h (hparent.down hmem) hnode]
  cases hleaf : node.isLeaf with
  | true =>
    have hkind : node.kind.isLeaf = true := hleaf
    have hnil : t.cstChildrenOf id = [] := by
      rw [hbelow, CstNode.children_of_isLeaf hkind]
    rw [hkind] at hs'
    refine ⟨s'.cst, fillOpen fill parent id, ?_, hstage, ?_⟩
    · rw [if_pos rfl, List.append_nil]
      exact hs' ▸ hdoes
    · refine Grows.of_open h hparent hmem hchildren ?_
      rw [hnil]
      exact Grows.nil (if_pos rfl)
  | false =>
    have hkind : node.kind.isLeaf = false := hleaf
    rw [hkind] at hs'
    -- the node is the innermost open one now, and has no children yet
    have hready' : CstReady t (fillOpen fill parent id) id s' := by
      refine ⟨hstage, ⟨s.stack, ?_⟩, ?_, ?_⟩
      · rw [hs']
        rfl
      · rw [hs']
        exact hready.root
      · rw [hs']
        exact hready.ast
    obtain ⟨cst, fill', hdoes', hstage', hgrows⟩ := hadds _ s' hready' ⟨[], if_pos rfl⟩ (by
      intro a ha b hb
      rw [← hbelow] at ha
      have hne : b ≠ id := by
        rintro rfl
        exact h.cst_tree.not_reaches_of_mem (hparent.down hmem) ha hb
      have hne' : b ≠ parent := by
        rintro rfl
        exact h.cst_tree.not_reaches_of_mem hparent hmem (Reaches.of_mem ha hb)
      rw [fillOpen, if_neg hne, if_neg hne']
      exact hid b (Reaches.of_mem ha hb))
    refine ⟨cst, fill', ?_, hstage', ?_⟩
    · have hpop := does_popCstNode g.table { s' with cst } (t.cstPlace id) s.stack (by rw [hs']; rfl)
      have hall := hdoes.append (hdoes'.append hpop)
      have hend : ({ { s' with cst } with stack := s.stack } : Site) = { s with cst } := by
        rw [hs']
      rw [hend] at hall
      exact hall
    · refine Grows.of_open h hparent hmem hchildren ?_
      rw [hbelow]
      exact hgrows

/-- **A node and all below it is added.** The induction is on how far the
tree goes down below the node. -/
theorem addsBelow_flattenCst (h : t.Linked g)
    (hlink : ∀ id node, t.HasCst id → t.cst? id = some node → ∀ a ∈ node.astNode, t.HasNode a) :
    ∀ levels parent id, t.HasCst parent → id ∈ t.cstChildrenOf parent →
      Within t.cstChildrenOf levels id →
      AddsBelow g t parent [id] (flattenCst (Numbered.ofTree t) (levels + 1) id) := by
  intro levels
  induction levels with
  | zero =>
    intro parent id hparent hmem hwithin
    obtain ⟨node, hnode, -⟩ := h.cst_fits id (hparent.down hmem)
    refine AddsBelow.of_children h (hlink id node (hparent.down hmem) hnode) hparent hmem hnode ?_
    have hnil : node.children = [] := by
      rw [← SyntaxTree.cstChildrenOf_eq hnode]
      exact hwithin.below_nil
    rw [hnil]
    exact addsBelow_flatMap h (hparent.down hmem) (by simp) List.nodup_nil (by simp)
  | succ levels ih =>
    intro parent id hparent hmem hwithin
    have hid := hparent.down hmem
    obtain ⟨node, hnode, -⟩ := h.cst_fits id hid
    refine AddsBelow.of_children h (hlink id node hid hnode) hparent hmem hnode ?_
    rw [← SyntaxTree.cstChildrenOf_eq hnode]
    exact addsBelow_flatMap h hid (fun _ ha => ha) (h.cst_tree.nodup id hid)
      fun a ha => ih id a hid ha (hwithin.of_mem ha)

/-! ## The whole concrete tree -/

theorem cstStage_allocate (h : t.Linked g) (ast : ℕ) :
    CstStage t (fun _ => none) (Site.allocate t.cstPreorder.length ast).cst where
  size := by rw [Site.allocate, Array.size_replicate]
  slot := by
    intro id node hid _
    rw [Site.allocate, Array.getElem?_replicate, if_pos (h.cstPlace_lt hid)]
    rfl

theorem does_rootCstNode (table : ElementTable) (hroot : s.rootCst = none) (hstack : s.stack = [])
    (hslot : s.cst[id.index]? = some none) (text : String) :
    Does table [.rootCstNode id text] s { s with
      cst := s.cst.setIfInBounds id.index (some (opened (.root text #[]) none id))
      rootCst := some id
      stack := [id] } := by
  refine Does.one (fun _ => nofun) ?_
  simp only [Site.apply, hroot, hstack, Site.defineCst, hslot]
  rfl

/-- The root is opened and its fields are set. -/
theorem does_root_head (h : t.Linked g) (hnode : t.cst? t.cstRoot = some node)
    (hlink : ∀ a ∈ node.astNode, t.HasNode a) :
    ∃ s', Does g.table (openNode (t.cstPlace t.cstRoot) node.kind ::
        fieldsOf (Numbered.ofTree t) (t.cstPlace t.cstRoot) node)
        (Site.allocate t.cstPreorder.length t.preorder.length) s' ∧
      s' = { Site.allocate t.cstPreorder.length t.preorder.length with
        cst := s'.cst
        rootCst := some (t.cstPlace t.cstRoot)
        stack := [t.cstPlace t.cstRoot] } ∧
      CstStage t (fun b => if b = t.cstRoot then some [] else none) s'.cst := by
  have hroot : t.HasCst t.cstRoot := Reaches.refl _
  have hfits := h.cstFits hroot hnode
  have hstage := cstStage_allocate h t.preorder.length
  have hslot := hstage.slot t.cstRoot node hroot hnode
  have hlt : (t.cstPlace t.cstRoot).index <
      (Site.allocate t.cstPreorder.length t.preorder.length).cst.size := by
    rw [hstage.size]
    exact h.cstPlace_lt hroot
  obtain ⟨text, children, hkind⟩ : ∃ text children, node.kind = .root text children := by
    have := hfits.kind.mpr rfl
    cases hk : node.kind with
    | root text children => exact ⟨text, children, rfl⟩
    | composite => rw [hk] at this; cases this
    | leaf => rw [hk] at this; cases this
  -- nothing is open yet, so the root may be opened
  have hopen := does_rootCstNode g.table
    (s := Site.allocate t.cstPreorder.length t.preorder.length) rfl rfl hslot text
  obtain ⟨s', hdoes, hpatch⟩ := does_fieldsOf h node
    (s := { Site.allocate t.cstPreorder.length t.preorder.length with
      cst := (Site.allocate t.cstPreorder.length t.preorder.length).cst.setIfInBounds
        (t.cstPlace t.cstRoot).index (some (opened (.root text #[]) none (t.cstPlace t.cstRoot)))
      rootCst := some (t.cstPlace t.cstRoot)
      stack := [t.cstPlace t.cstRoot] })
    (Array.getElem?_setIfInBounds_self_of_lt hlt) (by simp [Site.allocate]) hfits.source hlink
  refine ⟨s', ?_, ?_, ?_, ?_⟩
  · rw [hkind]
    exact hopen.append hdoes
  · rw [hpatch.rest]
  · rw [hpatch.size, Array.size_setIfInBounds]
    exact hstage.size
  · intro b old hb hold
    by_cases hbroot : b = t.cstRoot
    · subst hbroot
      rw [hnode, Option.some.injEq] at hold
      subst hold
      have howner := h.cst_tree.root_owner
      rw [SyntaxTree.cstOwnerOf_eq hnode] at howner
      rw [hpatch.slot, if_pos rfl]
      simp [CstNode.staged, CstNode.rename, howner, hfits.root, hkind, CstKind.mapChildren]
    · have hne := index_cstPlace_ne h hb hroot hbroot
      rw [hpatch.others _ hne, Array.getElem?_setIfInBounds_ne (Ne.symm hne), if_neg hbroot]
      exact hstage.slot b old hb hold

/-- **The concrete tree is rebuilt.** -/
theorem does_flattenCst (h : t.Linked g)
    (hlink : ∀ id node, t.HasCst id → t.cst? id = some node → ∀ a ∈ node.astNode, t.HasNode a) :
    ∃ cst, Does g.table (flattenCst (Numbered.ofTree t) (t.cst.size + 1) t.cstRoot)
        (Site.allocate t.cstPreorder.length t.preorder.length)
        { Site.allocate t.cstPreorder.length t.preorder.length with
          cst, rootCst := some (t.cstPlace t.cstRoot) } ∧
      CstStage t (fun b => some (t.cstChildrenOf b)) cst := by
  have hroot : t.HasCst t.cstRoot := Reaches.refl _
  obtain ⟨node, hnode, hfits⟩ := h.cst_fits t.cstRoot hroot
  have hbelow : t.cstChildrenOf t.cstRoot = node.children := SyntaxTree.cstChildrenOf_eq hnode
  have hleaf : node.isLeaf = false := by
    have := hfits.kind.mpr rfl
    unfold CstNode.isLeaf
    cases hk : node.kind with
    | leaf => rw [hk] at this; cases this
    | composite => rfl
    | root => rfl
  obtain ⟨s', hdoes, hs', hstage⟩ := does_root_head h hnode (hlink _ node hroot hnode)
  have hready : CstReady t (fun b => if b = t.cstRoot then some [] else none) t.cstRoot s' := by
    refine ⟨hstage, ⟨[], ?_⟩, ?_, ?_⟩
    · rw [hs']
    · rw [hs']
    · rw [hs']
      simp [Site.allocate]
  have hadds : AddsBelow g t t.cstRoot (t.cstChildrenOf t.cstRoot)
      ((t.cstChildrenOf t.cstRoot).flatMap (flattenCst (Numbered.ofTree t) t.cst.size)) := by
    refine addsBelow_flatMap h hroot (fun _ ha => ha) (h.cst_tree.nodup _ hroot) fun a ha => ?_
    -- the root lies in the arena, so there is at least one level
    obtain ⟨levels, hlevels⟩ : ∃ levels, t.cst.size = levels + 1 :=
      Nat.exists_eq_add_one_of_ne_zero (by
        have := SyntaxTree.index_lt_of_cst? hnode
        omega)
    have hwithin := h.cst_within
    rw [hlevels] at hwithin ⊢
    exact addsBelow_flattenCst h hlink levels t.cstRoot a hroot ha (hwithin.of_mem ha)
  obtain ⟨cst, fill, hdoes', hstage', hgrows⟩ := hadds _ s' hready ⟨[], if_pos rfl⟩ (by
    intro a ha b hb
    refine if_neg ?_
    rintro rfl
    exact h.cst_tree.not_reaches_of_mem hroot ha hb)
  refine ⟨cst, ?_, hstage'.size, ?_⟩
  · rw [flattenCst_eq h hroot hnode, hleaf, if_neg (by decide), ← hbelow]
    have hpop := does_popCstNode g.table { s' with cst } (t.cstPlace t.cstRoot) [] (by rw [hs'])
    have hall := hdoes.append (hdoes'.append hpop)
    have hend : ({ { s' with cst } with stack := [] } : Site) =
        { Site.allocate t.cstPreorder.length t.preorder.length with
          cst, rootCst := some (t.cstPlace t.cstRoot) } := by
      rw [hs']
      rfl
    rw [hend] at hall
    exact hall
  · intro b old hb hold
    rw [hstage'.slot b old hb hold]
    rcases hb.cases_head with rfl | ⟨a, ha, hab⟩
    · obtain ⟨children, hopen, hfill⟩ := hgrows.grown
      rw [if_pos rfl, Option.some.injEq] at hopen
      rw [hfill, ← hopen, List.nil_append]
    · rw [hgrows.below a ha b hab]

/-- A complete arena holds the nodes of the restricted tree. -/
theorem CstStage.eq_restrict (h : t.Linked g) {cst : Array (Option CstNode)}
    (hstage : CstStage t (fun b => some (t.cstChildrenOf b)) cst) :
    cst = t.restrict.cst.map some := by
  refine Array.ext_getElem? fun k => ?_
  rw [Array.getElem?_map, h.restrict_cst]
  rcases Nat.lt_or_ge k t.cstPreorder.length with hk | hk
  · obtain ⟨node, hnode, -⟩ := h.cst_fits _ (h.mem_cstPreorder.mp (List.getElem_mem hk))
    have hplace : (t.cstPlace t.cstPreorder[k]).index = k := h.nodup_cstPreorder.idxOf_getElem k hk
    have hslot := hstage.slot _ node (h.mem_cstPreorder.mp (List.getElem_mem hk)) hnode
    rw [hplace] at hslot
    rw [hslot, List.getElem?_eq_getElem hk, Option.bind_some, SyntaxTree.cstChildrenOf, hnode]
    simp [CstNode.staged_children]
  · rw [Array.getElem?_eq_none (by rw [hstage.size]; exact hk), List.getElem?_eq_none hk]
    rfl

end Transfer

end Workbench
