import Workbench.Proofs.Transfer.Effect
/-!
# Nesting

Concrete nodes are opened and closed like brackets, in any order of handles,
so each node goes below one that is open. The nodes defined so far are a tree
at any time: a new node is the last child of an open one, which is reached
already, and nothing else changes a link.
-/

namespace Workbench

namespace Transfer

variable {table : ElementTable} {s s' : Site}

/-- The children of a concrete node. -/
def Site.below (s : Site) (id : CstId) : List CstId := ((s.cst? id).map CstNode.children).getD []

/-- The node that a concrete node names as its owner. -/
def Site.owner (s : Site) (id : CstId) : Option CstId := (s.cst? id).bind CstNode.container

/-- **The concrete nodes defined so far are a tree.** -/
structure Nested (s : Site) : Prop where
  /-- The root comes first. -/
  unrooted : s.rootCst = none → s.stack = [] ∧ ∀ id, s.cst? id = none
  root : ∀ id, s.rootCst = some id → ∃ node, s.cst? id = some node ∧ node.container = none
  /-- Every node names the root. -/
  names : ∀ id node, s.cst? id = some node → s.rootCst = some node.root
  kind : ∀ id node, s.cst? id = some node → (node.kind.isRoot = true ↔ id = node.root)
  /-- Open nodes can have children. -/
  stack : ∀ id ∈ s.stack, ∃ node, s.cst? id = some node ∧ node.isLeaf = false
  owner : ∀ p c, c ∈ s.below p ↔ s.owner c = some p
  nodup : ∀ p, (s.below p).Nodup
  reached : ∀ id node, s.cst? id = some node → Reaches s.below node.root id

/-! ## A new node -/

namespace Defined

variable {id : CstId} {kind : CstKind} {parent : Option CstId}

/-- What becomes of a node that was there. -/
theorem old (h : Defined id kind parent s s') {j : CstId} {node : CstNode}
    (hnode : s.cst? j = some node) : ∃ node', s'.cst? j = some node' ∧
      node'.container = node.container ∧ node'.root = node.root ∧
      node'.kind.isRoot = node.kind.isRoot ∧ node'.isLeaf = node.isLeaf := by
  have hne : j ≠ id := by
    rintro rfl
    rw [h.fresh] at hnode
    cases hnode
  have hlook := h.cst? j
  rw [if_neg hne, hnode] at hlook
  refine ⟨_, hlook, ?_⟩
  split
  · cases hkind : node.kind <;> simp [CstNode.isLeaf, CstKind.mapChildren, CstKind.isRoot,
      CstKind.isLeaf, hkind]
  · exact ⟨rfl, rfl, rfl, rfl⟩

/-- Every node was there, or is the new one. -/
theorem cases (h : Defined id kind parent s s') {j : CstId} {node : CstNode}
    (hnode : s'.cst? j = some node) :
    (j = id ∧ node.container = parent ∧ node.root = s.rootCst.getD id ∧
      node.kind.isRoot = kind.isRoot ∧ node.isLeaf = kind.isLeaf) ∨
    ∃ node₀, s.cst? j = some node₀ ∧ node.root = node₀.root ∧
      node.kind.isRoot = node₀.kind.isRoot := by
  by_cases hj : j = id
  · have hlook := h.cst? j
    rw [hnode, if_pos hj, Option.map_some, Option.some.injEq] at hlook
    left
    rw [hlook]
    split
    · cases kind <;> exact ⟨hj, rfl, rfl, rfl, rfl⟩
    · exact ⟨hj, rfl, rfl, rfl, rfl⟩
  · cases hold : s.cst? j with
    | none =>
      have hlook := h.cst? j
      rw [hnode, if_neg hj, hold] at hlook
      cases hlook
    | some node₀ =>
      obtain ⟨node', hnode', -, hroot, hkind, -⟩ := h.old hold
      rw [hnode, Option.some.injEq] at hnode'
      subst hnode'
      exact Or.inr ⟨node₀, rfl, hroot, hkind⟩

/-- The new node is there, in the state in which it was defined. -/
theorem created (h : Defined id kind parent s s') :
    ∃ node, s'.cst? id = some node ∧ node.container = parent ∧ node.isLeaf = kind.isLeaf := by
  have hlook := h.cst? id
  rw [if_pos rfl] at hlook
  rcases h.cases hlook with ⟨-, hcontainer, -, -, hleaf⟩ | ⟨node₀, hnode₀, -⟩
  · exact ⟨_, hlook, hcontainer, hleaf⟩
  · rw [h.fresh] at hnode₀
    cases hnode₀

theorem owner (h : Defined id kind parent s s') (j : CstId) :
    s'.owner j = if j = id then parent else s.owner j := by
  rw [Site.owner, h.cst? j, Option.bind_map]
  split
  · rw [Option.bind_some, Function.comp_apply]
    split <;> rfl
  · rw [Site.owner]
    congr 1
    funext node
    rw [Function.comp_apply]
    split <;> rfl

/-- The new node is the last one below its parent, and has none below it. -/
theorem below (h : Defined id kind parent s s') (hkind : kind.children = #[])
    (hparent : ∀ p ∈ parent, ∃ node, s.cst? p = some node ∧ node.isLeaf = false) (j : CstId) :
    s'.below j = if parent = some j then s.below j ++ [id] else s.below j := by
  rw [Site.below, h.cst? j]
  by_cases hj : parent = some j
  · obtain ⟨node, hnode, hleaf⟩ := hparent j hj
    have hne : j ≠ id := by
      rintro rfl
      rw [h.fresh] at hnode
      cases hnode
    rw [if_pos hj, if_neg hne, Site.below, hnode]
    simp only [hj, if_true, Option.map_some, Option.getD_some, CstNode.children]
    cases hk : node.kind with
    | leaf tokenType offset length range =>
      rw [CstNode.isLeaf, hk] at hleaf
      cases hleaf
    | _ => simp [CstKind.mapChildren, CstKind.children]
  · simp only [hj, if_false]
    rw [Option.map_id']
    split
    · next hid =>
      rw [hid, Site.below, h.fresh, Option.map_some, Option.getD_some, CstNode.children, hkind]
      rfl
    · rfl

end Defined

namespace Nested

/-- Nothing but what concrete nodes hold and the links between them counts. -/
theorem congr (h : Nested s) (hroot : s'.rootCst = s.rootCst)
    (hstack : ∀ id ∈ s'.stack, id ∈ s.stack)
    (hold : ∀ id node, s.cst? id = some node → ∃ node', s'.cst? id = some node' ∧
      node'.kind = node.kind ∧ node'.container = node.container ∧ node'.root = node.root)
    (hnone : ∀ id, s.cst? id = none → s'.cst? id = none) : Nested s' := by
  have hnew : ∀ id node', s'.cst? id = some node' → ∃ node, s.cst? id = some node ∧
      node'.kind = node.kind ∧ node'.container = node.container ∧ node'.root = node.root := by
    intro id node' hnode'
    cases hnode : s.cst? id with
    | none =>
      rw [hnone id hnode] at hnode'
      cases hnode'
    | some node =>
      obtain ⟨node'', hnode'', hsame⟩ := hold id node hnode
      rw [hnode', Option.some.injEq] at hnode''
      subst hnode''
      exact ⟨node, rfl, hsame⟩
  -- kinds and owners are the same, so links are the same in both directions
  have hbelow : s'.below = s.below := by
    funext id
    rw [Site.below, Site.below]
    cases hnode : s.cst? id with
    | none => rw [hnone id hnode]
    | some node =>
      obtain ⟨node', hnode', hkind, -⟩ := hold id node hnode
      rw [hnode', Option.map_some, Option.map_some, CstNode.children, CstNode.children, hkind]
  have howner : s'.owner = s.owner := by
    funext id
    rw [Site.owner, Site.owner]
    cases hnode : s.cst? id with
    | none => rw [hnone id hnode]
    | some node =>
      obtain ⟨node', hnode', -, hcontainer, -⟩ := hold id node hnode
      rw [hnode', Option.bind_some, Option.bind_some, hcontainer]
  constructor
  case unrooted =>
    intro hunrooted
    obtain ⟨hempty, hall⟩ := h.unrooted (hroot ▸ hunrooted)
    refine ⟨List.eq_nil_iff_forall_not_mem.mpr fun id hid => ?_, fun id => hnone id (hall id)⟩
    have hmem := hstack id hid
    rw [hempty] at hmem
    cases hmem
  case root =>
    intro id hid
    obtain ⟨node, hnode, hcontainer⟩ := h.root id (hroot ▸ hid)
    obtain ⟨node', hnode', -, hsame, -⟩ := hold id node hnode
    exact ⟨node', hnode', hsame.trans hcontainer⟩
  case names =>
    intro id node' hnode'
    obtain ⟨node, hnode, -, -, hsame⟩ := hnew id node' hnode'
    rw [hroot, hsame]
    exact h.names id node hnode
  case kind =>
    intro id node' hnode'
    obtain ⟨node, hnode, hkind, -, hsame⟩ := hnew id node' hnode'
    rw [hkind, hsame]
    exact h.kind id node hnode
  case stack =>
    intro id hid
    obtain ⟨node, hnode, hleaf⟩ := h.stack id (hstack id hid)
    obtain ⟨node', hnode', hkind, -⟩ := hold id node hnode
    refine ⟨node', hnode', ?_⟩
    rw [CstNode.isLeaf, hkind]
    exact hleaf
  case owner =>
    rw [hbelow, howner]
    exact h.owner
  case nodup =>
    rw [hbelow]
    exact h.nodup
  case reached =>
    intro id node' hnode'
    obtain ⟨node, hnode, -, -, hsame⟩ := hnew id node' hnode'
    rw [hbelow, hsame]
    exact h.reached id node hnode

theorem allocate (cst ast : ℕ) : Nested (Site.allocate cst ast) := by
  have hnone := Site.cst?_allocate cst ast
  have hundefined : ∀ {P : Prop} id node, (Site.allocate cst ast).cst? id = some node → P := by
    intro P id node hnode
    rw [hnone] at hnode
    cases hnode
  have hbelow : ∀ p, (Site.allocate cst ast).below p = [] := by
    intro p
    rw [Site.below, hnone]
    rfl
  refine ⟨fun _ => ⟨rfl, hnone⟩, nofun, fun id node => hundefined id node,
    fun id node => hundefined id node, nofun, fun p c => ?_, fun p => ?_,
    fun id node => hundefined id node⟩
  · rw [hbelow, Site.owner, hnone]
    exact ⟨nofun, nofun⟩
  · rw [hbelow]
    exact List.nodup_nil

/-- **The root is defined.** -/
theorem defineRoot (h : Nested s) {id : CstId} {text : String} (hnone : s.rootCst = none)
    (hdef : Defined id (.root text #[]) none s s') :
    Nested { s' with rootCst := some id, stack := [id] } := by
  obtain ⟨-, hempty⟩ := h.unrooted hnone
  have hbelow : ∀ p, s'.below p = [] := by
    intro p
    rw [hdef.below rfl nofun, if_neg nofun, Site.below, hempty]
    rfl
  -- the root is the only node there is
  have honly : ∀ j node, s'.cst? j = some node →
      j = id ∧ node.container = none ∧ node.root = id ∧ node.kind.isRoot = true ∧
        node.isLeaf = false := by
    intro j node hnode
    rcases hdef.cases hnode with ⟨hj, hcontainer, hroot, hkind, hleaf⟩ | ⟨node₀, hnode₀, -⟩
    · rw [hnone] at hroot
      exact ⟨hj, hcontainer, hroot, hkind, hleaf⟩
    · rw [hempty] at hnode₀
      cases hnode₀
  obtain ⟨node, hnode, hcontainer, hleaf⟩ := hdef.created
  constructor
  case unrooted =>
    nofun
  case root =>
    intro j hj
    cases hj
    exact ⟨node, hnode, hcontainer⟩
  case names =>
    intro j node hnode
    obtain ⟨-, -, hroot, -⟩ := honly j node hnode
    exact congrArg some hroot.symm
  case kind =>
    intro j node hnode
    obtain ⟨hj, -, hroot, hkind, -⟩ := honly j node hnode
    rw [hkind, hroot]
    exact ⟨fun _ => hj, fun _ => rfl⟩
  case stack =>
    intro j hj
    rw [List.mem_singleton.mp hj]
    exact ⟨node, hnode, hleaf⟩
  case owner =>
    intro p c
    show c ∈ s'.below p ↔ s'.owner c = some p
    rw [hbelow, hdef.owner, Site.owner, hempty]
    exact ⟨nofun, fun hc => by split at hc <;> cases hc⟩
  case nodup =>
    intro p
    show (s'.below p).Nodup
    rw [hbelow]
    exact List.nodup_nil
  case reached =>
    intro j node hnode
    obtain ⟨rfl, -, hroot, -⟩ := honly j node hnode
    rw [hroot]
    exact Reaches.refl j

/-- **A node is defined in an open one.** -/
theorem defineBelow (h : Nested s) {id parent : CstId} {kind : CstKind} {stack : List CstId}
    (hparent : parent ∈ s.stack) (hchildren : kind.children = #[]) (hkind : kind.isRoot = false)
    (hdef : Defined id kind (some parent) s s')
    (hstack : stack = s.stack ∨ kind.isLeaf = false ∧ stack = id :: s.stack) :
    Nested { s' with stack } := by
  obtain ⟨above, habove, hleaf⟩ := h.stack parent hparent
  have hroot : s.rootCst = some above.root := h.names parent above habove
  have hframe : s'.rootCst = s.rootCst := by rw [hdef.frame]
  have hbelow := hdef.below hchildren fun p hp => by cases hp; exact ⟨above, habove, hleaf⟩
  have hmono : ∀ p, ∀ c ∈ s.below p, c ∈ s'.below p := by
    intro p c hc
    rw [hbelow]
    split
    · exact List.mem_append_left _ hc
    · exact hc
  have hfree : s.owner id = none := by rw [Site.owner, hdef.fresh]; rfl
  -- the handle is new, so no node has it below it
  have hnot : ∀ p, id ∉ s.below p := by
    intro p hmem
    rw [h.owner, hfree] at hmem
    cases hmem
  constructor
  case unrooted =>
    intro hnone
    rw [show s'.rootCst = none from hnone, hroot] at hframe
    cases hframe
  case root =>
    intro j hj
    rw [show s'.rootCst = some j from hj] at hframe
    obtain ⟨node, hnode, hcontainer⟩ := h.root j hframe.symm
    obtain ⟨node', hnode', hsame, -⟩ := hdef.old hnode
    exact ⟨node', hnode', hsame.trans hcontainer⟩
  case names =>
    intro j node hnode
    show s'.rootCst = some node.root
    rw [hframe]
    rcases hdef.cases hnode with ⟨-, -, hnames, -⟩ | ⟨node₀, hnode₀, hnames, -⟩
    · rw [hnames, hroot]
      rfl
    · rw [hnames]
      exact h.names j node₀ hnode₀
  case kind =>
    intro j node hnode
    rcases hdef.cases hnode with ⟨rfl, -, hnames, hisRoot, -⟩ | ⟨node₀, hnode₀, hnames, hisRoot⟩
    · -- the root was there before
      rw [hisRoot, hkind, hnames, hroot]
      refine ⟨nofun, fun heq => ?_⟩
      obtain ⟨node₀, hnode₀, -⟩ := h.root _ hroot
      rw [← show j = above.root from heq, hdef.fresh] at hnode₀
      cases hnode₀
    · rw [hisRoot, hnames]
      exact h.kind j node₀ hnode₀
  case stack =>
    have hopen : ∀ j ∈ s.stack, ∃ node, s'.cst? j = some node ∧ node.isLeaf = false := by
      intro j hj
      obtain ⟨node, hnode, hleaf⟩ := h.stack j hj
      obtain ⟨node', hnode', -, -, -, hsame⟩ := hdef.old hnode
      exact ⟨node', hnode', hsame.trans hleaf⟩
    rcases hstack with rfl | ⟨hcomposite, rfl⟩
    · exact hopen
    · intro j hj
      rcases List.mem_cons.mp hj with rfl | hj
      · obtain ⟨node, hnode, -, hsame⟩ := hdef.created
        exact ⟨node, hnode, hsame.trans hcomposite⟩
      · exact hopen j hj
  case owner =>
    intro p c
    show c ∈ s'.below p ↔ s'.owner c = some p
    rw [hbelow, hdef.owner]
    by_cases hc : c = id
    · subst hc
      rw [if_pos rfl]
      split
      · next hp => simp [hp]
      · next hp => exact ⟨fun hmem => absurd hmem (hnot p), fun heq => absurd heq hp⟩
    · rw [if_neg hc, ← h.owner]
      split
      · rw [List.mem_append, List.mem_singleton]
        exact ⟨fun hmem => hmem.resolve_right hc, Or.inl⟩
      · rfl
  case nodup =>
    intro p
    show (s'.below p).Nodup
    rw [hbelow]
    split
    · exact (h.nodup p).append (List.nodup_singleton _)
        (List.disjoint_singleton.mpr (hnot p))
    · exact h.nodup p
  case reached =>
    intro j node hnode
    show Reaches s'.below node.root j
    rcases hdef.cases hnode with ⟨rfl, -, hnames, -⟩ | ⟨node₀, hnode₀, hnames, -⟩
    · rw [hnames, hroot]
      refine ((h.reached parent above habove).mono hmono).down ?_
      rw [hbelow, if_pos rfl]
      exact List.mem_append_right _ (List.mem_singleton.mpr rfl)
    · rw [hnames]
      exact (h.reached j node₀ hnode₀).mono hmono

/-- **No instruction breaks the tree.** -/
theorem effect (h : Nested s) {x : Instruction} (he : Effect table s x s') : Nested s' := by
  -- most instructions leave the concrete arena alone
  have hsame : ∀ s' : Site, s'.cst = s.cst → ∀ id node, s.cst? id = some node →
      ∃ node', s'.cst? id = some node' ∧ node'.kind = node.kind ∧
        node'.container = node.container ∧ node'.root = node.root := by
    intro s' hcst id node hnode
    exact ⟨node, by rw [Site.cst?, hcst]; exact hnode, rfl, rfl, rfl⟩
  have hnone : ∀ s' : Site, s'.cst = s.cst → ∀ id, s.cst? id = none → s'.cst? id = none := by
    intro s' hcst id hid
    rw [Site.cst?, hcst]
    exact hid
  cases he with
  | quiet hx hframe hstack =>
    have hcst : s'.cst = s.cst := by rw [hframe]
    exact h.congr (by rw [hframe]) hstack (hsame s' hcst) (hnone s' hcst)
  | note hx htype hcontainer hproperties hcst =>
    exact h.congr rfl (fun _ hid => hid) (hsame _ rfl) (hnone _ rfl)
  | type hlt => exact h.congr rfl (fun _ hid => hid) (hsame _ rfl) (hnone _ rfl)
  | @put x node name value news s₁ hx hlt hname hnews hrefs hadopt =>
    have hcst : (s₁.setProperty node name value).cst = s.cst :=
      show s₁.cst = s.cst by rw [hadopt.frame]
    refine h.congr (show s₁.rootCst = s.rootCst by rw [hadopt.frame]) (fun id hid => ?_)
      (hsame _ hcst) (hnone _ hcst)
    have hstack : s₁.stack = s.stack := by rw [hadopt.frame]
    exact hstack ▸ hid
  | @noteCst x id f hx hkind hcontainer hroot hast hsource =>
    refine h.congr rfl (fun _ hid => hid) (fun j node hnode => ?_) (fun j hj => ?_)
    · rw [Site.cst?_modifyCst, hnode]
      split
      · exact ⟨f node, rfl, hkind node, hcontainer node, hroot node⟩
      · exact ⟨node, rfl, rfl, rfl, rfl⟩
    · rw [Site.cst?_modifyCst, hj]
      split <;> rfl
  | root hnone hstack hdef => exact h.defineRoot hnone hdef
  | below hx hparent hchildren hroot hdef hstack =>
    exact h.defineBelow (hparent ▸ List.mem_cons_self) hchildren hroot hdef hstack

/-- The defined nodes are a tree below the root. -/
theorem isTree (h : Nested s) {root : CstId} (hroot : s.rootCst = some root) :
    IsTree s.below s.owner root where
  root_owner := by
    obtain ⟨node, hnode, hcontainer⟩ := h.root root hroot
    rw [Site.owner, hnode]
    exact hcontainer
  nodup := fun p _ => h.nodup p
  owner_eq := fun p _ c hc => (h.owner p c).mp hc

end Nested

end Transfer

end Workbench
