import Workbench.Proofs.Parse.Linked
import Workbench.Proofs.Tree.Spans
/-!
# Concrete trees are parsed in preorder

A parse adds concrete nodes at the end of the arena, as last children of the
current composite. So at any time the children of the composite fill the
arena behind it, in preorder (`CstOrdered`); a call that comes back leaves
its composite as one more tree behind the others. Nothing is ever put
elsewhere, and what is undone was at the end.
-/

namespace Workbench

namespace Parse

variable {src : Source} {s s' : State}

/-- The concrete nodes below a concrete node. -/
def cstBelow (cst : Array CstNode) (id : CstId) : List CstId :=
  (cst[id.index]?.map CstNode.children).getD []

/-- **The concrete nodes so far are in preorder**, and point into the arena
of nodes. -/
structure CstOrdered (s : State) : Prop where
  /-- The composite can have children. -/
  composite : ∃ node, s.cst[s.composite.index]? = some node ∧ node.kind.isLeaf = false
  /-- The children of the composite fill the arena behind it. -/
  spans : Spans (cstBelow s.cst) CstId.mk (cstBelow s.cst s.composite) (s.composite.index + 1)
    s.cst.size
  /-- Concrete nodes point to nodes that are there. -/
  links : ∀ (i : ℕ) node, s.cst[i]? = some node → ∀ a ∈ node.astNode, a.index < s.ast.size
  /-- The node is there. -/
  node : ∀ n, s.node = some n → n.index < s.ast.size

namespace CstOrdered

/-- Only the concrete arena, and the size of the other, matter. -/
theorem congr (h : CstOrdered s) (hcst : s'.cst = s.cst) (hast : s.ast.size ≤ s'.ast.size)
    (hcomposite : s'.composite = s.composite) (hnode : s'.node = s.node) : CstOrdered s' where
  composite := by rw [hcst, hcomposite]; exact h.composite
  spans := by rw [hcst, hcomposite]; exact h.spans
  links := by
    rw [hcst]
    intro i node hi a ha
    exact Nat.lt_of_lt_of_le (h.links i node hi a ha) hast
  node := by
    rw [hnode]
    intro n hn
    exact Nat.lt_of_lt_of_le (h.node n hn) hast

theorem pushCst_lookup (h : CstOrdered s) (kind : CstKind) (source : Option ElementId)
    (hidden : Bool) (i : ℕ) : (s.pushCst kind source hidden).cst[i]? =
      if i = s.cst.size then some ⟨kind, some s.composite, ⟨0⟩, s.node, source, hidden⟩
      else if i = s.composite.index then s.cst[i]?.map fun node =>
        { node with kind := node.kind.mapChildren (·.push ⟨s.cst.size⟩) }
      else s.cst[i]? := by
  obtain ⟨owner, howner, -⟩ := h.composite
  exact CstSound.lookup_addChild (Array.getElem?_eq_some_iff.mp howner).1 _ i

/-- What an added node leaves below the nodes that were there. -/
theorem cstBelow_pushCst (h : CstOrdered s) (kind : CstKind) (source : Option ElementId)
    (hidden : Bool) {i : ℕ} (hi : i < s.cst.size) :
    cstBelow (s.pushCst kind source hidden).cst ⟨i⟩ =
      cstBelow s.cst ⟨i⟩ ++ if i = s.composite.index then [⟨s.cst.size⟩] else [] := by
  obtain ⟨owner, howner, hleaf⟩ := h.composite
  have hlt := (Array.getElem?_eq_some_iff.mp howner).1
  obtain ⟨node, hnode, -, hchildren⟩ := CstSound.addChild_old hlt
    ⟨kind, some s.composite, ⟨0⟩, s.node, source, hidden⟩ howner hleaf (Array.getElem?_eq_getElem hi)
  have hnode' : (s.pushCst kind source hidden).cst[i]? = some node := hnode
  rw [cstBelow, cstBelow, hnode', Array.getElem?_eq_getElem hi]
  exact hchildren

/-- A leaf or a composite is added. -/
theorem pushCst (h : CstOrdered s) {kind : CstKind} {source : Option ElementId} {hidden : Bool}
    (hnil : kind.children = #[]) : CstOrdered (s.pushCst kind source hidden) := by
  obtain ⟨owner, howner, hleaf⟩ := h.composite
  have hlt := (Array.getElem?_eq_some_iff.mp howner).1
  have hlook := h.pushCst_lookup kind source hidden
  refine ⟨?_, ?_, ?_, h.node⟩
  · obtain ⟨node, hnode, halike, -⟩ := CstSound.addChild_old hlt
      ⟨kind, some s.composite, ⟨0⟩, s.node, source, hidden⟩ howner hleaf howner
    exact ⟨node, hnode, halike.isLeaf.trans hleaf⟩
  · rw [size_pushCst]
    have hown : cstBelow (s.pushCst kind source hidden).cst s.composite =
        cstBelow s.cst s.composite ++ [⟨s.cst.size⟩] := by
      have := h.cstBelow_pushCst kind source hidden hlt
      rwa [if_pos rfl] at this
    have hnew : cstBelow (s.pushCst kind source hidden).cst ⟨s.cst.size⟩ = [] := by
      rw [cstBelow, hlook, if_pos rfl]
      show kind.children.toList = []
      rw [hnil]
    show Spans _ _ (cstBelow _ s.composite) (s.composite.index + 1) _
    rw [hown]
    -- the new node is the last one, and nothing is below it
    refine (h.spans.congr ?_).concat ?_
    · intro i hi hi'
      rw [h.cstBelow_pushCst kind source hidden hi', if_neg (by omega), List.append_nil]
    · rw [hnew]
      exact Spans.nil _
  · intro i node hnode a ha
    rw [hlook] at hnode
    split at hnode
    · obtain rfl := Option.some.inj hnode
      exact h.node a ha
    · split at hnode
      · obtain ⟨old, hold, rfl⟩ := Option.map_eq_some_iff.mp hnode
        exact h.links i old hold a ha
      · exact h.links i node hnode a ha

theorem attachHidden (h : CstOrdered s) (src : Source) (n : ℕ) :
    CstOrdered (s.attachHidden src n) :=
  attachHidden_keeps (fun _ _ _ _ _ _ hs => hs.congr rfl (Nat.le_refl _) rfl rfl)
    (fun _ hs => hs.pushCst rfl) n h

theorem consume (h : CstOrdered s) (index : ℕ) (tok : Token) (source : Option ElementId) :
    CstOrdered (s.consume src index tok source) :=
  ((h.attachHidden src (index - s.pos)).pushCst rfl).congr rfl (Nat.le_refl _) rfl rfl

end CstOrdered

/-! ## Steps -/

theorem size_ast_store (s : State) (n : NodeId) (feature : String) (op : AssignOp)
    (value : Assigned) : (s.store n feature op value).ast.size = s.ast.size := by
  cases value <;> simp [State.store, State.put, State.setProperties, State.setContainer]

theorem cst_store (s : State) (n : NodeId) (feature : String) (op : AssignOp)
    (value : Assigned) : (s.store n feature op value).cst = s.cst := by
  cases value <;> rfl

/-! ## Calls -/

theorem cstBelow_linkCst (s : State) (id : CstId) (link : Option NodeId) (i : CstId) :
    cstBelow (s.linkCst id link).cst i = cstBelow s.cst i := by
  simp only [cstBelow, State.linkCst]
  rw [Array.getElem?_modify]
  split
  · cases s.cst[i.index]? <;> rfl
  · rfl

theorem size_linkCst (s : State) (id : CstId) (link : Option NodeId) :
    (s.linkCst id link).cst.size = s.cst.size := by
  simp only [State.linkCst, Array.size_modify]

theorem links_linkCst {id : CstId} {link : Option NodeId}
    (h : ∀ (i : ℕ) node, s.cst[i]? = some node → ∀ a ∈ node.astNode, a.index < s.ast.size)
    (hlink : ∀ a ∈ link, a.index < s.ast.size) :
    ∀ (i : ℕ) node, (s.linkCst id link).cst[i]? = some node →
      ∀ a ∈ node.astNode, a.index < s.ast.size := by
  intro i node hnode a ha
  simp only [State.linkCst] at hnode
  rw [Array.getElem?_modify] at hnode
  split at hnode
  · obtain ⟨old, -, rfl⟩ := Option.map_eq_some_iff.mp hnode
    exact hlink a ha
  · exact h i node hnode a ha

namespace CstOrdered

/-- **A call is opened**: nothing is below its composite yet. -/
theorem openCall (h : CstOrdered s) (rule : Rule) (source : ElementId) :
    CstOrdered (Parse.openCall rule source s.mark s) := by
  let s₁ : State := { s.pushCst (.composite #[]) (some source) false with
    ast := if rule.isUnion then s.ast else s.ast.push (State.newNode rule ⟨s.cst.size⟩) }
  have hast : s₁.ast.size = s.ast.size + if rule.isUnion then 0 else 1 :=
    openCall_ast_size rule source s
  have hpush : CstOrdered (s.pushCst (.composite #[]) (some source) false) := h.pushCst rfl
  have hpush₁ : CstOrdered s₁ := hpush.congr rfl (by rw [hast]; exact Nat.le_add_right _ _) rfl rfl
  have hlook := h.pushCst_lookup (.composite #[]) (some source) false
  have hown : ∀ a ∈ ownNode rule s.mark, a.index < s₁.ast.size := by
    intro a ha
    rw [ownNode] at ha
    split at ha
    · cases ha
    · next hunion =>
      obtain rfl := Option.some.inj ha
      rw [hast, if_neg hunion]
      exact Nat.lt_succ_self _
  obtain ⟨owner, howner, -⟩ := h.composite
  have hnew := openCall_composite rule source (Array.getElem?_eq_some_iff.mp howner).1
  refine ⟨⟨_, hnew, rfl⟩, ?_, ?_, hown⟩
  · rw [openCall_cst_size]
    show Spans _ _ (cstBelow _ ⟨s.cst.size⟩) (s.cst.size + 1) _
    rw [cstBelow, hnew]
    exact Spans.nil _
  · exact links_linkCst hpush₁.links hown

/-- **A call is left**: its composite is one more tree. -/
theorem leaveCall (h : CstOrdered s) {rule : Rule} {source : ElementId}
    (hgrown : Grown (Parse.openCall rule source s.mark s) s') (h' : CstOrdered s')
    {node : NodeId} (hnode : (ownNode rule s.mark).or s'.produced = some node) :
    CstOrdered ({ s' with
      composite := s.composite, node := s.node, produced := s.produced }.linkCst
        ⟨s.cst.size⟩ (some node)) := by
  have hcall := hgrown.leaveCall.linkCst ⟨s.cst.size⟩ (Nat.le_refl _) (some node)
  obtain ⟨owner, howner, hleaf⟩ := h.composite
  have hlt := (Array.getElem?_eq_some_iff.mp howner).1
  -- below the nodes of the caller there is what opening the call has put there
  have hbelow : ∀ i, i < s.cst.size → cstBelow s'.cst ⟨i⟩ =
      cstBelow s.cst ⟨i⟩ ++ if i = s.composite.index then [⟨s.cst.size⟩] else [] := by
    intro i hi
    rw [← h.cstBelow_pushCst (.composite #[]) (some source) false hi, cstBelow, cstBelow,
      hgrown.cst_of_call hi]
  constructor
  case composite =>
    obtain ⟨more, hmore⟩ := hcall.children owner howner
    exact ⟨_, hmore, (CstSound.isLeaf_mapChildren _ _).trans hleaf⟩
  case spans =>
    have hown : cstBelow s'.cst s.composite = cstBelow s.cst s.composite ++ [⟨s.cst.size⟩] := by
      have := hbelow s.composite.index hlt
      rwa [if_pos rfl] at this
    have hspans := h'.spans
    rw [hgrown.composite] at hspans
    show Spans _ _ (cstBelow _ s.composite) (s.composite.index + 1) _
    rw [cstBelow_linkCst, size_linkCst]
    refine Spans.congr ?_ fun i _ _ => cstBelow_linkCst _ _ _ ⟨i⟩
    show Spans (cstBelow s'.cst) CstId.mk (cstBelow s'.cst s.composite) _ _
    rw [hown]
    refine (h.spans.congr fun i hi hi' => ?_).concat hspans
    rw [hbelow i hi', if_neg (by omega), List.append_nil]
  case links =>
    refine links_linkCst h'.links ?_
    rintro _ ⟨⟩
    exact (product_new hgrown hnode).2
  case node =>
    intro n hn
    exact Nat.lt_of_lt_of_le (h.node n hn) hcall.ast_size

end CstOrdered

/-- **Every step keeps the order of the concrete nodes.** -/
theorem invariant_ordered (src : Source) :
    Invariant src (fun _ => True) CstOrdered (fun _ _ => True) where
  noted := fun _ _ _ hs => hs.congr rfl (Nat.le_refl _) rfl rfl
  consume := fun _ _ _ hs => hs.consume _ _ _
  scalar := fun _ => trivial
  reference := fun _ _ _ _ _ => trivial
  store := by
    rintro s s' n feature op value - - - hs' -
    refine hs'.congr (cst_store _ _ _ _ _) (Nat.le_of_eq (size_ast_store _ _ _ _ _).symm) ?_ ?_
    · cases value <;> rfl
    · cases value <;> rfl
  produce := fun _ hs' _ => hs'.congr rfl (Nat.le_refl _) rfl rfl
  openCall := fun _ hs => hs.openCall _ _
  leaveCall := fun hgrown hs hs' hproduct => ⟨hs.leaveCall hgrown hs' hproduct, trivial⟩

/-! ## Whole parses -/

theorem CstOrdered.start (src : Source) (rule : Rule) (interrupt : Interrupt) :
    CstOrdered (State.start src rule interrupt) where
  composite := ⟨_, rfl, rfl⟩
  spans := Spans.nil 1
  links := by
    intro i node hnode a ha
    have hi := (Array.getElem?_eq_some_iff.mp hnode).1
    obtain rfl : i = 0 := Nat.lt_one_iff.mp hi
    obtain rfl := Option.some.inj hnode
    obtain rfl := Option.some.inj ha
    exact Nat.lt_one_iff.mpr rfl
  node := by
    rintro n ⟨⟩
    exact Nat.lt_one_iff.mpr rfl

/-- **Every parse gives its concrete nodes in preorder**, below the root. -/
theorem CstOrdered.entry {rule : Rule} {interrupt : Interrupt} {u : Unit}
    (h : Parse.entry src rule (State.start src rule interrupt) = .ok (u, s)) :
    CstOrdered s ∧ s.composite = ⟨0⟩ := by
  refine entry_keeps (P := fun s => CstOrdered s ∧ s.composite = ⟨0⟩)
    (fun _ _ _ _ _ _ hs => ⟨hs.1.congr rfl (Nat.le_refl _) rfl rfl, hs.2⟩)
    (fun _ hs => ⟨hs.1.pushCst rfl, hs.2⟩) ?_ h ⟨CstOrdered.start src rule interrupt, rfl⟩
  intro s b s' hmatch hs
  obtain ⟨hgrown, hkeeps⟩ := (invariant_ordered src).attemptMatch (fun _ _ _ _ => trivial)
    (fun _ _ => trivial) hmatch
  exact ⟨hkeeps hs.1, hgrown.composite.trans hs.2⟩

/-- The places of an array lead to its elements. -/
theorem map_getElem?_range {α : Type} (xs : Array α) :
    (List.range xs.size).map (fun i => xs[i]?) = xs.toList.map some := by
  refine List.ext_getElem? fun i => ?_
  have hget : xs.toList[i]? = xs[i]? := Array.getElem?_toList
  rw [List.getElem?_map, List.getElem?_map, hget]
  rcases Nat.lt_or_ge i xs.size with hi | hi
  · rw [List.getElem?_range hi, Array.getElem?_eq_getElem hi, Option.map_some, Option.map_some,
      Array.getElem?_eq_getElem hi]
  · rw [List.getElem?_eq_none (by simpa using hi), Array.getElem?_eq_none hi]
    rfl

/-- Below the root the arena is listed from its start to its end. -/
theorem CstOrdered.cstPreorder (h : CstOrdered s) (hroot : s.composite = ⟨0⟩) :
    (Sound.tree s).cstPreorder = (List.range s.cst.size).map CstId.mk := by
  have hspans := h.spans
  rw [hroot] at hspans
  have hwalk := (Spans.cons hspans (Spans.nil _)).walk s.cst.size (Nat.sub_le _ _)
  rw [List.flatMap_cons, List.flatMap_nil, List.append_nil, Nat.sub_zero,
    ← List.range_eq_range'] at hwalk
  rw [SyntaxTree.cstPreorder, SyntaxTree.cstPreorderTo_eq_walk]
  exact hwalk

end Parse

end Workbench
