import Workbench.Proofs.Parse.Lossless
import Workbench.Proofs.Tree.InRange
import Workbench.Tree.Span
/-!
# Parsed trees are well linked

The links of the two arenas point at each other, and references into both.
A handle that outlived what it stood for would be in range again as soon as
the arena grows, so it is not enough that ranges are kept: what a handle leads
to has to lead back. At any time of a parse every node has the concrete node
that names it, what a property holds names the property, and every reference
has the leaf that spells it (`Wired`). Together with what is right about the
arenas by themselves (`Sound`, `CstOrdered`) this makes the tree of every
parse `WellLinked`.
-/

namespace Workbench

namespace Parse

variable {g : Grammar} {src : Source} {s s' : State}

/-- A concrete node is a leaf that spells a text. -/
def Spells (src : Source) (cst : Array CstNode) (leaf : CstId) (text : String) : Prop :=
  ∃ node tokenType offset length range, cst[leaf.index]? = some node ∧
    node.kind = .leaf tokenType offset length range ∧
    Text.slice? src.chars offset (offset + length) = some text.toList

/-- **How the arenas are tied to each other.** -/
structure Wired (src : Source) (s : State) : Prop where
  /-- The concrete root holds the text. -/
  text : ∃ node children, s.cst[0]? = some node ∧ node.kind = .root src.text children
  /-- The owner of a node is there. -/
  owner : ∀ (i : ℕ) node, s.ast[i]? = some node → ∀ p ∈ node.container, p.index < s.ast.size
  /-- A node names the property that holds it. -/
  named : ∀ (i : ℕ) node, s.ast[i]? = some node →
    ∀ name p, (name, p) ∈ node.properties.entries → ∀ c ∈ p.children,
      ∃ child, s.ast[c.index]? = some child ∧ child.containerProperty = some name
  /-- A node has the concrete node that names it. -/
  cstNode : ∀ (i : ℕ) node, s.ast[i]? = some node →
    ∃ c cst, node.cstNode = some c ∧ s.cst[c.index]? = some cst ∧ cst.astNode = some ⟨i⟩
  /-- A reference has the leaf that spells it, and its node is there. -/
  spelled : ∀ (i : ℕ) ref, s.references[i]? = some ref → ref.container.index < s.ast.size ∧
    ∃ leaf, ref.refNode = some leaf ∧ Spells src s.cst leaf ref.refText

/-! ## Concrete nodes -/

/-- Concrete nodes that are still there, with their links; children may have
come to them. -/
def Keeping (cst cst' : Array CstNode) : Prop :=
  ∀ (i : ℕ) node, cst[i]? = some node → ∃ node' f, cst'[i]? = some node' ∧
    node'.astNode = node.astNode ∧ node'.kind = node.kind.mapChildren f

theorem keeping_refl (cst : Array CstNode) : Keeping cst cst :=
  fun _ node hnode => ⟨node, id, hnode, rfl, by cases node.kind <;> rfl⟩

theorem keeping_addChild (cst : Array CstNode) (parent new : CstId) (child : CstNode) :
    Keeping cst (State.addChild cst parent new child) := by
  intro i node hnode
  have hi := (Array.getElem?_eq_some_iff.mp hnode).1
  rw [State.addChild, Array.getElem?_modify, Array.getElem?_push_lt hi,
    ← Array.getElem?_eq_getElem hi, hnode]
  split
  · exact ⟨_, (·.push new), rfl, rfl, rfl⟩
  · exact ⟨node, id, rfl, rfl, by cases node.kind <;> rfl⟩

/-- A leaf spells its text as long as it is there. -/
theorem Spells.keep {cst cst' : Array CstNode} {leaf : CstId} {text : String}
    (h : Spells src cst leaf text) (hcst : ∀ node, cst[leaf.index]? = some node →
      ∃ node' f, cst'[leaf.index]? = some node' ∧ node'.kind = node.kind.mapChildren f) :
    Spells src cst' leaf text := by
  obtain ⟨node, tokenType, offset, length, range, hnode, hkind, hslice⟩ := h
  obtain ⟨node', f, hnode', hkind'⟩ := hcst node hnode
  refine ⟨node', tokenType, offset, length, range, hnode', ?_, hslice⟩
  rw [hkind', hkind]
  rfl

namespace Wired

/-- Only the arenas matter, and only what is there. -/
theorem congr (h : Wired src s) (hcst : Keeping s.cst s'.cst) (hast : s'.ast = s.ast)
    (hrefs : s'.references = s.references) : Wired src s' where
  text := by
    obtain ⟨node, children, hnode, hkind⟩ := h.text
    obtain ⟨node', f, hnode', -, hkind'⟩ := hcst 0 node hnode
    exact ⟨node', f children, hnode', by rw [hkind', hkind]; rfl⟩
  owner := by rw [hast]; exact h.owner
  named := by rw [hast]; exact h.named
  cstNode := by
    rw [hast]
    intro i node hnode
    obtain ⟨c, cst, hc, hlook, hlink⟩ := h.cstNode i node hnode
    obtain ⟨cst', f, hlook', hlink', -⟩ := hcst c.index cst hlook
    exact ⟨c, cst', hc, hlook', hlink'.trans hlink⟩
  spelled := by
    rw [hast, hrefs]
    intro i ref href
    obtain ⟨hlt, leaf, hleaf, hspells⟩ := h.spelled i ref href
    refine ⟨hlt, leaf, hleaf, hspells.keep fun node hnode => ?_⟩
    obtain ⟨node', f, hnode', -, hkind'⟩ := hcst leaf.index node hnode
    exact ⟨node', f, hnode', hkind'⟩

/-- A concrete node is added. -/
theorem pushCst (h : Wired src s) (kind : CstKind) (source : Option ElementId) (hidden : Bool) :
    Wired src (s.pushCst kind source hidden) :=
  h.congr (keeping_addChild _ _ _ _) rfl rfl

theorem attachHidden (h : Wired src s) (n : ℕ) : Wired src (s.attachHidden src n) :=
  attachHidden_keeps (fun _ _ _ _ _ _ hs => hs.congr (keeping_refl _) rfl rfl)
    (fun _ hs => hs.pushCst _ _ _) n h

theorem consume (h : Wired src s) (index : ℕ) (tok : Token) (source : Option ElementId) :
    Wired src (s.consume src index tok source) :=
  ((h.attachHidden (index - s.pos)).pushCst _ _ _).congr (keeping_refl _) rfl rfl

/-- A concrete node is linked to the node that has it, if any has. -/
theorem linkCst (h : Wired src s) (id : CstId) (link : Option NodeId)
    (hlink : ∀ (i : ℕ) node, s.ast[i]? = some node → node.cstNode = some id → link = some ⟨i⟩) :
    Wired src (s.linkCst id link) := by
  have hlook : ∀ (i : ℕ) node, s.cst[i]? = some node → ∃ node', (s.linkCst id link).cst[i]? =
      some node' ∧ node'.kind = node.kind ∧ (id.index = i → node'.astNode = link) ∧
      (id.index ≠ i → node'.astNode = node.astNode) := by
    intro i node hnode
    rw [State.linkCst, Array.getElem?_modify, hnode]
    split
    · next hi => exact ⟨_, rfl, rfl, fun _ => rfl, fun hne => absurd hi hne⟩
    · next hi => exact ⟨node, rfl, rfl, fun heq => absurd heq hi, fun _ => rfl⟩
  refine ⟨?_, h.owner, h.named, ?_, ?_⟩
  · obtain ⟨node, children, hnode, hkind⟩ := h.text
    obtain ⟨node', hnode', hkind', -⟩ := hlook 0 node hnode
    exact ⟨node', children, hnode', hkind'.trans hkind⟩
  · intro i node hnode
    obtain ⟨c, cst, hc, hcst, hown⟩ := h.cstNode i node hnode
    obtain ⟨cst', hcst', -, hsame, hother⟩ := hlook c.index cst hcst
    refine ⟨c, cst', hc, hcst', ?_⟩
    by_cases hi : id.index = c.index
    · rw [hsame hi]
      exact hlink i node hnode (CstId.ext_index hi ▸ hc)
    · rw [hother hi, hown]
  · intro i ref href
    obtain ⟨hlt, leaf, hleaf, hspells⟩ := h.spelled i ref href
    refine ⟨hlt, leaf, hleaf, hspells.keep fun node hnode => ?_⟩
    obtain ⟨node', hnode', hkind', -⟩ := hlook leaf.index node hnode
    exact ⟨node', fun children => children, hnode', by rw [hkind']; cases node.kind <;> rfl⟩

/-! ## Nodes -/

/-- **A node is added** whose concrete node names it. -/
theorem pushNode (h : Wired src s) {node : AstNode} (hnone : node.container = none)
    (hempty : ∀ name p, (name, p) ∈ node.properties.entries → p.children = []) {c : CstId}
    {cst : CstNode} (hc : node.cstNode = some c) (hcst : s.cst[c.index]? = some cst)
    (hlink : cst.astNode = some ⟨s.ast.size⟩) :
    Wired src { s with ast := s.ast.push node } := by
  constructor
  case text => exact h.text
  case owner =>
    intro i a ha p hp
    rw [Array.size_push]
    rcases getElem?_push_cases ha with ⟨-, rfl⟩ | ha
    · rw [hnone] at hp
      cases hp
    · exact Nat.lt_succ_of_lt (h.owner i a ha p hp)
  case named =>
    intro i a ha name p hp n hn
    rcases getElem?_push_cases ha with ⟨-, rfl⟩ | ha
    · rw [hempty name p hp] at hn
      cases hn
    · obtain ⟨child, hchild, hname⟩ := h.named i a ha name p hp n hn
      exact ⟨child, getElem?_push_old hchild node, hname⟩
  case cstNode =>
    intro i a ha
    rcases getElem?_push_cases ha with ⟨rfl, rfl⟩ | ha
    · exact ⟨c, cst, hc, hcst, hlink⟩
    · exact h.cstNode i a ha
  case spelled =>
    intro i ref href
    obtain ⟨hlt, hleaf⟩ := h.spelled i ref href
    rw [Array.size_push]
    exact ⟨Nat.lt_succ_of_lt hlt, hleaf⟩

/-- **A node that nothing holds is told where it will be held.** -/
theorem setContainer (h : Wired src s) {child container : NodeId} {feature : String}
    {index : Option ℕ} (hfree : Free s.ast child) (hlt : container.index < s.ast.size) :
    Wired src { s with ast := State.setContainer s.ast child container feature index } := by
  constructor
  case text => exact h.text
  case owner =>
    intro i a ha p hp
    obtain ⟨old, hold, -, -, -, hnew | hsame⟩ := State.setContainer_cases ha
    · rw [hnew, Option.mem_some_iff] at hp
      show p.index < (State.setContainer s.ast child container feature index).size
      rw [State.size_setContainer, ← hp]
      exact hlt
    · show p.index < (State.setContainer s.ast child container feature index).size
      rw [State.size_setContainer]
      exact h.owner i old hold p (hsame ▸ hp)
  case named =>
    intro i a ha name p hp c hc
    obtain ⟨old, hold, -, hprops, -⟩ := State.setContainer_cases ha
    rw [hprops] at hp
    obtain ⟨a', ha', hname⟩ := h.named i old hold name p hp c hc
    -- what is held is another node
    have hne : child.index ≠ c.index := by
      intro heq
      refine hfree i old hold (NodeId.ext_index heq ▸ ?_)
      exact SyntaxTree.Linked.mem_children_of_entry hp hc
    exact ⟨a', (State.getElem?_setContainer_ne hne).trans ha', hname⟩
  case cstNode =>
    intro i a ha
    obtain ⟨old, hold, -, -, hcst, -⟩ := State.setContainer_cases ha
    rw [hcst]
    exact h.cstNode i old hold
  case spelled =>
    intro i ref href
    show ref.container.index < (State.setContainer s.ast child container feature index).size ∧ _
    rw [State.size_setContainer]
    exact h.spelled i ref href

section Put

variable {n : NodeId} {feature : String} {op : AssignOp} {item : Property} {i : ℕ} {a : AstNode}

/-- What a node holds after an item was put is what it held, or the item. -/
theorem put_cases (ha : (s.put n feature op item).ast[i]? = some a) :
    ∃ old, s.ast[i]? = some old ∧ a.container = old.container ∧ a.cstNode = old.cstNode ∧
      ∀ name p, (name, p) ∈ a.properties.entries → ∀ c ∈ p.children,
        (∃ p', (name, p') ∈ old.properties.entries ∧ c ∈ p'.children) ∨
          name = feature ∧ c ∈ item.children := by
  simp only [State.put, State.setProperties, Array.getElem?_modify] at ha
  split at ha
  · next hi =>
    obtain ⟨old, hold, rfl⟩ := Option.map_eq_some_iff.mp ha
    have hprops : s.propertiesOf n = old.properties := by rw [State.propertiesOf, hi, hold]
    refine ⟨old, hold, rfl, rfl, ?_⟩
    intro name p hp c hc
    rw [hprops] at hp
    rcases OrderedMap.mem_insert hp with heq | hp
    · cases heq
      rcases List.mem_append.mp ((children_put_item op _ item).mem hc) with hc | hc
      · rcases old.properties.getD_get?_cases feature .empty with hempty | hentry
        · rw [hempty] at hc
          cases hc
        · exact Or.inl ⟨_, hentry, hc⟩
      · exact Or.inr ⟨rfl, hc⟩
    · exact Or.inl ⟨p, hp, hc⟩
  · exact ⟨a, ha, rfl, rfl, fun name p hp c hc => Or.inl ⟨p, hp, hc⟩⟩

/-- A node still names the property that holds it. -/
theorem put_old (ha : s.ast[i]? = some a) : ∃ a', (s.put n feature op item).ast[i]? = some a' ∧
    a'.containerProperty = a.containerProperty := by
  simp only [State.put, State.setProperties, Array.getElem?_modify, ha]
  split
  · exact ⟨_, rfl, rfl⟩
  · exact ⟨a, rfl, rfl⟩

/-- **An item is put under a feature** that its node names. -/
theorem put (h : Wired src s)
    (hitem : ∀ c ∈ item.children, ∃ child, s.ast[c.index]? = some child ∧
      child.containerProperty = some feature) :
    Wired src (s.put n feature op item) := by
  have hsize : (s.put n feature op item).ast.size = s.ast.size := State.size_setProperties _ _ _
  constructor
  case text => exact h.text
  case owner =>
    intro i a ha p hp
    obtain ⟨old, hlookup, hcontainer, -⟩ := put_cases ha
    rw [hsize]
    exact h.owner i old hlookup p (hcontainer ▸ hp)
  case named =>
    intro i a ha name p hp c hc
    obtain ⟨old, hlookup, -, -, hheld⟩ := put_cases ha
    have hchild : ∃ child, s.ast[c.index]? = some child ∧ child.containerProperty = some name := by
      rcases hheld name p hp c hc with ⟨p', hp', hc'⟩ | ⟨rfl, hc'⟩
      · exact h.named i old hlookup name p' hp' c hc'
      · exact hitem c hc'
    obtain ⟨child, hchild, hname⟩ := hchild
    obtain ⟨child', hchild', hsame⟩ := put_old hchild
    exact ⟨child', hchild', hsame.trans hname⟩
  case cstNode =>
    intro i a ha
    obtain ⟨old, hlookup, -, hcst, -⟩ := put_cases ha
    rw [hcst]
    exact h.cstNode i old hlookup
  case spelled =>
    intro i ref href
    rw [hsize]
    exact h.spelled i ref href

end Put

/-- **A reference is added** with the leaf that spells it. -/
theorem pushReference (h : Wired src s) {ref : Reference} {leaf : CstId}
    (hcontainer : ref.container.index < s.ast.size) (hleaf : ref.refNode = some leaf)
    (hspells : Spells src s.cst leaf ref.refText) :
    Wired src { s with references := s.references.push ref } := by
  refine ⟨h.text, h.owner, h.named, h.cstNode, ?_⟩
  intro i r hr
  rcases getElem?_push_cases hr with ⟨-, rfl⟩ | hr
  · exact ⟨hcontainer, leaf, hleaf, hspells⟩
  · exact h.spelled i r hr

end Wired

/-! ## Steps -/

/-- What is known of a value that was found: a node is not held yet, and the
leaf of a reference spells it. -/
def Settled (src : Source) (s : State) (value : Assigned) : Prop :=
  Fresh s value ∧ ∀ text leaf target, value = .reference text leaf target →
    Spells src s.cst leaf text

/-- A value is stored. -/
theorem Wired.store (hsound : Sound g s) (h : Wired src s) {n : NodeId} (hn : s.node = some n)
    (feature : String) (op : AssignOp) {value : Assigned}
    (hchild : ∀ child, value = .node child → child.index < s.ast.size)
    (hvalue : Settled src s value) : Wired src (s.store n feature op value) := by
  have hlt := hsound.node n hn
  cases value with
  | scalar value => exact h.put nofun
  | reference text leaf target =>
    exact (h.pushReference hlt rfl (hvalue.2 text leaf target rfl)).put nofun
  | node child =>
    have hfree := (hvalue.1 child rfl).1
    refine (h.setContainer hfree hlt).put ?_
    intro c hc
    obtain rfl := List.mem_singleton.mp hc
    exact ⟨_, setContainer_self (Array.getElem?_eq_getElem (hchild c rfl)) n feature _, rfl⟩

/-- A call is opened: nothing has its composite yet but its own node. -/
theorem Wired.openCall (hsound : Sound g s) (h : Wired src s) (rule : Rule) (source : ElementId) :
    Wired src (Parse.openCall rule source s.mark s) := by
  obtain ⟨owner, howner, -⟩ := hsound.composite
  have hlt := (Array.getElem?_eq_some_iff.mp howner).1
  have hpush := h.pushCst (.composite #[]) (some source) false
  have hlinked : Wired src ((s.pushCst (.composite #[]) (some source) false).linkCst ⟨s.cst.size⟩
      (ownNode rule s.mark)) := by
    refine hpush.linkCst _ _ fun i node hnode hc => ?_
    obtain ⟨c, cst, hc', hcst, -⟩ := h.cstNode i node hnode
    rw [hc, Option.some.injEq] at hc'
    subst hc'
    exact absurd (Array.getElem?_eq_some_iff.mp hcst).1 (Nat.lt_irrefl _)
  cases hunion : rule.isUnion with
  | true =>
    refine hlinked.congr (keeping_refl _) ?_ rfl
    show (if rule.isUnion then s.ast else _) = s.ast
    rw [if_pos hunion]
  | false =>
    have hown : ownNode rule s.mark = some ⟨s.ast.size⟩ := by
      rw [ownNode, hunion]
      rfl
    have hnew := openCall_composite rule source hlt
    rw [hown] at hnew
    have hfree := (newNode_properties rule ⟨s.cst.size⟩).2
    refine (hlinked.pushNode rfl (fun name p hp => (hfree name p hp).1) rfl hnew rfl).congr
      (keeping_refl _) ?_ rfl
    show (if rule.isUnion then s.ast else _) = _
    rw [if_neg (by simp [hunion])]
    rfl

/-- A call is left: its composite names what it named, or nothing has it. -/
theorem Wired.leaveCall (hsound : Sound g s) {rule : Rule} {source : ElementId}
    (hgrown : Grown (Parse.openCall rule source s.mark s) s') (h' : Wired src s') {node : NodeId}
    (hproduct : (ownNode rule s.mark).or s'.produced = some node) :
    Wired src (s.leave s' node) := by
  obtain ⟨owner, howner, -⟩ := hsound.composite
  have hlt := (Array.getElem?_eq_some_iff.mp howner).1
  have hsame : Wired src { s' with
      composite := s.composite, node := s.node, produced := s.produced } :=
    h'.congr (keeping_refl _) rfl rfl
  refine hsame.linkCst _ _ fun i a ha hc => ?_
  obtain ⟨c, cst, hc', hcst, hlink⟩ := h'.cstNode i a ha
  rw [hc, Option.some.injEq] at hc'
  subst hc'
  -- what the composite names has not changed since the call was opened
  obtain ⟨more, hmore⟩ := hgrown.children _ (openCall_composite rule source hlt)
  have hsome : s'.cst[s.cst.size]? = some cst := hcst
  rw [show (Parse.openCall rule source s.mark s).composite.index = s.cst.size from rfl, hsome,
    Option.some.injEq] at hmore
  rw [hmore] at hlink
  have hown : ownNode rule s.mark = some ⟨i⟩ := hlink
  rw [hown, Option.some_or] at hproduct
  exact hproduct.symm

theorem Wired.start {rule : Rule} (interrupt : Interrupt) :
    Wired src (State.start src rule interrupt) := by
  have hast : ∀ (i : ℕ) node, (State.start src rule interrupt).ast[i]? = some node → i = 0 ∧
      node = State.newNode rule ⟨0⟩ := by
    intro i node hnode
    have hi := (Array.getElem?_eq_some_iff.mp hnode).1
    have hi0 : i = 0 := Nat.lt_one_iff.mp hi
    subst hi0
    exact ⟨rfl, (Option.some.inj hnode).symm⟩
  constructor
  case text => exact ⟨_, #[], rfl, rfl⟩
  case owner =>
    intro i node hnode p hp
    obtain ⟨rfl, rfl⟩ := hast i node hnode
    cases hp
  case named =>
    intro i node hnode name p hp c hc
    obtain ⟨rfl, rfl⟩ := hast i node hnode
    rw [((newNode_properties rule ⟨0⟩).2 name p hp).1] at hc
    cases hc
  case cstNode =>
    intro i node hnode
    obtain ⟨rfl, rfl⟩ := hast i node hnode
    exact ⟨⟨0⟩, _, rfl, rfl, rfl⟩
  case spelled =>
    intro i ref href
    cases (Array.getElem?_eq_some_iff.mp href).1

/-- The handles of a state are in range. -/
theorem Wired.inRange (hsound : Sound g s) (hordered : CstOrdered s) (h : Wired src s) :
    (Sound.tree s).InRange where
  root := by
    obtain ⟨node, hnode, -⟩ := hsound.ast.root
    exact (Array.getElem?_eq_some_iff.mp hnode).1
  cstRoot := by
    obtain ⟨node, hnode, -⟩ := hsound.cst.root
    exact (Array.getElem?_eq_some_iff.mp hnode).1
  nodes := by
    intro node hmem
    obtain ⟨i, hnode⟩ := Array.getElem?_of_mem hmem
    refine ⟨h.owner i node hnode, hsound.ast.cstNode i node hnode, ?_, ?_⟩
    · intro c hc
      obtain ⟨-, child, hchild, -⟩ := hsound.ast.children i node hnode c hc
      exact (Array.getElem?_eq_some_iff.mp hchild).1
    · intro r hr
      obtain ⟨name, p, hp, hr⟩ := SyntaxTree.mem_heldRefs.mp hr
      obtain ⟨ref, href, -⟩ := hsound.ast.refs i node hnode name p hp r hr
      exact (Array.getElem?_eq_some_iff.mp href).1
  cstNodes := by
    intro node hmem
    obtain ⟨i, hnode⟩ := Array.getElem?_of_mem hmem
    obtain ⟨root, hroot, hnone⟩ := hsound.cst.root
    refine ⟨?_, ?_, ?_, hordered.links i node hnode⟩
    · intro p hp
      -- the root has no owner, any other node one that is there
      rcases Nat.eq_zero_or_pos i with rfl | hpos
      · rw [show s.cst[0]? = some node from hnode, Option.some.injEq] at hroot
        rw [hroot, hnone] at hp
        cases hp
      · obtain ⟨q, parent, hq, -, hparent, -⟩ := hsound.cst.owner i node hnode hpos
        rw [hq, Option.mem_some_iff] at hp
        subst hp
        exact (Array.getElem?_eq_some_iff.mp hparent).1
    · rw [hsound.cst.names i node hnode]
      exact (Array.getElem?_eq_some_iff.mp hroot).1
    · intro c hc
      obtain ⟨-, child, hchild, -⟩ := hsound.cst.children i node hnode c hc
      exact (Array.getElem?_eq_some_iff.mp hchild).1
  references := by
    intro ref hmem
    obtain ⟨i, href⟩ := Array.getElem?_of_mem hmem
    obtain ⟨hlt, leaf, hleaf, node, _, _, _, _, hnode, -⟩ := h.spelled i ref href
    refine ⟨hlt, fun c hc => ?_⟩
    rw [hleaf, Option.mem_some_iff] at hc
    subst hc
    exact (Array.getElem?_eq_some_iff.mp hnode).1

/-- The text of a leaf is what it spells. -/
theorem Wired.cstText (h : Wired src s) (hchars : src.chars = src.text.toList) {leaf : CstId}
    {text : String} (hspells : Spells src s.cst leaf text) :
    (∃ token, (Sound.tree s).cst? leaf = some token ∧ token.isLeaf = true) ∧
      (Sound.tree s).cstText leaf = text := by
  obtain ⟨node, tokenType, offset, length, range, hnode, hkind, hslice⟩ := hspells
  have hlook : (Sound.tree s).cst? leaf = some node := hnode
  refine ⟨⟨node, hlook, by rw [CstNode.isLeaf, hkind]; rfl⟩, ?_⟩
  obtain ⟨root, children, hroot, hrootKind⟩ := h.text
  have htext : (Sound.tree s).text = src.text := by
    have hlookRoot : (Sound.tree s).cst? (Sound.tree s).cstRoot = some root := hroot
    rcases root with ⟨kind, _, _, _, _, _⟩
    obtain rfl : kind = .root src.text children := hrootKind
    rw [SyntaxTree.text, hlookRoot]
  have hspan : (Sound.tree s).cstSpan? leaf = some (offset, offset + length) := by
    rw [SyntaxTree.cstSpan?, SyntaxTree.spanTo, hlook]
    dsimp only
    rw [hkind]
  rw [SyntaxTree.cstText, hspan]
  dsimp only
  rw [htext, ← hchars, hslice, Option.getD_some, String.ofList_toList]

end Parse

end Workbench
