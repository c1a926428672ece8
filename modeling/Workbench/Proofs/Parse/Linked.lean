import Workbench.Proofs.Parse.Invariant
import Workbench.Proofs.Parse.Sound
/-!
# Parsed trees are linked

What is right about the state of a parse (`Sound`) is an invariant. With what
the steps leave alone (`Grown`) this needs little: a node that a call gives
is new, so that nothing holds it yet when it is stored or produced.
-/

namespace Workbench

namespace Parse

variable {g : Grammar} {src : Source} {s s' : State}

/-- The element is in the table of the grammar. -/
def InTable (g : Grammar) (id : ElementId) : Prop := id.index < g.table.entries.size

/-! ## Growing -/

namespace Sound

/-- Only the arenas and what is being filled matter. -/
theorem congr (h : Sound g s) (hcst : s'.cst = s.cst) (hast : s'.ast = s.ast)
    (hrefs : s'.references = s.references) (hcomposite : s'.composite = s.composite)
    (hnode : s'.node = s.node) (hproduced : s'.produced = s.produced) : Sound g s' where
  cst := by rw [hcst]; exact h.cst
  ast := by rw [hcst, hast, hrefs]; exact h.ast
  composite := by rw [hcst, hcomposite]; exact h.composite
  node := by rw [hast, hnode]; exact h.node
  produced := by rw [hast, hproduced]; exact h.produced

/-- A leaf or a composite is added. -/
theorem pushCst (h : Sound g s) {kind : CstKind} {source : Option ElementId} {hidden : Bool}
    (hkind : kind.isRoot = false) (hnil : kind.children = #[])
    (hsource : ∀ id ∈ source, InTable g id) : Sound g (s.pushCst kind source hidden) := by
  obtain ⟨owner, howner, hleaf⟩ := h.composite
  have hlt := (Array.getElem?_eq_some_iff.mp howner).1
  refine ⟨?_, ?_, ?_, h.node, h.produced⟩
  · refine h.cst.addChild howner hleaf hkind ?_ rfl rfl hsource
    rw [CstNode.children, hnil]
  · rw [size_pushCst]
    exact h.ast.mono (Nat.le_succ _)
  · obtain ⟨node, hnode, halike, -⟩ := CstSound.addChild_old hlt _ howner hleaf howner
    exact ⟨node, hnode, halike.isLeaf.trans hleaf⟩

theorem pushLeaf (h : Sound g s) (tok : Token) (source : Option ElementId)
    (hsource : ∀ id ∈ source, InTable g id) : Sound g (s.pushLeaf tok source) :=
  h.pushCst rfl rfl hsource

theorem attachHidden (h : Sound g s) (src : Source) (n : ℕ) : Sound g (s.attachHidden src n) :=
  attachHidden_keeps (fun _ _ _ _ _ _ hs => hs.congr rfl rfl rfl rfl rfl rfl)
    (fun tok hs => hs.pushLeaf tok none nofun) n h

theorem consume (h : Sound g s) {index : ℕ} {tok : Token} {id : ElementId} (hid : InTable g id) :
    Sound g (s.consume src index tok (some id)) := by
  refine ((h.attachHidden src (index - s.pos)).pushLeaf tok (some id) ?_).congr rfl rfl rfl rfl rfl rfl
  rintro _ ⟨⟩
  exact hid

end Sound

/-! ## Values -/

theorem children_appendItem (old item : Property) :
    (appendItem old item).children.Sublist (old.children ++ item.children) := by
  cases old <;> cases item <;> simp [appendItem, Property.children]

theorem refs_appendItem (old item : Property) :
    (appendItem old item).refs.Sublist (old.refs ++ item.refs) := by
  cases old <;> cases item <;> simp [appendItem, Property.refs]

/-- What is put under a feature holds what was there, or the item. -/
theorem children_put_item (op : AssignOp) (old item : Property) :
    (if op = .append then appendItem old item else item).children.Sublist
      (old.children ++ item.children) := by
  split
  · exact children_appendItem old item
  · exact List.sublist_append_right _ _

theorem refs_put_item (op : AssignOp) (old item : Property) :
    (if op = .append then appendItem old item else item).refs.Sublist (old.refs ++ item.refs) := by
  split
  · exact refs_appendItem old item
  · exact List.sublist_append_right _ _

/-- A node that is told where it is held. -/
theorem setContainer_self {ast : Array AstNode} {child : NodeId} {a : AstNode}
    (ha : ast[child.index]? = some a) (container : NodeId) (feature : String)
    (index : Option ℕ) : (State.setContainer ast child container feature index)[child.index]? =
      some { a with
        container := some container, containerProperty := some feature, containerIndex := index } := by
  rw [State.setContainer, Array.getElem?_modify, if_pos rfl, ha]
  rfl

theorem free_setContainer {ast : Array AstNode} {child container p : NodeId} {feature : String}
    {index : Option ℕ} (h : Free ast p) :
    Free (State.setContainer ast child container feature index) p := by
  intro i node hnode
  obtain ⟨old, hold, -, hproperties, -⟩ := State.setContainer_cases hnode
  rw [AstNode.children, hproperties]
  exact h i old hold

/-- A node that nothing holds stays free if it is not put anywhere. -/
theorem free_put {n p : NodeId} {a : AstNode} (ha : s.ast[n.index]? = some a) {feature : String}
    {op : AssignOp} {item : Property} (hp : Free s.ast p) (hitem : p ∉ item.children) :
    Free (s.put n feature op item).ast p := by
  intro i node hnode hmem
  have hprops : s.propertiesOf n = a.properties := by rw [State.propertiesOf, ha]
  simp only [State.put, hprops, State.getElem?_setProperties ha] at hnode
  split at hnode
  · obtain rfl := Option.some.inj hnode
    obtain ⟨l, hsub, hperm⟩ := AstSound.children_insert (children_put_item op _ item)
    rcases List.mem_append.mp (hperm.mem_iff.mp (hsub.mem hmem)) with hmem | hmem
    · exact hp _ a ha hmem
    · exact hitem hmem
  · exact hp i node hnode hmem

namespace Sound

/-- **An item is put under a feature.** -/
theorem put (h : Sound g s) {n : NodeId} {a : AstNode} (ha : s.ast[n.index]? = some a)
    {feature : String} {op : AssignOp} {item : Property}
    (hmore : (a.children ++ item.children).Nodup)
    (hown : ∀ c ∈ item.children, n.index < c.index ∧
      ∃ child, s.ast[c.index]? = some child ∧ child.container = some n)
    (hfresh : (((a.properties.get? feature).getD .empty).refs ++ item.refs).Nodup)
    (hrec : ∀ r ∈ item.refs, ∃ ref, s.references[r.index]? = some ref ∧ ref.container = n ∧
      ref.property = feature ∧ ∀ c ∈ ref.refNode, c.index < s.cst.size)
    (hproduced : ∀ p, s.produced = some p → p ∉ item.children) :
    Sound g (s.put n feature op item) := by
  have hprops : s.propertiesOf n = a.properties := by rw [State.propertiesOf, ha]
  have hsize : (s.put n feature op item).ast.size = s.ast.size := State.size_setProperties _ _ _
  refine ⟨h.cst, ?_, h.composite, ?_, ?_⟩
  · simp only [State.put, hprops]
    exact h.ast.put ha (children_put_item op _ item) hmore hown (refs_put_item op _ item) hfresh hrec
  · rw [hsize]
    exact h.node
  · intro p hp
    obtain ⟨hlt, hfree⟩ := h.produced p hp
    exact ⟨hsize ▸ hlt, free_put ha hfree (hproduced p hp)⟩

/-- References in range are not the next one. -/
theorem refs_lt (h : Sound g s) {i : ℕ} {a : AstNode} (ha : s.ast[i]? = some a) {feature : String}
    {r : RefId} (hr : r ∈ ((a.properties.get? feature).getD .empty).refs) :
    r.index < s.references.size := by
  rcases a.properties.getD_get?_cases feature .empty with hempty | hentry
  · rw [hempty] at hr
    cases hr
  · obtain ⟨ref, hlook, -⟩ := h.ast.refs i a ha feature _ hentry r hr
    exact (Array.getElem?_eq_some_iff.mp hlook).1

/-- The references of a property are different. -/
theorem refs_nodup (h : Sound g s) {i : ℕ} {a : AstNode} (ha : s.ast[i]? = some a)
    (feature : String) : ((a.properties.get? feature).getD .empty).refs.Nodup := by
  rcases a.properties.getD_get?_cases feature .empty with hempty | hentry
  · rw [hempty]
    exact List.nodup_nil
  · exact h.ast.distinct i a ha feature _ hentry

/-- A scalar is stored. -/
theorem store_scalar (h : Sound g s) {n : NodeId} (hn : s.node = some n) (feature : String)
    (op : AssignOp) (value : Scalar) : Sound g (s.store n feature op (.scalar value)) := by
  have ha := Array.getElem?_eq_getElem (h.node n hn)
  refine h.put ha ?_ nofun ?_ nofun nofun
  · simpa [Property.children] using h.ast.nodup _ _ ha
  · simpa [Property.refs] using h.refs_nodup ha feature

/-- A reference is stored. -/
theorem store_reference (h : Sound g s) {n : NodeId} (hn : s.node = some n) (feature : String)
    (op : AssignOp) (text : String) {leaf : CstId} (hleaf : leaf.index < s.cst.size)
    (target : ReferenceTarget) :
    Sound g (s.store n feature op (.reference text leaf target)) := by
  have ha := Array.getElem?_eq_getElem (h.node n hn)
  let ref : Reference := ⟨n, feature,
    if op = .append then
      some ((((s.propertiesOf n).get? feature).map Property.listLength).getD 0) else none,
    text, some leaf, target⟩
  have hpush : Sound g { s with references := s.references.push ref } :=
    ⟨h.cst, h.ast.pushReference ref, h.composite, h.node, h.produced⟩
  have hlast : (s.references.push ref).size - 1 = s.references.size := by
    rw [Array.size_push]
    omega
  show Sound g (State.put n feature op (.reference ⟨(s.references.push ref).size - 1⟩)
    { s with references := s.references.push ref })
  rw [hlast]
  refine hpush.put ha ?_ nofun ?_ ?_ nofun
  · simpa [Property.children] using h.ast.nodup _ _ ha
  · -- the reference is new, and those that are held are in range
    rw [List.nodup_append]
    refine ⟨h.refs_nodup ha feature, List.nodup_singleton _, ?_⟩
    rintro a' ha' b hb rfl
    have := h.refs_lt ha ha'
    rw [List.mem_singleton.mp hb] at this
    simp only at this
    omega
  · intro r hr
    rw [List.mem_singleton.mp hr]
    refine ⟨ref, Array.getElem?_push_size, rfl, rfl, ?_⟩
    rintro c ⟨⟩
    exact hleaf

/-- A node that nothing holds is stored. -/
theorem store_node (h : Sound g s) {n : NodeId} (hn : s.node = some n) (feature : String)
    (op : AssignOp) {child : NodeId} (hlt : n.index < child.index)
    (hin : child.index < s.ast.size) (hfree : Free s.ast child)
    (hproduced : s.produced ≠ some child) :
    Sound g (s.store n feature op (.node child)) := by
  have ha := Array.getElem?_eq_getElem (h.node n hn)
  let index := if op = .append then
    some ((((s.propertiesOf n).get? feature).map Property.listLength).getD 0) else none
  let s₁ : State := { s with ast := State.setContainer s.ast child n feature index }
  have hsize : s₁.ast.size = s.ast.size := State.size_setContainer
  have hset : Sound g s₁ := by
    refine ⟨h.cst, h.ast.setContainer hfree (by omega), h.composite, ?_, ?_⟩
    · rw [hsize]
      exact h.node
    · intro p hp
      obtain ⟨hp₁, hp₂⟩ := h.produced p hp
      exact ⟨by rw [hsize]; exact hp₁, free_setContainer hp₂⟩
  -- the child is told its place first, which leaves its owner as it was
  have ha₁ : s₁.ast[n.index]? = some s.ast[n.index] :=
    (State.getElem?_setContainer_ne (by omega)).trans ha
  show Sound g (s₁.put n feature op (.node child))
  refine hset.put ha₁ ?_ ?_ ?_ (fun r hr => by cases hr) ?_
  · rw [List.nodup_append]
    refine ⟨h.ast.nodup _ _ ha, List.nodup_singleton _, ?_⟩
    rintro c hc b hb rfl
    rw [List.mem_singleton.mp hb] at hc
    exact hfree _ _ ha hc
  · intro c hc
    obtain rfl := List.mem_singleton.mp hc
    exact ⟨hlt, _, setContainer_self (Array.getElem?_eq_getElem hin) n feature index, rfl⟩
  · simpa [Property.refs] using h.refs_nodup ha feature
  · rintro p hp hmem
    rw [List.mem_singleton.mp hmem] at hp
    exact hproduced hp

end Sound

/-! ## Calls -/

/-- **What a node starts out with**: a flag that is not set, or an empty list,
for each default of its rule. -/
theorem newNode_induction {Q : Properties → Prop} (rule : Rule) (cst : CstId) (hempty : Q .empty)
    (hinsert : ∀ properties, Q properties → ∀ e ∈ rule.body.defaults, ∀ p : Property,
      p = .scalar (.bool false) ∨ p = .empty → Q (properties.insert e.1 p)) :
    Q (State.newNode rule cst).properties := by
  simp only [State.newNode]
  refine List.foldlRecOn rule.body.defaults _ hempty fun properties h e he => ?_
  exact hinsert properties h e he _ (by split <;> simp)

theorem newNode_entry {rule : Rule} {cst : CstId} {name : String} {p : Property}
    (h : (name, p) ∈ (State.newNode rule cst).properties.entries) :
    p = .scalar (.bool false) ∨ p = .empty := by
  have hall : ∀ e ∈ (State.newNode rule cst).properties.entries,
      e.2 = .scalar (.bool false) ∨ e.2 = .empty := by
    refine newNode_induction (Q := fun properties => ∀ e ∈ properties.entries,
      e.2 = .scalar (.bool false) ∨ e.2 = .empty) rule cst nofun ?_
    intro properties hold e _ p hp e' he'
    rcases OrderedMap.mem_insert he' with rfl | he'
    · exact hp
    · exact hold e' he'
  exact hall (name, p) h

/-- The features a node starts out with hold nothing. -/
theorem newNode_properties (rule : Rule) (cst : CstId) :
    (State.newNode rule cst).properties.keys.Nodup ∧
      ∀ name p, (name, p) ∈ (State.newNode rule cst).properties.entries →
        p.children = [] ∧ p.refs = [] := by
  refine ⟨?_, fun name p hp => ?_⟩
  · exact newNode_induction (Q := fun properties => properties.keys.Nodup) rule cst List.nodup_nil
      fun properties h e _ p _ => OrderedMap.nodup_keys_insert h e.1 p
  · rcases newNode_entry hp with rfl | rfl <;> exact ⟨rfl, rfl⟩

namespace Sound

/-- **A call is opened.** -/
theorem openCall (h : Sound g s) (rule : Rule) {source : ElementId} (hsource : InTable g source) :
    Sound g (Parse.openCall rule source s.mark s) := by
  have hpush : Sound g (s.pushCst (.composite #[]) (some source) false) :=
    h.pushCst rfl rfl (by rintro _ ⟨⟩; exact hsource)
  obtain ⟨owner, howner, -⟩ := h.composite
  have hlt := (Array.getElem?_eq_some_iff.mp howner).1
  have hsize := openCall_cst_size rule source s
  constructor
  case cst => exact hpush.cst.modify _ _
  case ast =>
    rw [hsize]
    have hast := h.ast.mono (Nat.le_succ s.cst.size)
    simp only [Parse.openCall, State.linkCst, State.pushCst]
    split
    · exact hast
    · obtain ⟨hkeys, hprops⟩ := newNode_properties rule ⟨s.mark.cst⟩
      refine hast.push hkeys ?_ ?_ fun name p hp => (hprops name p hp).2
      · rintro c ⟨⟩
        exact Nat.lt_succ_self _
      · rw [AstNode.children, OrderedMap.values, List.flatMap_map, List.flatMap_eq_nil_iff]
        exact fun e he => (hprops e.1 e.2 he).1
  case composite =>
    exact ⟨_, openCall_composite rule source hlt, rfl⟩
  case node =>
    intro n hn
    rw [openCall_ast_size]
    have hown : ownNode rule s.mark = some n := hn
    rw [ownNode] at hown
    split at hown
    · cases hown
    · next hunion =>
      obtain rfl := Option.some.inj hown
      rw [if_neg hunion]
      exact Nat.lt_succ_self _
  case produced =>
    intro p hp
    cases hp

/-- **A call is left.** -/
theorem leaveCall (h : Sound g s) {rule : Rule} {source : ElementId}
    (hgrown : Grown (Parse.openCall rule source s.mark s) s') (h' : Sound g s')
    (link : Option NodeId) :
    Sound g ({ s' with
      composite := s.composite, node := s.node, produced := s.produced }.linkCst
        ⟨s.cst.size⟩ link) := by
  have hcall := hgrown.leaveCall.linkCst ⟨s.cst.size⟩ (Nat.le_refl _) link
  constructor
  case cst => exact h'.cst.modify _ _
  case ast =>
    simp only [State.linkCst, Array.size_modify]
    exact h'.ast
  case composite =>
    obtain ⟨owner, howner, hleaf⟩ := h.composite
    obtain ⟨more, hmore⟩ := hcall.children owner howner
    exact ⟨_, hmore, (CstSound.isLeaf_mapChildren _ _).trans hleaf⟩
  case node =>
    intro n hn
    exact Nat.lt_of_lt_of_le (h.node n hn) hcall.ast_size
  case produced =>
    intro p hp
    obtain ⟨hlt, hfree⟩ := h.produced p hp
    refine ⟨Nat.lt_of_lt_of_le hlt hcall.ast_size, ?_⟩
    intro i node hnode hmem
    rcases Nat.lt_or_ge i s.ast.size with hi | hi
    · exact hfree i node ((hgrown.ast_of_call hi).symm.trans hnode) hmem
    · -- what is new holds only what came after it
      have := (h'.ast.children i node hnode p hmem).1
      omega

/-- What a call gives is not held yet. -/
theorem free_product (h : Sound g s) {rule : Rule} {source : ElementId}
    (hgrown : Grown (Parse.openCall rule source s.mark s) s') (h' : Sound g s') {node : NodeId}
    (hnode : (ownNode rule s.mark).or s'.produced = some node) : Free s'.ast node := by
  rw [ownNode] at hnode
  split at hnode
  · rw [Option.none_or] at hnode
    exact (h'.produced node hnode).2
  · rw [Option.some_or, Option.some.injEq] at hnode
    subst hnode
    intro i a ha hmem
    have hlt : i < s.ast.size := (h'.ast.children i a ha _ hmem).1
    obtain ⟨-, child, hchild, -⟩ :=
      h.ast.children i a ((hgrown.ast_of_call hlt).symm.trans ha) _ hmem
    exact absurd (Array.getElem?_eq_some_iff.mp hchild).1 (Nat.lt_irrefl _)

end Sound

/-- What is known of a value that was found: a node is not held yet. -/
def Fresh (s : State) (value : Assigned) : Prop :=
  ∀ n, value = .node n → Free s.ast n ∧ s.produced ≠ some n

/-- **Every step keeps what is right about the state.** -/
theorem invariant_sound (src : Source) (g : Grammar) :
    Invariant src (InTable g) (Sound g) Fresh where
  noted := fun _ _ _ hs => hs.congr rfl rfl rfl rfl rfl rfl
  consume := fun hid _ _ hs => hs.consume hid
  scalar := fun _ => nofun
  reference := fun _ _ _ _ _ => nofun
  store := by
    intro s s' n feature op value hn hfound hs hs' hfresh
    have hn' : s'.node = some n := hfound.1.node.trans hn
    cases value with
    | scalar value => exact hs'.store_scalar hn' feature op value
    | reference text leaf target => exact hs'.store_reference hn' feature op text hfound.2 target
    | node child =>
      obtain ⟨hfree, hproduced⟩ := hfresh child rfl
      have hlt := hs.node n hn
      exact hs'.store_node hn' feature op (Nat.lt_of_lt_of_le hlt hfound.2.1) hfound.2.2 hfree
        hproduced
  produce := by
    intro s s' n hfound hs' hfresh
    refine ⟨hs'.cst, hs'.ast, hs'.composite, hs'.node, ?_⟩
    rintro _ ⟨⟩
    exact ⟨hfound.2.2, (hfresh n rfl).1⟩
  openCall := fun hid hs => hs.openCall _ hid
  leaveCall := by
    intro s s' rule id node hgrown hs hs' hproduct
    refine ⟨hs.leaveCall hgrown hs' (some node), ?_⟩
    rintro _ ⟨⟩
    refine ⟨hs.free_product hgrown hs' hproduct, ?_⟩
    intro hp
    -- what was produced before the call is older than what came of it
    have hlt := (hs.produced node hp).1
    have hge := (product_new hgrown hproduct).1
    omega

/-! ## Whole parses -/

namespace Sound

/-- A parse starts well: there is one node in each arena, with nothing below it. -/
theorem start {rule : Rule} (hid : InTable g rule.id) (interrupt : Interrupt) :
    Sound g (State.start src rule interrupt) := by
  obtain ⟨hkeys, hprops⟩ := newNode_properties rule ⟨0⟩
  have hchildren : (State.newNode rule ⟨0⟩).children = [] := by
    rw [AstNode.children, OrderedMap.values, List.flatMap_map, List.flatMap_eq_nil_iff]
    exact fun e he => (hprops e.1 e.2 he).1
  refine ⟨.singleton rfl rfl rfl rfl (by rintro _ ⟨⟩; exact hid),
    .singleton rfl hkeys (by rintro _ ⟨⟩; exact Nat.one_pos) hchildren
      fun name p hp => (hprops name p hp).2, ⟨_, rfl, rfl⟩, ?_, fun n hn => by cases hn⟩
  rintro n ⟨⟩
  exact Nat.one_pos

/-- The tree of a state. -/
def tree (s : State) : SyntaxTree := ⟨s.ast, s.cst, s.references, ⟨0⟩, ⟨0⟩⟩

/-- Every concrete node belongs to the tree. -/
theorem hasCst (h : Sound g s) : ∀ n i, i ≤ n → i < s.cst.size → (tree s).HasCst ⟨i⟩ := by
  intro n
  induction n with
  | zero =>
    intro i hi _
    obtain rfl : i = 0 := by omega
    exact Reaches.refl _
  | succ n ih =>
    intro i hi hlt
    rcases Nat.eq_zero_or_pos i with rfl | hpos
    · exact Reaches.refl _
    · obtain ⟨p, parent, -, hp, hparent, hmem⟩ :=
        h.cst.owner i _ (Array.getElem?_eq_getElem hlt) hpos
      have hreach := ih p.index (by omega) (by omega)
      refine hreach.down ?_
      show (⟨i⟩ : CstId) ∈ (((tree s).cst? ⟨p.index⟩).map CstNode.children).getD []
      rw [show (tree s).cst? ⟨p.index⟩ = some parent from hparent]
      exact hmem

/-- Every concrete node that is reached is there. -/
theorem exists_cst? (h : Sound g s) {id : CstId} (hid : (tree s).HasCst id) :
    ∃ node, (tree s).cst? id = some node := by
  refine hid.invariant (P := fun id => ∃ node, (tree s).cst? id = some node) ?_ ?_
  · obtain ⟨node, hnode, -⟩ := h.cst.root
    exact ⟨node, hnode⟩
  · rintro b ⟨node, hnode⟩ c hc
    rw [SyntaxTree.cstChildrenOf_eq hnode] at hc
    obtain ⟨-, child, hchild, -⟩ := h.cst.children b.index node hnode c hc
    exact ⟨child, hchild⟩

/-- Every node that is reached is there. -/
theorem exists_node? (h : Sound g s) {id : NodeId} (hid : (tree s).HasNode id) :
    ∃ node, (tree s).node? id = some node := by
  refine hid.invariant (P := fun id => ∃ node, (tree s).node? id = some node) ?_ ?_
  · obtain ⟨node, hnode, -⟩ := h.ast.root
    exact ⟨node, hnode⟩
  · rintro b ⟨node, hnode⟩ c hc
    rw [SyntaxTree.childrenOf_eq hnode] at hc
    obtain ⟨-, child, hchild, -⟩ := h.ast.children b.index node hnode c hc
    exact ⟨child, hchild⟩

theorem cst_tree (h : Sound g s) :
    IsTree (tree s).cstChildrenOf (tree s).cstOwnerOf (tree s).cstRoot where
  root_owner := by
    obtain ⟨node, hnode, hnone⟩ := h.cst.root
    exact (SyntaxTree.cstOwnerOf_eq (t := tree s) hnode).trans hnone
  nodup := by
    intro id hid
    obtain ⟨node, hnode⟩ := h.exists_cst? hid
    rw [SyntaxTree.cstChildrenOf_eq hnode]
    refine (h.cst.sorted id.index node hnode).imp ?_
    rintro a b hab rfl
    exact Nat.lt_irrefl _ hab
  owner_eq := by
    intro id hid c hc
    obtain ⟨node, hnode⟩ := h.exists_cst? hid
    rw [SyntaxTree.cstChildrenOf_eq hnode] at hc
    obtain ⟨-, child, hchild, hown⟩ := h.cst.children id.index node hnode c hc
    exact (SyntaxTree.cstOwnerOf_eq (t := tree s) hchild).trans hown

theorem ast_tree (h : Sound g s) :
    IsTree (tree s).childrenOf (tree s).ownerOf (tree s).root where
  root_owner := by
    obtain ⟨node, hnode, hnone⟩ := h.ast.root
    exact (SyntaxTree.ownerOf_eq (t := tree s) hnode).trans hnone
  nodup := by
    intro id hid
    obtain ⟨node, hnode⟩ := h.exists_node? hid
    rw [SyntaxTree.childrenOf_eq hnode]
    exact h.ast.nodup id.index node hnode
  owner_eq := by
    intro id hid c hc
    obtain ⟨node, hnode⟩ := h.exists_node? hid
    rw [SyntaxTree.childrenOf_eq hnode] at hc
    obtain ⟨-, child, hchild, hown⟩ := h.ast.children id.index node hnode c hc
    exact (SyntaxTree.ownerOf_eq (t := tree s) hchild).trans hown

/-- **The tree of a sound state is linked.** -/
theorem linked (h : Sound g s) : (tree s).Linked g where
  cst_tree := h.cst_tree
  cst_fits := by
    intro id hid
    obtain ⟨node, hnode⟩ := h.exists_cst? hid
    refine ⟨node, hnode, ?_, h.cst.names id.index node hnode, h.cst.source id.index node hnode⟩
    rw [h.cst.kind id.index node hnode]
    exact ⟨fun h0 => CstId.ext_index h0, fun h0 => congrArg CstId.index h0⟩
  ast_tree := h.ast_tree
  ast_fits := by
    -- what is in the concrete arena at all is reached
    have hreach : ∀ c : CstId, c.index < s.cst.size → (tree s).HasCst c :=
      fun c hc => h.hasCst c.index c.index (Nat.le_refl _) hc
    intro id hid
    obtain ⟨node, hnode⟩ := h.exists_node? hid
    refine ⟨node, hnode, h.ast.keys id.index node hnode,
      fun c hc => hreach c (h.ast.cstNode id.index node hnode c hc),
      h.ast.distinct id.index node hnode, ?_⟩
    intro name p hp r hr
    obtain ⟨ref, href, hcontainer, hproperty, hrefNode⟩ :=
      h.ast.refs id.index node hnode name p hp r hr
    exact ⟨ref, href, hcontainer, hproperty, fun c hc => hreach c (hrefNode c hc)⟩

end Sound

end Parse

/-- **Every parse gives a tree whose links agree**, whatever the text. -/
theorem Grammar.parse_linked {d : Definition} {g : Grammar} (hbuild : d.build = .ok g)
    {text : String} {name : Option String} {interrupt left : Interrupt} {r : ParseResult}
    (h : g.parse text name interrupt = .ok (r, left)) : r.tree.Linked g := by
  obtain ⟨rule, i, lexemes, start, s, hrule, -, -, -, hentry, -, htree, -, -⟩ := Parse.parse_ok h
  have hmem : rule ∈ g.rules := Array.mem_of_getElem? hrule
  have hsound := (Parse.invariant_sound (Parse.sourceOf g text lexemes) g).entry
    (fun rule hrule => Definition.body_ids_in_table hbuild hrule)
    (Definition.body_ids_in_table hbuild hmem) (fun _ _ _ _ _ hs => hs.congr rfl rfl rfl rfl rfl rfl)
    (fun tok hs => hs.pushLeaf tok none nofun) hentry
    (Parse.Sound.start (Definition.ids_in_table hbuild hmem rule.id List.mem_cons_self) start)
  rw [htree]
  exact hsound.linked

end Workbench
