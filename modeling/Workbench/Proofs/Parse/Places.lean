import Workbench.Proofs.Parse.Laid
import Workbench.Proofs.Tree.Address
/-!
# Items record their places

A node and a reference record where they are in the list that holds them.
The place is the number of items that the feature holds when the item is
stored. It is the right one if the item joins a list of its own kind, or if
there is no list; an item that replaces a list of another kind comes first and
records that it does not. This takes a feature that is mixed by the rule of
the node (`Element.Mixes`), so the places are right wherever none is.

While a rule is run, its node holds nothing but what the body of the rule
appends (`Filed`). What other rules do in between leaves that alone.
-/

namespace Workbench

/-! ## Items of properties -/

/-- What a property can hold that records its place. -/
inductive Held where
  | node (id : NodeId)
  | reference (id : RefId)
deriving DecidableEq, Repr

namespace Property

/-- What a property holds, with the places if it is a list. -/
def held (p : Property) : List (Held × Option ℕ) :=
  p.childSlots.map (fun (id, place) => (.node id, place)) ++
    p.slots.map (fun (id, place) => (.reference id, place))

/-- The kind of the items of a list that has some. -/
def itemKind? : Property → Option ItemKind
  | .scalars (_ :: _) => some .scalar
  | .nodes (_ :: _) => some .node
  | .references (_ :: _) => some .reference
  | _ => none

/-- The kind of a single item. -/
def singleKind? : Property → Option ItemKind
  | .scalar _ => some .scalar
  | .node _ => some .node
  | .reference _ => some .reference
  | _ => none

theorem node_mem_held {p : Property} {id : NodeId} {place : Option ℕ} :
    (.node id, place) ∈ p.held ↔ (id, place) ∈ p.childSlots := by
  simp [held]

theorem reference_mem_held {p : Property} {id : RefId} {place : Option ℕ} :
    (.reference id, place) ∈ p.held ↔ (id, place) ∈ p.slots := by
  simp [held]

/-- **The place that an item gets** when it is appended: the end of a list of
its kind, or the start of a new one. -/
def newPlace : Property → ItemKind → ℕ
  | .scalars values, .scalar => values.length
  | .nodes children, .node => children.length
  | .references refs, .reference => refs.length
  | _, _ => 0

/-- **The number of items is the place of the next one**, unless they are of
another kind. -/
theorem newPlace_cases (p : Property) (k : ItemKind) :
    p.newPlace k = p.listLength ∨
      p.newPlace k = 0 ∧ 0 < p.listLength ∧ ∃ k', p.itemKind? = some k' ∧ k' ≠ k := by
  cases p with
  | scalars values => cases values <;> cases k <;> simp [newPlace, listLength, itemKind?]
  | nodes children => cases children <;> cases k <;> simp [newPlace, listLength, itemKind?]
  | references refs => cases refs <;> cases k <;> simp [newPlace, listLength, itemKind?]
  | _ => exact Or.inl rfl

end Property

namespace Parse

open Property

variable {p old item : Property} {k : ItemKind}

theorem itemKind?_appendItem (hitem : item.singleKind? = some k) :
    (appendItem old item).itemKind? = some k := by
  cases item <;> cases hitem <;> cases old <;>
    first | rfl | (next l => cases l <;> rfl)

/-- **What a list holds after an item is appended**: what it held, and the
item at its new place. -/
theorem held_appendItem (hitem : item.singleKind? = some k) {x : Held} {place : Option ℕ}
    (h : (x, place) ∈ (appendItem old item).held) :
    (x, place) ∈ old.held ∨ ((x, none) ∈ item.held ∧ place = some (old.newPlace k)) := by
  cases item <;> cases hitem <;> cases old <;>
    simp [appendItem, held, childSlots, slots, newPlace, List.zipIdx_append] at h ⊢ <;> grind

/-! ## What is recorded -/

/-- The place that what is held records. -/
def recorded? (ast : Array AstNode) (references : Array Reference) : Held → Option (Option ℕ)
  | .node id => ast[id.index]?.map AstNode.containerIndex
  | .reference id => references[id.index]?.map Reference.index

/-- **A recorded place is right**, but for the first item of a mixed feature:
it may come first in place of others. -/
def RightPlace (mixed : Prop) (place index : Option ℕ) : Prop :=
  index = place ∨ mixed ∧ place = some 0 ∧ ∃ j, 0 < j ∧ index = some j

/-- **What the body of a rule stores**: lists of what it appends, in which
everything records its place. -/
structure FiledIn (body : Element) (ast : Array AstNode) (references : Array Reference)
    (properties : Properties) : Prop where
  kinds : ∀ name p, (name, p) ∈ properties.entries → ∀ k, p.itemKind? = some k →
    k ∈ body.appended name
  places : ∀ name p, (name, p) ∈ properties.entries → ∀ x place, (x, place) ∈ p.held →
    ∃ index, recorded? ast references x = some index ∧ RightPlace (body.Mixes name) place index

namespace FiledIn

variable {body : Element} {ast ast' : Array AstNode} {references references' : Array Reference}
variable {properties : Properties} {feature : String} {op : AssignOp}

/-- Only what is recorded of the items matters. -/
theorem congr (h : FiledIn body ast references properties)
    (hsame : ∀ name p, (name, p) ∈ properties.entries → ∀ x place, (x, place) ∈ p.held →
      ∀ index, recorded? ast references x = some index →
        recorded? ast' references' x = some index) :
    FiledIn body ast' references' properties where
  kinds := h.kinds
  places := by
    intro name p hp x place hx
    obtain ⟨index, hindex, hright⟩ := h.places name p hp x place hx
    exact ⟨index, hsame name p hp x place hx index hindex, hright⟩

/-- What a node starts out with holds nothing. -/
theorem new (rule : Rule) (cst : CstId) :
    FiledIn rule.body ast references (State.newNode rule cst).properties where
  kinds := by
    intro name p hp k hk
    rcases newNode_entry hp with rfl | rfl <;> cases hk
  places := by
    intro name p hp x place hx
    rcases newNode_entry hp with rfl | rfl <;> cases hx

/-- A property is replaced by one of right kinds and right places. -/
theorem insert (h : FiledIn body ast references properties) {q : Property}
    (hkinds : ∀ k, q.itemKind? = some k → k ∈ body.appended feature)
    (hplaces : ∀ x place, (x, place) ∈ q.held →
      ∃ index, recorded? ast references x = some index ∧
        RightPlace (body.Mixes feature) place index) :
    FiledIn body ast references (properties.insert feature q) where
  kinds := by
    intro name p hp k hk
    rcases OrderedMap.mem_insert hp with heq | hp
    · cases heq
      exact hkinds k hk
    · exact h.kinds name p hp k hk
  places := by
    intro name p hp x place hx
    rcases OrderedMap.mem_insert hp with heq | hp
    · cases heq
      exact hplaces x place hx
    · exact h.places name p hp x place hx

/-- The next place is the number of items that were there, unless they are
replaced. -/
theorem rightPlace_newPlace (hold : old = .empty ∨ (feature, old) ∈ properties.entries)
    (h : FiledIn body ast references properties) (hk : k ∈ body.appended feature) :
    RightPlace (body.Mixes feature) (some (old.newPlace k)) (some old.listLength) := by
  rcases newPlace_cases old k with hsame | ⟨hfirst, hpos, k', hk', hne⟩
  · exact Or.inl (congrArg some hsame.symm)
  · -- the list that is replaced was appended by the same body
    rcases hold with rfl | hentry
    · cases hk'
    · have hmixes : body.Mixes feature := ⟨k', h.kinds feature old hentry k' hk', k, hk, hne⟩
      exact Or.inr ⟨hmixes, congrArg some hfirst, _, hpos, rfl⟩

/-- **An item is put under a feature**, and records how many there were. -/
theorem put (h : FiledIn body ast references properties) (hitem : item.singleKind? = some k)
    (happended : op = .append → k ∈ body.appended feature)
    (hrecorded : ∀ x, (x, none) ∈ item.held → recorded? ast references x = some
      (if op = .append then some (((properties.get? feature).map listLength).getD 0) else none)) :
    FiledIn body ast references (properties.insert feature (if op = .append then
      appendItem ((properties.get? feature).getD .empty) item else item)) := by
  have hold := properties.getD_get?_cases feature .empty
  have hcount : ((properties.get? feature).map listLength).getD 0 =
      ((properties.get? feature).getD .empty).listLength := by
    cases properties.get? feature <;> rfl
  rw [hcount] at hrecorded
  generalize (properties.get? feature).getD .empty = old at hold hrecorded
  by_cases hop : op = .append
  · rw [if_pos hop] at hrecorded ⊢
    have hk := happended hop
    refine h.insert ?_ ?_
    · intro k' hk'
      rw [itemKind?_appendItem hitem, Option.some.injEq] at hk'
      exact hk' ▸ hk
    · intro x place hx
      rcases held_appendItem hitem hx with hx' | ⟨hx', rfl⟩
      · rcases hold with rfl | hentry
        · cases hx'
        · exact h.places feature old hentry x place hx'
      · exact ⟨_, hrecorded x hx', rightPlace_newPlace hold h hk⟩
  · rw [if_neg hop] at hrecorded ⊢
    refine h.insert ?_ ?_
    · intro k' hk'
      cases item <;> cases hitem <;> cases hk'
    · intro x place hx
      have hplace : place = none := by
        cases item <;> cases hitem <;> simp [held, childSlots, slots] at hx <;> exact hx.2
      subst hplace
      exact ⟨none, hrecorded x hx, Or.inl rfl⟩

end FiledIn

/-! ## States -/

variable {src : Source} {g : Grammar} {rule : Rule} {s s' : State} {n : NodeId}

/-- **While a rule is run**, its node holds what the body of the rule stores,
and every other node what that of some rule of its type does. -/
structure Filed (src : Source) (rule : Rule) (s : State) : Prop where
  rule_mem : rule ∈ src.grammar.rules
  all : ∀ (i : ℕ) node, s.ast[i]? = some node → ∃ rule' ∈ src.grammar.rules,
    rule'.produces = node.typeName ∧ FiledIn rule'.body s.ast s.references node.properties
  own : ∀ n node, s.node = some n → s.ast[n.index]? = some node →
    rule.produces = node.typeName ∧ FiledIn rule.body s.ast s.references node.properties

namespace Filed

/-- Nodes may change in what is not their type, nor held by them, nor recorded
by what is held. -/
theorem transport (h : Filed src rule s) (hnode : s'.node = s.node)
    (hlook : ∀ (i : ℕ) node', s'.ast[i]? = some node' → ∃ node, s.ast[i]? = some node ∧
      node'.typeName = node.typeName ∧ node'.properties = node.properties)
    (hrecorded : ∀ (i : ℕ) node, s.ast[i]? = some node →
      ∀ name p, (name, p) ∈ node.properties.entries → ∀ x place, (x, place) ∈ p.held →
      ∀ index, recorded? s.ast s.references x = some index →
        recorded? s'.ast s'.references x = some index) : Filed src rule s' where
  rule_mem := h.rule_mem
  all := by
    intro i node' hnode'
    obtain ⟨node, hnode, htype, hprops⟩ := hlook i node' hnode'
    obtain ⟨rule', hmem, hproduces, hfiled⟩ := h.all i node hnode
    rw [htype, hprops]
    exact ⟨rule', hmem, hproduces, hfiled.congr (hrecorded i node hnode)⟩
  own := by
    intro n node' hn hnode'
    obtain ⟨node, hlooked, htype, hprops⟩ := hlook n.index node' hnode'
    obtain ⟨hproduces, hfiled⟩ := h.own n node (hnode.symm.trans hn) hlooked
    rw [htype, hprops]
    exact ⟨hproduces, hfiled.congr (hrecorded n.index node hlooked)⟩

theorem congr (h : Filed src rule s) (hast : s'.ast = s.ast)
    (hrefs : s'.references = s.references) (hnode : s'.node = s.node) : Filed src rule s' := by
  refine h.transport hnode (fun i node hlook => ⟨node, by rwa [← hast], rfl, rfl⟩) ?_
  intro _ _ _ _ _ _ x _ _ index hindex
  rwa [hast, hrefs]

theorem of_same (h : Filed src rule s) (hsame : SameAst s s') : Filed src rule s' :=
  h.congr hsame.ast hsame.references hsame.node

/-! ## Values are stored -/

/-- **A node that nothing holds is told its place.** -/
theorem setContainer (h : Filed src rule s) {child container : NodeId} {feature : String}
    {index : Option ℕ} (hfree : Free s.ast child) :
    Filed src rule { s with
      ast := State.setContainer s.ast child container feature index } := by
  refine h.transport rfl ?_ ?_
  · intro i node' hnode'
    obtain ⟨node, hnode, htype, hproperties, -⟩ := State.setContainer_cases hnode'
    exact ⟨node, hnode, htype, hproperties⟩
  · intro i node hnode name p hp x place hx index' hindex'
    cases x with
    | reference id => exact hindex'
    | node id =>
      -- the child is held by nothing yet, so what is held is another node
      have hne : child.index ≠ id.index := by
        intro heq
        refine hfree i node hnode ?_
        rw [NodeId.ext_index heq]
        refine SyntaxTree.Linked.mem_children_of_entry hp ?_
        rw [children_eq_childSlots]
        exact List.mem_map.mpr ⟨_, node_mem_held.mp hx, rfl⟩
      rw [recorded?, State.getElem?_setContainer_ne hne]
      exact hindex'

theorem pushReference (h : Filed src rule s) (ref : Reference) :
    Filed src rule { s with references := s.references.push ref } := by
  refine h.transport rfl (fun i node hnode => ⟨node, hnode, rfl, rfl⟩) ?_
  intro _ _ _ _ _ _ x _ _ index hindex
  cases x with
  | node id => exact hindex
  | reference id =>
    obtain ⟨old, hold, rfl⟩ := Option.map_eq_some_iff.mp hindex
    rw [recorded?, getElem?_push_old hold]
    rfl

/-- **An item is put under a feature of the node.** -/
theorem put (h : Filed src rule s) (hn : s.node = some n) {a : AstNode}
    (ha : s.ast[n.index]? = some a) {feature : String} {op : AssignOp}
    (hitem : item.singleKind? = some k)
    (happended : op = .append → k ∈ rule.body.appended feature)
    (hrecorded : ∀ x, (x, none) ∈ item.held → recorded? s.ast s.references x = some
      (if op = .append then some (((a.properties.get? feature).map listLength).getD 0)
        else none)) :
    Filed src rule (s.put n feature op item) := by
  obtain ⟨hproduces, hfiled⟩ := h.own n a hn ha
  have hlook := State.getElem?_setProperties ha
    ((s.propertiesOf n).insert feature (if op = .append then
      appendItem (((s.propertiesOf n).get? feature).getD .empty) item else item))
  -- what nodes and references record does not change
  have hkept : ∀ x, recorded? (s.put n feature op item).ast s.references x =
      recorded? s.ast s.references x := by
    rintro (id | id)
    · rw [recorded?, recorded?, State.put, hlook]
      split
      · next hi => rw [← hi, ha]; rfl
      · rfl
    · rfl
  have hnew : FiledIn rule.body (s.put n feature op item).ast s.references
      ((s.propertiesOf n).insert feature (if op = .append then
        appendItem (((s.propertiesOf n).get? feature).getD .empty) item else item)) := by
    rw [propertiesOf_eq ha]
    exact (hfiled.put hitem happended hrecorded).congr fun _ _ _ x _ _ _ hx => (hkept x).trans hx
  refine ⟨h.rule_mem, ?_, ?_⟩
  · intro i node hnode
    have hnode' : (State.setProperties s.ast n _)[i]? = some node := hnode
    rw [hlook] at hnode'
    split at hnode'
    · obtain rfl := Option.some.inj hnode'
      exact ⟨rule, h.rule_mem, hproduces, hnew⟩
    · obtain ⟨rule', hmem, hproduces', hfiled'⟩ := h.all i node hnode'
      exact ⟨rule', hmem, hproduces', hfiled'.congr fun _ _ _ x _ _ _ hx => (hkept x).trans hx⟩
  · intro m node hm hnode
    obtain rfl : n = m := Option.some.inj (hn.symm.trans hm)
    have hnode' : (State.setProperties s.ast n _)[n.index]? = some node := hnode
    rw [hlook, if_pos rfl] at hnode'
    obtain rfl := Option.some.inj hnode'
    exact ⟨hproduces, hnew⟩

/-- **A value is stored** with the number of items before it. -/
theorem store (h : Filed src rule s) (hn : s.node = some n) (hlt : n.index < s.ast.size)
    {feature : String} {op : AssignOp} {value : Assigned}
    (happended : op = .append → value.kind ∈ rule.body.appended feature)
    (hchild : ∀ child, value = .node child → n.index ≠ child.index ∧
      child.index < s.ast.size ∧ Free s.ast child) :
    Filed src rule (s.store n feature op value) := by
  obtain ⟨a, ha⟩ : ∃ a, s.ast[n.index]? = some a := ⟨_, Array.getElem?_eq_getElem hlt⟩
  simp only [State.store, propertiesOf_eq ha]
  cases value with
  | scalar value => exact h.put hn ha rfl happended fun x hx => by cases hx
  | reference text leaf target =>
    refine (h.pushReference _).put hn ha rfl happended ?_
    intro x hx
    obtain rfl : x = .reference ⟨s.references.size⟩ := by simpa [held, childSlots, slots] using hx
    simp [recorded?]
  | node child =>
    obtain ⟨hne, hin, hfree⟩ := hchild child rfl
    have ha' : (State.setContainer s.ast child n feature
        (if op = .append then some (((a.properties.get? feature).map listLength).getD 0)
          else none))[n.index]? = some a := by
      rw [State.getElem?_setContainer_ne (Ne.symm hne), ha]
    refine (h.setContainer hfree).put hn ha' rfl happended ?_
    intro x hx
    obtain rfl : x = .node child := by simpa [held, childSlots, slots] using hx
    rw [recorded?, setContainer_self (Array.getElem?_eq_getElem hin)]
    rfl

/-! ## Calls -/

/-- A call is opened, with a new node if the rule makes one. -/
theorem openCall (h : Filed src rule s) {rule' : Rule} (hmem : rule' ∈ src.grammar.rules)
    (source : ElementId) : Filed src rule' (Parse.openCall rule' source s.mark s) := by
  have hcases : ∀ (i : ℕ) node, (Parse.openCall rule' source s.mark s).ast[i]? = some node →
      s.ast[i]? = some node ∨
        (i = s.ast.size ∧ node = State.newNode rule' ⟨s.cst.size⟩) := by
    intro i node hnode
    simp only [Parse.openCall, State.linkCst, State.pushCst] at hnode
    split at hnode
    · exact Or.inl hnode
    · exact (getElem?_push_cases hnode).symm
  have hkept : ∀ x index, recorded? s.ast s.references x = some index →
      recorded? (Parse.openCall rule' source s.mark s).ast s.references x = some index := by
    rintro (id | id) index hindex
    · obtain ⟨node, hnode, rfl⟩ := Option.map_eq_some_iff.mp hindex
      rw [recorded?, openCall_ast rule' source s (Array.getElem?_eq_some_iff.mp hnode).1, hnode]
      rfl
    · exact hindex
  refine ⟨hmem, ?_, ?_⟩
  · intro i node hnode
    rcases hcases i node hnode with hold | ⟨-, rfl⟩
    · obtain ⟨rule₁, hmem₁, hproduces, hfiled⟩ := h.all i node hold
      exact ⟨rule₁, hmem₁, hproduces, hfiled.congr fun _ _ _ x _ _ index hx => hkept x index hx⟩
    · exact ⟨rule', hmem, rfl, FiledIn.new rule' _⟩
  · intro n node hn hnode
    have hn' : ownNode rule' s.mark = some n := hn
    rw [ownNode] at hn'
    split at hn'
    · cases hn'
    · obtain rfl := Option.some.inj hn'
      rcases hcases s.ast.size node hnode with hold | ⟨-, rfl⟩
      · exact absurd (Array.getElem?_eq_some_iff.mp hold).1 (Nat.lt_irrefl _)
      · exact ⟨rfl, FiledIn.new rule' _⟩

/-- A call is left: the node of the caller is as it was, and so is what it
holds. -/
theorem leaveCall (h : Filed src rule s) (hin : ∀ n, s.node = some n → n.index < s.ast.size)
    {rule' : Rule} {source : ElementId} (hgrown : Grown (Parse.openCall rule' source s.mark s) s')
    (h' : Filed src rule' s') (node : NodeId) : Filed src rule (s.leave s' node) := by
  have hkept : ∀ x index, recorded? s.ast s.references x = some index →
      recorded? s'.ast s'.references x = some index := by
    rintro (id | id) index hindex
    · obtain ⟨node, hnode, rfl⟩ := Option.map_eq_some_iff.mp hindex
      rw [recorded?, hgrown.ast_of_call (Array.getElem?_eq_some_iff.mp hnode).1, hnode]
      rfl
    · obtain ⟨ref, href, rfl⟩ := Option.map_eq_some_iff.mp hindex
      obtain ⟨more, hmore⟩ := hgrown.references
      have hmore' : s'.references = s.references ++ more := hmore
      have hlt := (Array.getElem?_eq_some_iff.mp href).1
      rw [recorded?, hmore', Array.getElem?_append_left hlt, href]
      rfl
  refine ⟨h.rule_mem, h'.all, ?_⟩
  intro n a hn ha
  have hn' : s.node = some n := hn
  have ha' : s.ast[n.index]? = some a := (hgrown.ast_of_call (hin n hn')).symm.trans ha
  obtain ⟨hproduces, hfiled⟩ := h.own n a hn' ha'
  exact ⟨hproduces, hfiled.congr fun _ _ _ x _ _ index hx => hkept x index hx⟩

end Filed

/-! ## Steps -/

/-- What the body of a rule appends may be stored by it. -/
def Appends (rule : Rule) (feature : String) (op : AssignOp) (k : ItemKind) : Prop :=
  op = .append → k ∈ rule.body.appended feature

theorem storedBy_body (rule : Rule) : StoredBy (Appends rule) rule.body.assignments := by
  rintro ⟨feature, op, value⟩ ha k hk rfl
  exact Element.mem_appended.mpr ⟨value, ha, hk⟩

/-- What the steps of a rule keep: the state stays sound, and filed. -/
def KeepsFiled (src : Source) (g : Grammar) (rule : Rule) (s s' : State) : Prop :=
  (Grown s s' ∧ (Sound g s → Sound g s')) ∧ (Sound g s → Filed src rule s → Filed src rule s')

/-- What is known of a value that was found by a rule: it is fresh. -/
def FindsFiled (src : Source) (g : Grammar) (rule : Rule) (s : State) (value : Assigned)
    (s' : State) : Prop :=
  (Found s value s' ∧ (Sound g s → Sound g s' ∧ Fresh s' value)) ∧
    (Sound g s → Filed src rule s → Filed src rule s')

/-- **Every step of a rule keeps the state filed**, if calls do. -/
theorem kept_filed (src : Source) (g : Grammar) (rule : Rule) :
    Kept src (InTable g) (Appends rule) (KeepsFiled src g rule) (FindsFiled src g rule) where
  refl := fun s => ⟨(invariant_sound src g).kept.refl s, fun _ hf => hf⟩
  trans := fun h₁ h₂ => ⟨(invariant_sound src g).kept.trans h₁.1 h₂.1,
    fun hs hf => h₂.2 (h₁.1.2 hs) (h₁.2 hs hf)⟩
  later := fun h₁ h₂ => ⟨(invariant_sound src g).kept.later h₁.1 h₂.1,
    fun hs hf => h₂.2 (h₁.1.2 hs) (h₁.2 hs hf)⟩
  tick := fun ht => ⟨(invariant_sound src g).kept.tick ht,
    fun _ hf => hf.of_same (SameAst.tick ht)⟩
  expect := fun s label => ⟨(invariant_sound src g).kept.expect s label,
    fun _ hf => hf.of_same (SameAst.expect s label)⟩
  consume := fun hid hnext htok => ⟨(invariant_sound src g).kept.consume hid hnext htok,
    fun _ hf => hf.of_same (SameAst.consume _ _ _ _)⟩
  scalar := by
    rintro s s' index tok id value hid hnext htok rfl
    exact ⟨(invariant_sound src g).kept.scalar hid hnext htok rfl,
      fun _ hf => hf.of_same (SameAst.consume _ _ _ _)⟩
  reference := by
    rintro s s' index tok id target hid hnext htok rfl
    exact ⟨(invariant_sound src g).kept.reference hid hnext htok rfl,
      fun _ hf => hf.of_same (SameAst.consume _ _ _ _)⟩
  store := by
    rintro s s' n feature op value happends hn ⟨hfinds, hfiled⟩
    refine ⟨(invariant_sound src g).kept.store trivial hn hfinds, fun hs hf => ?_⟩
    obtain ⟨hfound, hgives⟩ := hfinds
    obtain ⟨hs', hfresh⟩ := hgives hs
    have hn' : s'.node = some n := hfound.1.node.trans hn
    refine (hfiled hs hf).store hn' (hs'.node n hn') happends ?_
    rintro child rfl
    have hlt := hs.node n hn
    have hnew := hfound.2
    exact ⟨by omega, hnew.2, (hfresh child rfl).1⟩
  produce := fun hvalue => ⟨(invariant_sound src g).kept.produce hvalue.1,
    fun hs hf => (hvalue.2 hs hf).congr rfl rfl rfl⟩
  restore := by
    rintro s s' ⟨hrel, -⟩
    refine ⟨(invariant_sound src g).kept.restore hrel, fun _ hf => ?_⟩
    rw [restore_mark hrel.1]
    exact hf.congr rfl rfl rfl

/-- **Calls keep the state filed for the caller.** -/
theorem keptBy_filed (src : Source) (g : Grammar)
    (hknown : ∀ rule ∈ src.grammar.rules, ∀ id ∈ rule.body.ids, InTable g id) (depth : ℕ)
    (rule : Rule) :
    KeptBy (InTable g) (KeepsFiled src g rule) (FindsFiled src g rule) (callRule src depth) := by
  -- for all rules at once: a callee stores for its own rule, not for the caller's
  induction depth using Nat.strong_induction_on generalizing rule with
  | _ depth ih =>
    intro id index s a s' hid hcall
    have hsound := (invariant_sound src g).keptBy_callRule hknown depth id index s a s' hid hcall
    have hfiled : Sound g s → Filed src rule s → Filed src rule s' := by
      intro hs hf
      rcases callRule_ok hcall with
        ⟨-, rfl⟩ | ⟨below, rule', s₁, b, rfl, hrule', hrun, hgrown, hcases⟩
      · exact hf
      · have hmem := Array.mem_of_getElem? hrule'
        obtain ⟨-, hkeeps⟩ := (kept_filed src g rule').element
          (ih below (Nat.lt_succ_self below) rule') rule'.body (hknown rule' hmem)
          (storedBy_body rule') _ _ _ hrun
        have hopened : Sound g (Parse.openCall rule' id s.mark s) :=
          (invariant_sound src g).openCall hid hs
        rcases hcases with ⟨node, -, -, -, rfl⟩ | ⟨-, rfl⟩
        · exact hf.leaveCall hs.node hgrown (hkeeps hopened (hf.openCall hmem id)) node
        · exact hf.congr rfl rfl rfl
    exact ⟨⟨hsound.1, hfiled⟩, fun node hnode => ⟨hsound.2 node hnode, hfiled⟩⟩

/-! ## Whole parses -/

/-- A parse starts filed. -/
theorem Filed.start (hmem : rule ∈ src.grammar.rules) (interrupt : Interrupt) :
    Filed src rule (State.start src rule interrupt) := by
  have hast : ∀ (i : ℕ) node, (State.start src rule interrupt).ast[i]? = some node →
      node = State.newNode rule ⟨0⟩ := by
    intro i node hnode
    have hi := (Array.getElem?_eq_some_iff.mp hnode).1
    have hi0 : i = 0 := Nat.lt_one_iff.mp hi
    subst hi0
    exact (Option.some.inj hnode).symm
  refine ⟨hmem, ?_, ?_⟩
  · intro i node hnode
    rw [hast i node hnode]
    exact ⟨rule, hmem, rfl, FiledIn.new rule _⟩
  · intro n node _ hnode
    rw [hast n.index node hnode]
    exact ⟨rfl, FiledIn.new rule _⟩

/-- **A parse ends filed.** -/
theorem Filed.entry (hknown : ∀ rule ∈ src.grammar.rules, ∀ id ∈ rule.body.ids, InTable g id)
    (hmem : rule ∈ src.grammar.rules) {u : Unit} (hentry : Parse.entry src rule s = .ok (u, s'))
    (hs : Sound g s) (hf : Filed src rule s) : Filed src rule s' := by
  refine (entry_keeps (P := fun s => Sound g s ∧ Filed src rule s) ?_ ?_ ?_ hentry ⟨hs, hf⟩).2
  · rintro s pos furthest steps interrupt errors - h
    exact ⟨h.1.congr rfl rfl rfl rfl rfl rfl, h.2.congr rfl rfl rfl⟩
  · intro s tok h
    exact ⟨h.1.pushLeaf tok none nofun, h.2.congr rfl rfl rfl⟩
  · intro s b s' hmatch h
    have hkeeps := (kept_filed src g rule).attemptMatch
      ((kept_filed src g rule).element (keptBy_filed src g hknown _ rule) rule.body
        (hknown rule hmem) (storedBy_body rule)) hmatch
    exact ⟨hkeeps.1.2 h.1, hkeeps.2 h.1 h.2⟩

end Parse

/-- **Items record their places**, in every node of a parse: single ones none,
and those of lists where they are. Only the first item of a list may record
something else, the number of the items that it replaced, and only under a
feature that the rule of the node mixes. -/
theorem Grammar.parse_places {d : Definition} {g : Grammar} (hbuild : d.build = .ok g)
    {text : String} {name : Option String} {interrupt left : Interrupt} {r : ParseResult}
    (hparse : g.parse text name interrupt = .ok (r, left)) {id : NodeId} {node : AstNode}
    (hnode : r.tree.node? id = some node) :
    ∃ rule ∈ g.rules, rule.produces = node.typeName ∧
      ∀ feature p, (feature, p) ∈ node.properties.entries →
        (∀ child place, (child, place) ∈ p.childSlots → ∃ c, r.tree.node? child = some c ∧
          Parse.RightPlace (rule.body.Mixes feature) place c.containerIndex) ∧
        ∀ ref place, (ref, place) ∈ p.slots → ∃ held, r.tree.reference? ref = some held ∧
          Parse.RightPlace (rule.body.Mixes feature) place held.index := by
  obtain ⟨rule, i, lexemes, start, s, hrule, -, -, -, hentry, -, htree, -, -⟩ :=
    Parse.parse_ok hparse
  have hmem : rule ∈ (Parse.sourceOf g text lexemes).grammar.rules := Array.mem_of_getElem? hrule
  have hfiled := Parse.Filed.entry (fun rule hrule => Definition.body_ids_in_table hbuild hrule)
    hmem hentry
    (Parse.Sound.start (Definition.ids_in_table hbuild hmem rule.id List.mem_cons_self) start)
    (Parse.Filed.start hmem start)
  rw [htree] at hnode ⊢
  obtain ⟨rule', hmem', hproduces, hplaces⟩ := hfiled.all id.index node hnode
  refine ⟨rule', hmem', hproduces, fun feature p hp => ⟨?_, ?_⟩⟩
  · intro child place hslot
    obtain ⟨index, hindex, hright⟩ :=
      hplaces.places feature p hp (.node child) place (Property.node_mem_held.mpr hslot)
    obtain ⟨c, hc, rfl⟩ := Option.map_eq_some_iff.mp hindex
    exact ⟨c, hc, hright⟩
  · intro ref place hslot
    obtain ⟨index, hindex, hright⟩ :=
      hplaces.places feature p hp (.reference ref) place (Property.reference_mem_held.mpr hslot)
    obtain ⟨held, hheld, rfl⟩ := Option.map_eq_some_iff.mp hindex
    exact ⟨held, hheld, hright⟩

namespace Mixed

/-- A model of a mark and two items under one feature. -/
def definition : Definition :=
  { name := "Mixed"
    terminals := []
    rules := [
      ⟨"Model", some "Model",
        .seq [.assign "items" .append (.keyword "x"), .assign "items" .append (.call "Item"),
          .assign "items" .append (.call "Item")]⟩,
      ⟨"Item", some "Item", .keyword "x"⟩]
    entry := none }

/-- The compiled definition. -/
def grammar : Grammar :=
  { name := "Mixed"
    terminals := #[]
    rules := #[
      ⟨⟨0⟩, "Model", .node "Model",
        .seq ⟨1⟩ [.assign ⟨2⟩ "items" .append (.keyword ⟨3⟩ "x"),
          .assign ⟨4⟩ "items" .append (.call ⟨5⟩ 1), .assign ⟨6⟩ "items" .append (.call ⟨7⟩ 1)]⟩,
      ⟨⟨8⟩, "Item", .node "Item", .keyword ⟨9⟩ "x"⟩]
    entry := 0
    keywords := ["x"] }

/-- The parse of a mark and two items. -/
def result : ParseResult :=
  { tree :=
      { ast := #[
          ⟨"Model", none, none, none, some ⟨0⟩, ⟨[("items", .nodes [⟨1⟩, ⟨2⟩])]⟩⟩,
          ⟨"Item", some ⟨0⟩, some "items", some 1, some ⟨2⟩, ⟨[]⟩⟩,
          ⟨"Item", some ⟨0⟩, some "items", some 1, some ⟨4⟩, ⟨[]⟩⟩]
        cst := #[
          ⟨.root "xxx" #[⟨1⟩, ⟨2⟩, ⟨4⟩], none, ⟨0⟩, some ⟨0⟩, some ⟨0⟩, false⟩,
          ⟨.leaf "x" 0 1 ⟨⟨0, 0⟩, ⟨0, 1⟩⟩, some ⟨0⟩, ⟨0⟩, some ⟨0⟩, some ⟨3⟩, false⟩,
          ⟨.composite #[⟨3⟩], some ⟨0⟩, ⟨0⟩, some ⟨1⟩, some ⟨5⟩, false⟩,
          ⟨.leaf "x" 1 1 ⟨⟨0, 1⟩, ⟨0, 2⟩⟩, some ⟨2⟩, ⟨0⟩, some ⟨1⟩, some ⟨9⟩, false⟩,
          ⟨.composite #[⟨5⟩], some ⟨0⟩, ⟨0⟩, some ⟨2⟩, some ⟨7⟩, false⟩,
          ⟨.leaf "x" 2 1 ⟨⟨0, 2⟩, ⟨0, 3⟩⟩, some ⟨4⟩, ⟨0⟩, some ⟨2⟩, some ⟨9⟩, false⟩]
        references := #[]
        root := ⟨0⟩
        cstRoot := ⟨0⟩ }
    lexerErrors := []
    parserErrors := [] }

theorem build_definition : definition.build = .ok grammar :=
  Definition.build_of_ordered (by decide) rfl rfl

theorem parse_text : grammar.parse "xxx" none .never = .ok (result, .never) := by
  decide +kernel

end Mixed

/-- **The first item records a place that it is not at**, as it replaced the
mark: both items record one place, and their path leads to the second. -/
theorem Grammar.parse_places_mixed :
    Mixed.definition.build = .ok Mixed.grammar ∧
    Mixed.grammar.parse "xxx" none .never = .ok (Mixed.result, .never) ∧
    (Mixed.result.tree.node? ⟨0⟩).map (fun node => node.properties.get? "items") =
      some (some (.nodes [⟨1⟩, ⟨2⟩])) ∧
    [⟨1⟩, ⟨2⟩].map (fun id => (Mixed.result.tree.node? id).map AstNode.containerIndex) =
      [some (some 1), some (some 1)] ∧
    Mixed.result.tree.nodeAtPath? (Mixed.result.tree.pathOf ⟨1⟩) = some ⟨2⟩ ∧
    ∀ node, Mixed.result.tree.node? ⟨0⟩ = some node →
      ∃ rule ∈ Mixed.grammar.rules, rule.produces = node.typeName ∧
        ∀ feature p, (feature, p) ∈ node.properties.entries →
          ∀ child place, (child, place) ∈ p.childSlots →
            ∃ c, Mixed.result.tree.node? child = some c ∧
              Parse.RightPlace (rule.body.Mixes feature) place c.containerIndex := by
  refine ⟨Mixed.build_definition, Mixed.parse_text, by decide, by decide, by decide,
    fun node hnode => ?_⟩
  obtain ⟨rule, hrule, hproduces, hplaces⟩ :=
    Grammar.parse_places Mixed.build_definition Mixed.parse_text hnode
  exact ⟨rule, hrule, hproduces, fun feature p hp => (hplaces feature p hp).1⟩

end Workbench
