import Workbench.Proofs.Grammar.Flow
import Workbench.Proofs.Parse.Linked
import Workbench.Proofs.Tree.Spans
/-!
# Nodes and references are parsed in order

In a grammar whose rules fill their nodes in order, a call adds nothing but
the tree of its product at the end of the arena, and the references it adds
are those that tree holds, in the same order. While a rule fills its node,
what it holds so far fills the arena behind it (`Filling`); the next node
comes after that, and a reference comes while there is nothing yet.
-/

namespace Workbench

open SyntaxTree

/-! ## Properties of a shape -/

theorem Property.slots_eq_nil {p : Property} (h : p.refs = []) : p.slots = [] := by
  rw [Property.refs_eq_slots] at h
  exact List.map_eq_nil_iff.mp h

/-- **Properties of a shape**: nodes are in lists, and they and references
are held where the shape says. -/
structure Shape.Holds (shape : Shape) (properties : Properties) : Prop where
  /-- Properties are a map. -/
  keys : properties.keys.Nodup
  /-- Nodes are in lists. -/
  listed : ∀ name p, (name, p) ∈ properties.entries → ∀ c, p ≠ .node c
  /-- Nodes are held under one feature. -/
  nodes : ∀ name p, (name, p) ∈ properties.entries → p.children ≠ [] → shape.nodes = some name
  /-- References are held under one feature. -/
  refs : ∀ name p, (name, p) ∈ properties.entries → p.slots ≠ [] → shape.refs = some name

namespace Shape.Holds

variable {shape : Shape} {properties : Properties} {feature : String}

theorem children_get?_eq_nil (h : shape.Holds properties) (hf : shape.nodes ≠ some feature) :
    ((properties.get? feature).map Property.children).getD [] = [] := by
  cases hget : properties.get? feature with
  | none => rfl
  | some p =>
    by_contra hne
    exact hf (h.nodes feature p (OrderedMap.mem_of_get? hget) hne)

theorem slots_get?_eq_nil (h : shape.Holds properties) (hf : shape.refs ≠ some feature) :
    ((properties.get? feature).map Property.slots).getD [] = [] := by
  cases hget : properties.get? feature with
  | none => rfl
  | some p =>
    by_contra hne
    exact hf (h.refs feature p (OrderedMap.mem_of_get? hget) hne)

/-- A value is put under a feature that may have it. -/
theorem insert (h : shape.Holds properties) {q : Property} (hlisted : ∀ c, q ≠ .node c)
    (hnodes : q.children ≠ [] → shape.nodes = some feature)
    (hrefs : q.slots ≠ [] → shape.refs = some feature) :
    shape.Holds (properties.insert feature q) where
  keys := OrderedMap.nodup_keys_insert h.keys feature q
  listed := by
    intro name p hp
    rcases OrderedMap.mem_insert hp with heq | hp
    · cases heq
      exact hlisted
    · exact h.listed name p hp
  nodes := by
    intro name p hp
    rcases OrderedMap.mem_insert hp with heq | hp
    · cases heq
      exact hnodes
    · exact h.nodes name p hp
  refs := by
    intro name p hp
    rcases OrderedMap.mem_insert hp with heq | hp
    · cases heq
      exact hrefs
    · exact h.refs name p hp

/-- What the feature for nodes holds is all the nodes there are. -/
theorem flatMap_children (h : shape.Holds properties) (hf : shape.nodes = some feature) :
    properties.values.flatMap Property.children =
      ((properties.get? feature).map Property.children).getD [] := by
  refine OrderedMap.flatMap_values_of_only h.keys fun name p hp hne => ?_
  exact Option.some.inj ((h.nodes name p hp hne).symm.trans hf)

/-- What the feature for references holds is all the references there are. -/
theorem flatMap_slots (h : shape.Holds properties) (hf : shape.refs = some feature) :
    properties.values.flatMap Property.slots =
      ((properties.get? feature).map Property.slots).getD [] := by
  refine OrderedMap.flatMap_values_of_only h.keys fun name p hp hne => ?_
  exact Option.some.inj ((h.refs name p hp hne).symm.trans hf)

end Shape.Holds

namespace Parse

variable {g : Grammar} {src : Source} {s s' s₁ : State} {n : NodeId} {type : String}
variable {shape : Shape} {filled filled' : Bool}

/-- The nodes below a node. -/
def astBelow (ast : Array AstNode) (id : NodeId) : List NodeId :=
  (ast[id.index]?.map AstNode.children).getD []

/-- A node that can be sent: the names of its properties are free, and its
references are there and have the targets of their places. -/
def Posted (g : Grammar) (references : Array Reference) (node : AstNode) : Prop :=
  ∀ name p, (name, p) ∈ node.properties.entries → Element.freeName name = true ∧
    ∀ r ∈ p.refs, ∃ ref, references[r.index]? = some ref ∧
      g.typeGraph.referenceTarget? node.typeName name = some ref.target

/-- **The references so far are those the nodes hold**, in the same order,
and every node can be sent. -/
structure Laid (g : Grammar) (s : State) : Prop where
  slots : s.ast.toList.flatMap AstNode.heldSlots = slotsOf s.references
  posted : ∀ (i : ℕ) node, s.ast[i]? = some node → Posted g s.references node

/-- **A node that is being filled**: what it holds fills the arena behind it,
and as long as it is not filled, that is nothing. -/
structure Filling (g : Grammar) (type : String) (shape : Shape) (filled : Bool) (s : State)
    (n : NodeId) : Prop where
  laid : Laid g s
  node : s.node = some n
  own : ∃ a, s.ast[n.index]? = some a ∧ a.typeName = type ∧ shape.Holds a.properties ∧
    (filled = false → s.ast.size = n.index + 1 ∧ a.heldSlots = [])
  spans : Spans (astBelow s.ast) NodeId.mk (astBelow s.ast n) (n.index + 1) s.ast.size

/-- **What a call adds**: the tree of its product. -/
structure Adds (g : Grammar) (s : State) (p : NodeId) (s' : State) : Prop where
  laid : Laid g s'
  node : s'.node = s.node
  product : p = ⟨s.ast.size⟩
  old : ∀ i, i < s.ast.size → s'.ast[i]? = s.ast[i]?
  spans : Spans (astBelow s'.ast) NodeId.mk [p] s.ast.size s'.ast.size

/-- What calls add. -/
def AddsBy (g : Grammar) (call : Call) : Prop :=
  ∀ id index s p s', Laid g s → call id index s = .ok (some p, s') → Adds g s p s'

/-- The arenas of nodes and references, and what is being filled, are as
before. -/
structure SameAst (s s' : State) : Prop where
  ast : s'.ast = s.ast
  references : s'.references = s.references
  node : s'.node = s.node

/-! ## Steps that do not matter -/

namespace SameAst

theorem refl (s : State) : SameAst s s := ⟨rfl, rfl, rfl⟩

theorem trans {s₂ : State} (h₁ : SameAst s s₁) (h₂ : SameAst s₁ s₂) : SameAst s s₂ :=
  ⟨h₂.ast.trans h₁.ast, h₂.references.trans h₁.references, h₂.node.trans h₁.node⟩

theorem tick {u : Unit} (h : Parse.tick s = .ok (u, s')) : SameAst s s' := by
  obtain ⟨steps, interrupt, rfl⟩ := tick_ok h
  exact ⟨rfl, rfl, rfl⟩

theorem expect (s : State) (label : String) : SameAst s (s.expect src label) := by
  rw [State.expect]
  split
  · exact ⟨rfl, rfl, rfl⟩
  · split
    · exact ⟨rfl, rfl, rfl⟩
    · exact refl s

theorem pushLeaf (h : SameAst s s') (tok : Token) (source : Option ElementId) :
    SameAst s (s'.pushLeaf tok source) := ⟨h.ast, h.references, h.node⟩

theorem consume (s : State) (index : ℕ) (tok : Token) (source : Option ElementId) :
    SameAst s (s.consume src index tok source) := by
  have hhidden : SameAst s (s.attachHidden src (index - s.pos)) :=
    attachHidden_keeps (fun _ _ _ _ _ _ h => ⟨h.ast, h.references, h.node⟩)
      (fun tok h => h.pushLeaf tok none) _ (refl s)
  exact ⟨hhidden.ast, hhidden.references, hhidden.node⟩

theorem token {id : ElementId} {kind : LexemeKind} {label : String} {a : Option (CstId × Token)}
    (h : Parse.token src id kind label s = .ok (a, s')) : SameAst s s' := by
  rcases token_ok h with ⟨index, tok, -, -, rfl, -⟩ | ⟨-, rfl⟩
  · exact consume s index tok (some id)
  · exact expect s label

/-- An attempt that fails does not matter. -/
theorem attemptMatch_false {step : Step Bool}
    (hstep : ∀ s b s', step s = .ok (b, s') → Grown s s')
    (h : attemptMatch step s = .ok (false, s')) : SameAst s s' := by
  obtain ⟨_, _, _, rfl⟩ := Parse.attemptMatch_false hstep h
  exact ⟨rfl, rfl, rfl⟩

end SameAst

theorem Laid.congr (h : Laid g s) (hast : s'.ast = s.ast) (hrefs : s'.references = s.references) :
    Laid g s' :=
  ⟨by rw [hast, hrefs]; exact h.slots, by rw [hast, hrefs]; exact h.posted⟩

theorem Filling.congr (h : Filling g type shape filled s n) (hs : SameAst s s') :
    Filling g type shape filled s' n :=
  ⟨h.laid.congr hs.ast hs.references, hs.node.trans h.node, by rw [hs.ast]; exact h.own,
    by rw [hs.ast]; exact h.spans⟩

/-- A node may count as filled. -/
theorem Filling.weaken (h : Filling g type shape filled s n)
    (hle : filled = true → filled' = true) :
    Filling g type shape filled' s n := by
  obtain ⟨a, ha, htype, hholds, hbare⟩ := h.own
  refine ⟨h.laid, h.node, ⟨a, ha, htype, hholds, fun hf => hbare ?_⟩, h.spans⟩
  cases filled with
  | false => rfl
  | true => exact (hle rfl).symm.trans hf

theorem Adds.of_same (h : Adds g s₁ n s') (hs : SameAst s s₁) : Adds g s n s' := by
  obtain ⟨hlaid, hnode, hproduct, hold, hspans⟩ := h
  rw [hs.ast] at hproduct hold hspans
  exact ⟨hlaid, hnode.trans hs.node, hproduct, hold, hspans⟩

/-! ## Arenas -/

theorem flatMap_congr_getElem? {β : Type} {f : AstNode → List β} {ast ast' : Array AstNode}
    (h : ∀ i : ℕ, ast'[i]?.map f = ast[i]?.map f) :
    ast'.toList.flatMap f = ast.toList.flatMap f := by
  rw [List.flatMap_def, List.flatMap_def]
  refine congrArg List.flatten (List.ext_getElem? fun i => ?_)
  rw [List.getElem?_map, List.getElem?_map, Array.getElem?_toList, Array.getElem?_toList]
  exact h i

theorem slotsOf_push (references : Array Reference) (ref : Reference) :
    slotsOf (references.push ref) = slotsOf references ++ [(⟨references.size⟩, ref.index)] := by
  simp [slotsOf, List.zipIdx_append]

/-- What is below the nodes does not change with properties that hold the
same nodes. -/
theorem astBelow_setProperties {ast : Array AstNode} {a : AstNode} (ha : ast[n.index]? = some a)
    {properties : Properties} (hsame : properties.values.flatMap Property.children = a.children)
    (i : NodeId) : astBelow (State.setProperties ast n properties) i = astBelow ast i := by
  rw [astBelow, astBelow, State.getElem?_setProperties ha]
  split
  · next hi =>
    rw [← hi, ha]
    exact congrArg (fun below => (some below).getD []) hsame
  · rfl

theorem Posted.push {references : Array Reference} {node : AstNode} (h : Posted g references node)
    (ref : Reference) : Posted g (references.push ref) node := by
  intro name p hp
  obtain ⟨hname, hrefs⟩ := h name p hp
  refine ⟨hname, fun r hr => ?_⟩
  obtain ⟨ref', hlook, htarget⟩ := hrefs r hr
  exact ⟨ref', getElem?_push_old hlook ref, htarget⟩

/-- A property is set in a node that can be sent. -/
theorem Posted.insert {references : Array Reference} {node : AstNode}
    (h : Posted g references node) {feature : String} {q : Property}
    (hname : Element.freeName feature = true)
    (hrefs : ∀ r ∈ q.refs, ∃ ref, references[r.index]? = some ref ∧
      g.typeGraph.referenceTarget? node.typeName feature = some ref.target) :
    Posted g references { node with properties := node.properties.insert feature q } := by
  intro name p hp
  rcases OrderedMap.mem_insert hp with heq | hp
  · cases heq
    exact ⟨hname, hrefs⟩
  · exact h name p hp

/-! ## Values are stored -/

/-- The properties of the node are replaced by such that hold the same. -/
theorem Filling.replace (h : Filling g type shape filled s n) {a : AstNode}
    (ha : s.ast[n.index]? = some a) {properties : Properties} (hholds : shape.Holds properties)
    (hchildren : properties.values.flatMap Property.children = a.children)
    (hslots : properties.values.flatMap Property.slots = a.heldSlots)
    (hposted : Posted g s.references { a with properties }) :
    Filling g type shape filled
      { s with ast := State.setProperties s.ast n properties } n := by
  obtain ⟨a', ha', htype, -, hbare⟩ := h.own
  rw [ha, Option.some.injEq] at ha'
  subst ha'
  have hlook := State.getElem?_setProperties ha properties
  have hsize := State.size_setProperties s.ast n properties
  have hbelow := astBelow_setProperties ha hchildren
  refine ⟨⟨?_, ?_⟩, h.node, ⟨{ a with properties }, ?_, htype, hholds, ?_⟩, ?_⟩
  · refine (flatMap_congr_getElem? fun i => ?_).trans h.laid.slots
    rw [hlook]
    split
    · next hi =>
      rw [← hi, ha]
      exact congrArg some hslots
    · rfl
  · intro i node hnode
    rw [hlook] at hnode
    split at hnode
    · obtain rfl := Option.some.inj hnode
      exact hposted
    · exact h.laid.posted i node hnode
  · rw [hlook, if_pos rfl]
  · intro hf
    exact ⟨hsize.trans (hbare hf).1, hslots.trans (hbare hf).2⟩
  · show Spans _ _ (astBelow (State.setProperties s.ast n properties) n) (n.index + 1)
      (State.setProperties s.ast n properties).size
    rw [hbelow, hsize]
    exact h.spans.congr fun i _ _ => hbelow ⟨i⟩

theorem propertiesOf_eq {a : AstNode} (ha : s.ast[n.index]? = some a) :
    s.propertiesOf n = a.properties := by
  rw [State.propertiesOf, ha]

/-- **A scalar is stored**, where neither nodes nor references are held. -/
theorem Filling.store_scalar (h : Filling g type shape filled s n) {feature : String}
    (hname : Element.freeName feature = true) (hnodes : shape.nodes ≠ some feature)
    (hrefs : shape.refs ≠ some feature) (op : AssignOp) (value : Scalar) :
    Filling g type shape filled (s.store n feature op (.scalar value)) n := by
  obtain ⟨a, ha, -, hholds, -⟩ := h.own
  have happend : ∀ (old : Property) (value : Scalar), ∃ values,
      appendItem old (.scalar value) = .scalars values := by
    intro old value
    cases old <;> exact ⟨_, rfl⟩
  -- whatever the operator, what is put there has neither nodes nor references
  obtain ⟨q, hq, hlisted, hchildren, hqrefs⟩ : ∃ q : Property,
      (if op = .append then appendItem ((a.properties.get? feature).getD .empty)
        (.scalar (if op = .flag then .bool true else value))
      else .scalar (if op = .flag then .bool true else value)) = q ∧ (∀ c, q ≠ .node c) ∧
      q.children = [] ∧ q.refs = [] := by
    split
    · obtain ⟨values, hvalues⟩ := happend ((a.properties.get? feature).getD .empty)
        (if op = .flag then .bool true else value)
      exact ⟨_, hvalues, nofun, rfl, rfl⟩
    · exact ⟨_, rfl, nofun, rfl, rfl⟩
  simp only [State.store, State.put, propertiesOf_eq ha, hq]
  refine h.replace ha (hholds.insert hlisted ?_ ?_) ?_ ?_ ?_
  · exact fun hne => absurd hchildren hne
  · exact fun hne => absurd (Property.slots_eq_nil hqrefs) hne
  · refine OrderedMap.flatMap_values_insert ?_
    rw [hchildren, hholds.children_get?_eq_nil hnodes]
  · refine OrderedMap.flatMap_values_insert ?_
    rw [Property.slots_eq_nil hqrefs, hholds.slots_get?_eq_nil hrefs]
  · refine (h.laid.posted n.index a ha).insert hname fun r hr => ?_
    rw [hqrefs] at hr
    cases hr

theorem eq_take_concat {α : Type} {l : List α} {k : ℕ} {a : α} (hlen : l.length = k + 1)
    (ha : l[k]? = some a) : l = l.take k ++ [a] := by
  have hlt : k < l.length := by omega
  rw [List.getElem?_eq_getElem hlt, Option.some.injEq] at ha
  rw [← ha, List.take_append_getElem hlt, List.take_of_length_le (by omega)]

/-- **A reference is stored**, while nothing else is held. -/
theorem Filling.store_reference (h : Filling g type shape false s n) {feature : String}
    (hname : Element.freeName feature = true) (hrefs : shape.refs = some feature)
    (hnodes : shape.nodes ≠ some feature) {target : ReferenceTarget}
    (htarget : g.typeGraph.referenceTarget? type feature = some target) (text : String)
    (leaf : CstId) :
    Filling g type shape true (s.store n feature .set (.reference text leaf target)) n := by
  obtain ⟨a, ha, htype, hholds, hbare⟩ := h.own
  obtain ⟨hsize, hnone⟩ := hbare rfl
  let ref : Reference := ⟨n, feature, none, text, some leaf, target⟩
  let item : Property := .reference ⟨s.references.size⟩
  let ast := State.setProperties s.ast n (a.properties.insert feature item)
  have hlook : ∀ i : ℕ, ast[i]? = if n.index = i then
      some { a with properties := a.properties.insert feature item } else s.ast[i]? :=
    State.getElem?_setProperties ha _
  have hsize' : ast.size = s.ast.size := State.size_setProperties _ _ _
  have hstore : s.store n feature .set (.reference text leaf target) =
      { s with ast, references := s.references.push ref } := by
    simp only [State.store, State.put, reduceCtorEq, if_false, Array.size_push,
      Nat.add_sub_cancel]
    simp only [State.propertiesOf, ha, ast, item, ref]
  have hholds' : shape.Holds (a.properties.insert feature item) :=
    hholds.insert (by simp) (fun hne => absurd rfl hne) fun _ => hrefs
  have hchildren : (a.properties.insert feature item).values.flatMap Property.children =
      a.children := by
    refine OrderedMap.flatMap_values_insert ?_
    rw [hholds.children_get?_eq_nil hnodes]
    rfl
  have hslots : (a.properties.insert feature item).values.flatMap Property.slots =
      [(⟨s.references.size⟩, none)] := by
    rw [hholds'.flatMap_slots hrefs, OrderedMap.get?_insert_self]
    rfl
  -- what is below the node is the same, as a reference is no child
  have hbelow := astBelow_setProperties ha hchildren
  rw [hstore]
  refine ⟨⟨?_, ?_⟩, h.node, ⟨_, (hlook n.index).trans (if_pos rfl), htype, hholds', by simp⟩, ?_⟩
  · -- the node is the last one, so its reference is the last one too
    have hold := eq_take_concat (by rw [Array.length_toList, hsize]) (by rw [Array.getElem?_toList, ha])
    have hnew := eq_take_concat (l := ast.toList) (k := n.index)
      (a := { a with properties := a.properties.insert feature item })
      (by rw [Array.length_toList, hsize', hsize])
      (by rw [Array.getElem?_toList, hlook, if_pos rfl])
    have htake : ast.toList.take n.index = s.ast.toList.take n.index := by
      refine List.ext_getElem? fun i => ?_
      rw [List.getElem?_take, List.getElem?_take]
      split
      · next hi =>
        rw [Array.getElem?_toList, Array.getElem?_toList, hlook, if_neg (by omega)]
      · rfl
    have hbefore :
        (s.ast.toList.take n.index).flatMap AstNode.heldSlots = slotsOf s.references := by
      have hslots := h.laid.slots
      rw [hold, List.flatMap_append, List.flatMap_cons, hnone, List.flatMap_nil, List.append_nil,
        List.append_nil] at hslots
      exact hslots
    show ast.toList.flatMap AstNode.heldSlots = slotsOf (s.references.push ref)
    rw [hnew, List.flatMap_append, htake, hbefore, slotsOf_push, List.flatMap_cons,
      List.flatMap_nil, List.append_nil]
    exact congrArg _ hslots
  · intro i node hnode
    rw [hlook] at hnode
    split at hnode
    · obtain rfl := Option.some.inj hnode
      refine ((h.laid.posted n.index a ha).push ref).insert hname fun r hr => ?_
      obtain rfl := List.mem_singleton.mp hr
      exact ⟨ref, Array.getElem?_push_size, by rw [htype]; exact htarget⟩
    · exact (h.laid.posted i node hnode).push ref
  · show Spans _ _ (astBelow ast n) (n.index + 1) ast.size
    rw [hbelow, hsize']
    exact h.spans.congr fun i _ _ => hbelow ⟨i⟩

theorem appendItem_node {old : Property} (h : ∀ c, old ≠ .node c) (child : NodeId) :
    ∃ children, appendItem old (.node child) = .nodes children ∧
      children = old.children ++ [child] := by
  cases old with
  | node c => exact absurd rfl (h c)
  | _ => exact ⟨_, rfl, rfl⟩

/-- What is told to a node that is stored does not matter: all that changes
is a property of the node that holds it. -/
theorem store_node_ast {a : AstNode} (ha : s.ast[n.index]? = some a) {child : NodeId}
    (hne : child.index ≠ n.index) (feature : String) {q : Property}
    (hq : appendItem ((a.properties.get? feature).getD .empty) (.node child) = q) :
    ∃ ast, s.store n feature .append (.node child) = { s with ast } ∧ ast.size = s.ast.size ∧
      ast[n.index]? = some { a with properties := a.properties.insert feature q } ∧
      ∀ i : ℕ, i ≠ n.index → ast[i]?.map (fun b => (b.typeName, b.properties)) =
        s.ast[i]?.map fun b => (b.typeName, b.properties) := by
  let index := some (((a.properties.get? feature).map Property.listLength).getD 0)
  let held := State.setContainer s.ast child n feature index
  have hheld : ∀ i : ℕ, held[i]? = if child.index = i then s.ast[i]?.map fun node => { node with
      container := some n, containerProperty := some feature, containerIndex := index }
      else s.ast[i]? := by
    intro i
    simp only [held, State.setContainer, Array.getElem?_modify]
  -- the child is told its place first, and is not the node that holds it
  have hown : held[n.index]? = some a := by
    rw [hheld, if_neg hne]
    exact ha
  have hlook := State.getElem?_setProperties hown (a.properties.insert feature q)
  refine ⟨State.setProperties held n (a.properties.insert feature q), ?_, ?_, ?_, ?_⟩
  · have hput : State.propertiesOf { s with ast := held } n = a.properties := propertiesOf_eq hown
    have hstore : s.store n feature .append (.node child) =
        State.put n feature .append (.node child) { s with ast := held } := by
      simp only [State.store, propertiesOf_eq ha, if_true, held, index]
    rw [hstore, State.put]
    simp only [hput, if_true, hq]
  · exact (State.size_setProperties _ _ _).trans State.size_setContainer
  · rw [hlook, if_pos rfl]
  · intro i hi
    rw [hlook, if_neg (Ne.symm hi), hheld]
    split
    · cases s.ast[i]? <;> rfl
    · rfl

/-- **The product of a call is stored**, after what the node holds already. -/
theorem Filling.store_node (h : Filling g type shape filled s n) {child : NodeId}
    (hadds : Adds g s child s₁) {feature : String} (hname : Element.freeName feature = true)
    (hnodes : shape.nodes = some feature) (hrefs : shape.refs ≠ some feature) :
    Filling g type shape true (s₁.store n feature .append (.node child)) n := by
  obtain ⟨a, ha, htype, hholds, -⟩ := h.own
  have hn : n.index < s.ast.size := (Array.getElem?_eq_some_iff.mp ha).1
  have hchild : child.index = s.ast.size := congrArg NodeId.index hadds.product
  have ha₁ : s₁.ast[n.index]? = some a := (hadds.old n.index hn).trans ha
  -- the list of nodes gets one more at its end
  have hlisted : ∀ c, (a.properties.get? feature).getD .empty ≠ .node c := by
    rcases a.properties.getD_get?_cases feature .empty with hempty | hentry
    · simp [hempty]
    · exact hholds.listed feature _ hentry
  obtain ⟨children, hitem, hchildren⟩ := appendItem_node hlisted child
  have hholds' : shape.Holds (a.properties.insert feature (.nodes children)) :=
    hholds.insert (by simp) (fun _ => hnodes) fun hne => absurd rfl hne
  have hnew : (a.properties.insert feature (.nodes children)).values.flatMap Property.children =
      a.children ++ [child] := by
    rw [hholds'.flatMap_children hnodes, OrderedMap.get?_insert_self, Option.map_some,
      Option.getD_some, AstNode.children, hholds.flatMap_children hnodes]
    show children = _
    rw [hchildren]
    cases a.properties.get? feature <;> rfl
  have hsame : (a.properties.insert feature (.nodes children)).values.flatMap Property.slots =
      a.heldSlots := by
    refine OrderedMap.flatMap_values_insert ?_
    rw [hholds.slots_get?_eq_nil hrefs]
    rfl
  -- other nodes keep what they hold, so the spans below the child stay
  obtain ⟨ast, hstore, hsize, hown, hother⟩ := store_node_ast ha₁ (by omega) feature hitem
  have hvalues : ∀ {β : Type} (f : Property → List β) (i : ℕ), i ≠ n.index →
      ast[i]?.map (fun b => b.properties.values.flatMap f) =
        s₁.ast[i]?.map fun b => b.properties.values.flatMap f := by
    intro β f i hi
    have hmap := congrArg (Option.map fun (b : String × Properties) => b.2.values.flatMap f)
      (hother i hi)
    rw [Option.map_map, Option.map_map] at hmap
    exact hmap
  rw [hstore]
  refine ⟨⟨?_, ?_⟩, hadds.node.trans h.node, ⟨_, hown, htype, hholds', by simp⟩, ?_⟩
  · refine (flatMap_congr_getElem? fun i => ?_).trans hadds.laid.slots
    by_cases hi : i = n.index
    · rw [hi, hown, ha₁]
      exact congrArg some hsame
    · exact hvalues Property.slots i hi
  · intro i node hnode
    by_cases hi : i = n.index
    · rw [hi, hown] at hnode
      obtain rfl := Option.some.inj hnode
      exact (hadds.laid.posted n.index a ha₁).insert hname fun r hr => by cases hr
    · have hold := hother i hi
      rw [hnode, Option.map_some, eq_comm, Option.map_eq_some_iff] at hold
      obtain ⟨old, hold, heq⟩ := hold
      obtain ⟨htypes, hprops⟩ := Prod.mk.inj heq
      have hposted := hadds.laid.posted i old hold
      rw [Posted, htypes, hprops] at hposted
      exact hposted
  · have hbelow : ∀ i : ℕ, i ≠ n.index → astBelow ast ⟨i⟩ = astBelow s₁.ast ⟨i⟩ :=
      fun i hi => congrArg (·.getD []) (hvalues Property.children i hi)
    have hbelowN : astBelow ast n = astBelow s.ast n ++ [child] := by
      rw [astBelow, astBelow, hown, ha]
      exact hnew
    show Spans _ _ (astBelow ast n) (n.index + 1) ast.size
    rw [hbelowN, hsize]
    refine (h.spans.congr fun i hi hi' => ?_).append (hadds.spans.congr fun i hi _ => ?_)
    · rw [hbelow i (by omega), astBelow, astBelow, hadds.old i hi']
    · exact hbelow i (by omega)

/-! ## Elements -/

/-- What the rounds of a repetition keep. -/
theorem rounds_keeps {P : State → Prop} {once : Bool} {body : Step Bool}
    (hbody : ∀ s b s', attemptMatch body s = .ok (b, s') → P s → P s') :
    ∀ n s k s', rounds once body n s = .ok (k, s') → P s → P s' := by
  intro n
  induction n with
  | zero =>
    intro s k s' h hs
    obtain ⟨-, rfl⟩ := pure_ok h
    exact hs
  | succ n ih =>
    intro s k s' h hs
    rcases rounds_ok h with ⟨hmatch, -⟩ | ⟨s₁, hmatch, ⟨-, rfl, -⟩ | ⟨-, -, more, hrest, -⟩⟩
    · exact hbody _ _ _ hmatch hs
    · exact hbody _ _ _ hmatch hs
    · exact ih _ _ _ hrest (hbody _ _ _ hmatch hs)

/-- At most one round. -/
theorem rounds_once {body : Step Bool} {n k : ℕ} (h : rounds true body (n + 1) s = .ok (k, s')) :
    ∃ b, attemptMatch body s = .ok (b, s') := by
  rcases rounds_ok h with ⟨hmatch, -⟩ | ⟨s₁, hmatch, ⟨-, rfl, -⟩ | ⟨honce, -⟩⟩
  · exact ⟨false, hmatch⟩
  · exact ⟨true, hmatch⟩
  · cases honce

/-- **An assignment that keeps the order.** -/
theorem Filling.assign {call : Call} (hcalls : AddsBy g call) {id : ElementId} {feature : String}
    {op : AssignOp} {value : Element} (hname : Element.freeName feature = true)
    (hflow : Element.fills g.typeGraph type shape feature op value filled = some filled')
    (h : Filling g type shape filled s n)
    (hrun : element src call (.assign id feature op value) s = .ok (true, s')) :
    Filling g type shape filled' s' n := by
  obtain ⟨_, s₁, htick, hcases⟩ := element_assign_ok hrun
  have h₁ := h.congr (SameAst.tick htick)
  -- a match has stored a value in the node
  rcases hcases with ⟨-, ⟨⟩, -⟩ | ⟨node, hnode, ⟨-, ⟨⟩⟩ | ⟨v, s₂, hfound, -, rfl⟩⟩
  obtain rfl := Option.some.inj (hnode.symm.trans h₁.node)
  cases value with
  | keyword | terminal =>
    rw [Element.fills] at hflow
    split at hflow
    · next hshape =>
      obtain rfl := Option.some.inj hflow
      obtain ⟨_, s₃, _, tok, htick, htoken, hv⟩ := assigned_single_ok rfl hfound
      obtain ⟨_, -, rfl⟩ := Option.map_eq_some_iff.mp hv.symm
      have h₄ := h₁.congr ((SameAst.tick htick).trans (SameAst.token htoken))
      exact h₄.store_scalar hname hshape.1 hshape.2 op _
    · cases hflow
  | call id index =>
    rw [Element.fills] at hflow
    split at hflow
    · next hshape =>
      obtain ⟨hnodes, hrefs, rfl⟩ := hshape
      obtain rfl := Option.some.inj hflow
      obtain ⟨_, s₃, product, htick, hcall, hv⟩ := assigned_call_ok hfound
      obtain ⟨child, rfl, rfl⟩ := Option.map_eq_some_iff.mp hv.symm
      have h₃ := h₁.congr (SameAst.tick htick)
      exact h₃.store_node (hcalls id index s₃ child s₂ h₃.laid hcall) hname hnodes hrefs
    · cases hflow
  | crossRef id target index =>
    rw [Element.fills] at hflow
    split at hflow
    · next hshape =>
      obtain ⟨hrefs, hnodes, rfl, rfl, htarget⟩ := hshape
      obtain rfl := Option.some.inj hflow
      obtain ⟨_, s₃, _, tok, htick, htoken, hv⟩ := assigned_single_ok rfl hfound
      obtain ⟨⟨leaf, token⟩, -, rfl⟩ := Option.map_eq_some_iff.mp hv.symm
      have h₄ := h₁.congr ((SameAst.tick htick).trans (SameAst.token htoken))
      exact h₄.store_reference hname hrefs hnodes htarget _ _
    · cases hflow
  | assign => cases hflow
  | seq => cases hflow
  | alt => cases hflow
  | repeated => cases hflow

variable {depth : ℕ}

mutual

/-- **A match fills the node as the grammar says.** -/
theorem Filling.element (hcalls : AddsBy g (callRule src depth)) :
    ∀ (e : Element) {filled filled' : Bool}, e.freeNames = true →
      e.flow g.typeGraph type shape filled = some filled' →
      ∀ {s s' : State}, Filling g type shape filled s n →
        Parse.element src (callRule src depth) e s = .ok (true, s') →
        Filling g type shape filled' s' n
  | .keyword id text, filled, filled', _, hflow, s, s', h, hrun => by
    obtain rfl := Option.some.inj hflow
    obtain ⟨_, s₁, _, found, htick, htoken, -⟩ := element_single_ok rfl (by nofun) hrun
    exact h.congr ((SameAst.tick htick).trans (SameAst.token htoken))
  | .terminal id index, filled, filled', _, hflow, s, s', h, hrun => by
    obtain rfl := Option.some.inj hflow
    obtain ⟨_, s₁, _, found, htick, htoken, -⟩ := element_single_ok rfl (by nofun) hrun
    exact h.congr ((SameAst.tick htick).trans (SameAst.token htoken))
  | .call _ _, _, _, _, hflow, _, _, _, _ => by cases hflow
  | .crossRef _ _ _, _, _, _, hflow, _, _, _, _ => by cases hflow
  | .assign id feature op value, filled, filled', hfree, hflow, s, s', h, hrun => by
    refine h.assign hcalls ?_ hflow hrun
    simpa [Element.freeNames, Element.assignments] using hfree
  | .seq id items, filled, filled', hfree, hflow, s, s', h, hrun => by
    obtain ⟨_, s₁, htick, hrun⟩ := element_seq_ok hrun
    exact Filling.allElements hcalls items hfree hflow (h.congr (SameAst.tick htick)) hrun
  | .alt id items, filled, filled', hfree, hflow, s, s', h, hrun => by
    obtain ⟨_, s₁, htick, hrun⟩ := element_alt_ok hrun
    exact Filling.firstElement hcalls items hfree hflow (h.congr (SameAst.tick htick)) hrun
  | .repeated id cardinality body, filled, filled', hfree, hflow, s, s', h, hrun => by
    obtain ⟨_, s₁, count, htick, hrounds, -⟩ := element_repeated_ok hrun
    have h₁ := h.congr (SameAst.tick htick)
    have hgrown : ∀ s b s', Parse.element src (callRule src depth) body s = .ok (b, s') →
        Grown s s' := fun _ _ _ => Grown.element
    rw [Element.flow] at hflow
    split at hflow
    · next hopt =>
      obtain ⟨after, hbody, rfl⟩ := Option.map_eq_some_iff.mp hflow
      rw [decide_eq_true hopt] at hrounds
      obtain ⟨b, hmatch⟩ := rounds_once hrounds
      cases b with
      | false =>
        -- an attempt that was undone has filled nothing
        have h₂ := h₁.congr (SameAst.attemptMatch_false hgrown hmatch)
        exact h₂.weaken fun hf => by rw [hf]; rfl
      | true =>
        have h₂ := Filling.element hcalls body hfree hbody h₁ (attemptMatch_ok hmatch)
        exact h₂.weaken fun hf => by rw [hf, Bool.or_true]
    · -- the rounds start from what may be filled already
      obtain ⟨after, hbody, rfl⟩ := Option.map_eq_some_iff.mp hflow
      refine rounds_keeps (P := fun s => Filling g type shape true s n) ?_ _ _ _ _ hrounds
        (h₁.weaken fun _ => rfl)
      intro s b s' hmatch hs
      cases b with
      | false => exact hs.congr (SameAst.attemptMatch_false hgrown hmatch)
      | true =>
        exact (Filling.element hcalls body hfree hbody hs (attemptMatch_ok hmatch)).weaken fun _ => rfl

/-- Matches of all elements fill the node as the grammar says. -/
theorem Filling.allElements (hcalls : AddsBy g (callRule src depth)) :
    ∀ (items : List Element) {filled filled' : Bool},
      (Element.assignmentsOf items).all (fun (feature, _, _) => Element.freeName feature) = true →
      Element.flowAll g.typeGraph type shape items filled = some filled' →
      ∀ {s s' : State}, Filling g type shape filled s n →
        Parse.allElements src (callRule src depth) items s = .ok (true, s') →
        Filling g type shape filled' s' n
  | [], filled, filled', _, hflow, s, s', h, hrun => by
    obtain rfl := Option.some.inj hflow
    obtain ⟨-, rfl⟩ := pure_ok hrun
    exact h
  | item :: items, filled, filled', hfree, hflow, s, s', h, hrun => by
    rw [Element.assignmentsOf, List.all_append, Bool.and_eq_true] at hfree
    rw [Element.flowAll] at hflow
    obtain ⟨mid, hitem, hrest⟩ := Option.bind_eq_some_iff.mp hflow
    rcases allElements_cons_ok hrun with ⟨-, ⟨⟩⟩ | ⟨s₁, hmatch, hrun⟩
    have h₁ := Filling.element hcalls item hfree.1 hitem h hmatch
    exact Filling.allElements hcalls items hfree.2 hrest h₁ hrun

/-- A match of one element fills the node as the grammar says. -/
theorem Filling.firstElement (hcalls : AddsBy g (callRule src depth)) :
    ∀ (items : List Element) {filled filled' : Bool},
      (Element.assignmentsOf items).all (fun (feature, _, _) => Element.freeName feature) = true →
      Element.flowAny g.typeGraph type shape items filled = some filled' →
      ∀ {s s' : State}, Filling g type shape filled s n →
        Parse.firstElement src (callRule src depth) items s = .ok (true, s') →
        Filling g type shape filled' s' n
  | [], _, _, _, _, s, s', _, hrun => by
    exact absurd (pure_ok hrun).1 Bool.false_ne_true
  | item :: items, filled, filled', hfree, hflow, s, s', h, hrun => by
    rw [Element.assignmentsOf, List.all_append, Bool.and_eq_true] at hfree
    rw [Element.flowAny] at hflow
    obtain ⟨one, hitem, hflow⟩ := Option.bind_eq_some_iff.mp hflow
    obtain ⟨other, hrest, rfl⟩ := Option.map_eq_some_iff.mp hflow
    rcases firstElement_cons_ok hrun with ⟨hmatch, -⟩ | ⟨s₁, hmatch, hrun⟩
    · have h₁ := Filling.element hcalls item hfree.1 hitem h hmatch
      exact h₁.weaken fun hf => by rw [hf]; rfl
    · have hsame := SameAst.attemptMatch_false (fun _ _ _ => Grown.element) hmatch
      have h₁ := Filling.firstElement hcalls items hfree.2 hrest (h.congr hsame) hrun
      exact h₁.weaken fun hf => by rw [hf, Bool.or_true]

end

/-! ## Unions -/

mutual

/-- **A match of a union passes on what one call adds.** -/
theorem Adds.element (hcalls : AddsBy g (callRule src depth)) :
    ∀ (e : Element), e.relays = true → ∀ {s s' : State}, Laid g s →
      Parse.element src (callRule src depth) e s = .ok (true, s') →
      ∃ p, s'.produced = some p ∧ Adds g s p s'
  | .call id index, _, s, s', h, hrun => by
    obtain ⟨_, s₁, htick, ⟨-, ⟨⟩⟩ | ⟨p, s₂, hcall, -, rfl⟩⟩ := element_call_ok hrun
    have hsame := SameAst.tick htick
    have hadds := (hcalls id index s₁ p s₂ (h.congr hsame.ast hsame.references) hcall).of_same hsame
    exact ⟨p, rfl, hadds.laid.congr rfl rfl, hadds.node, hadds.product, hadds.old, hadds.spans⟩
  | .alt id items, hrelays, s, s', h, hrun => by
    obtain ⟨_, s₁, htick, hrun⟩ := element_alt_ok hrun
    have hsame := SameAst.tick htick
    obtain ⟨p, hp, hadds⟩ := Adds.firstElement hcalls items hrelays
      (h.congr hsame.ast hsame.references) hrun
    exact ⟨p, hp, hadds.of_same hsame⟩
  | .keyword _ _, hrelays, _, _, _, _ => by cases hrelays
  | .terminal _ _, hrelays, _, _, _, _ => by cases hrelays
  | .crossRef _ _ _, hrelays, _, _, _, _ => by cases hrelays
  | .assign _ _ _ _, hrelays, _, _, _, _ => by cases hrelays
  | .seq _ _, hrelays, _, _, _, _ => by cases hrelays
  | .repeated _ _ _, hrelays, _, _, _, _ => by cases hrelays

/-- The first alternative of a union that matches passes on what it adds. -/
theorem Adds.firstElement (hcalls : AddsBy g (callRule src depth)) :
    ∀ (items : List Element), Element.relaysAll items = true → ∀ {s s' : State}, Laid g s →
      Parse.firstElement src (callRule src depth) items s = .ok (true, s') →
      ∃ p, s'.produced = some p ∧ Adds g s p s'
  | [], _, s, s', _, hrun => by
    exact absurd (pure_ok hrun).1 Bool.false_ne_true
  | item :: items, hrelays, s, s', h, hrun => by
    rw [Element.relaysAll, Bool.and_eq_true] at hrelays
    rcases firstElement_cons_ok hrun with ⟨hmatch, -⟩ | ⟨s₁, hmatch, hrun⟩
    · exact Adds.element hcalls item hrelays.1 h hmatch
    · have hsame := SameAst.attemptMatch_false (fun _ _ _ => Grown.element) hmatch
      obtain ⟨p, hp, hadds⟩ := Adds.firstElement hcalls items hrelays.2
        (h.congr hsame.ast hsame.references) hrun
      exact ⟨p, hp, hadds.of_same hsame⟩

end

/-! ## Calls -/

/-- The features a node starts out with are those of its rule. -/
theorem newNode_names {rule : Rule} (hfree : rule.body.freeNames = true) (cst : CstId) :
    ∀ name p, (name, p) ∈ (State.newNode rule cst).properties.entries →
      Element.freeName name = true := by
  have hdefaults : ∀ e ∈ rule.body.defaults, Element.freeName e.1 = true := by
    rw [Element.freeNames, List.all_eq_true] at hfree
    rw [Element.defaults]
    refine List.foldlRecOn (motive := fun found : List (String × AssignOp) =>
      ∀ e ∈ found, Element.freeName e.1 = true)
      rule.body.assignments _ (by simp) fun found hfound a ha e he => ?_
    dsimp only at he
    split at he
    · exact hfound e he
    · rcases List.mem_append.mp he with he | he
      · exact hfound e he
      · rw [List.mem_singleton.mp he]
        exact hfree a ha
  refine newNode_induction (Q := fun properties => ∀ name p, (name, p) ∈ properties.entries →
    Element.freeName name = true) rule cst (fun _ _ hp => by cases hp) ?_
  intro properties h e he p _ name q hq
  rcases OrderedMap.mem_insert hq with heq | hq
  · cases heq
    exact hdefaults e he
  · exact h name q hq

/-- A node starts out with nothing. -/
theorem newNode_holds (rule : Rule) (cst : CstId) (shape : Shape) :
    shape.Holds (State.newNode rule cst).properties ∧ (State.newNode rule cst).children = [] ∧
      (State.newNode rule cst).heldSlots = [] := by
  obtain ⟨hkeys, hprops⟩ := newNode_properties rule cst
  refine ⟨⟨hkeys, ?_, ?_, ?_⟩, ?_, ?_⟩
  · rintro name p hp c rfl
    exact absurd (hprops name _ hp).1 (List.cons_ne_nil c [])
  · exact fun name p hp hne => absurd (hprops name p hp).1 hne
  · exact fun name p hp hne => absurd (Property.slots_eq_nil (hprops name p hp).2) hne
  · rw [AstNode.children, OrderedMap.values, List.flatMap_map, List.flatMap_eq_nil_iff]
    exact fun e he => (hprops e.1 e.2 he).1
  · rw [AstNode.heldSlots, OrderedMap.values, List.flatMap_map, List.flatMap_eq_nil_iff]
    exact fun e he => Property.slots_eq_nil (hprops e.1 e.2 he).2

/-- **A new node is filled from nothing.** -/
theorem Filling.new (h : Laid g s) {rule : Rule} (hfree : rule.body.freeNames = true) {cst : CstId}
    (hast : s'.ast = s.ast.push (State.newNode rule cst))
    (hrefs : s'.references = s.references) (hnode : s'.node = some ⟨s.ast.size⟩) :
    Filling g rule.produces shape false s' ⟨s.ast.size⟩ := by
  obtain ⟨hholds, hchildren, hslots⟩ := newNode_holds rule cst shape
  have hlast : s'.ast[s.ast.size]? = some (State.newNode rule cst) := by
    rw [hast, Array.getElem?_push_size]
  have hsize : s'.ast.size = s.ast.size + 1 := by rw [hast, Array.size_push]
  refine ⟨⟨?_, ?_⟩, hnode, ⟨_, hlast, rfl, hholds, fun _ => ⟨hsize, hslots⟩⟩, ?_⟩
  · rw [hast, hrefs, Array.toList_push, List.flatMap_append, List.flatMap_cons, hslots,
      List.flatMap_nil, List.append_nil, List.append_nil]
    exact h.slots
  · intro i node hnode
    rw [hrefs]
    rw [hast, Array.getElem?_push] at hnode
    split at hnode
    · obtain rfl := Option.some.inj hnode
      intro name p hp
      refine ⟨newNode_names hfree cst name p hp, fun r hr => ?_⟩
      rw [((newNode_properties rule cst).2 name p hp).2] at hr
      cases hr
    · exact h.posted i node hnode
  · have hbelow : astBelow s'.ast ⟨s.ast.size⟩ = [] := by
      rw [astBelow, hlast]
      exact hchildren
    rw [hbelow, hsize]
    exact Spans.nil _

/-- A node that has been filled is a tree of its own. -/
theorem Filling.spans_self (h : Filling g type shape filled s n) :
    Spans (astBelow s.ast) NodeId.mk [n] n.index s.ast.size :=
  Spans.cons h.spans (Spans.nil _)

/-- **A call adds the tree of its product**, in a grammar whose rules fill
their nodes in order. -/
theorem addsBy_callRule (horderly : g.orderly = true) (hsrc : src.grammar = g) (depth : ℕ) :
    AddsBy g (callRule src depth) := by
  induction depth using Nat.strong_induction_on with
  | _ depth ih =>
    intro id index s p s' hlaid h
    rcases callRule_ok h with ⟨hp, -⟩ | ⟨below, rule, s₁, b, rfl, hrule, hrun, hgrown, hcases⟩
    · cases hp
    have hrule' : rule.orderly g.typeGraph = true := by
      rw [hsrc] at hrule
      obtain ⟨hlt, rfl⟩ := Array.getElem?_eq_some_iff.mp hrule
      exact Array.all_eq_true.mp horderly index hlt
    have hcalls := ih below (Nat.lt_succ_self below)
    rcases hcases with ⟨node, rfl, hproduct, hp, rfl⟩ | ⟨hp, -⟩
    · obtain rfl := Option.some.inj hp
      have hold : ∀ i, i < s.ast.size → s₁.ast[i]? = s.ast[i]? := fun i hi => hgrown.ast_of_call hi
      -- it is left to show that the body has added the tree of the product
      suffices hadds : Laid g s₁ ∧ p = ⟨s.ast.size⟩ ∧
          Spans (astBelow s₁.ast) NodeId.mk [p] s.ast.size s₁.ast.size by
        obtain ⟨hlaid₁, hproduct, hspans⟩ := hadds
        exact ⟨⟨hlaid₁.slots, hlaid₁.posted⟩, rfl, hproduct, hold, hspans⟩
      cases hkind : rule.kind with
      | union =>
        have hunion : rule.isUnion = true := by rw [Rule.isUnion, hkind]; rfl
        rw [Rule.orderly, hkind] at hrule'
        rw [ownNode, if_pos hunion, Option.none_or] at hproduct
        have hast : (openCall rule id s.mark s).ast = s.ast := by
          simp only [openCall, State.linkCst, State.pushCst, hunion, if_true]
        obtain ⟨p', hp', hadds⟩ := Adds.element hcalls rule.body hrule' (hlaid.congr hast rfl) hrun
        rw [hproduct, Option.some.injEq] at hp'
        subst hp'
        rw [← hast]
        exact ⟨hadds.laid, hadds.product, hadds.spans⟩
      | node type =>
        have hunion : rule.isUnion = false := by rw [Rule.isUnion, hkind]; rfl
        rw [Rule.orderly, hkind] at hrule'
        obtain ⟨hfree, hflow⟩ := Bool.and_eq_true_iff.mp hrule'
        obtain ⟨filled, hflow⟩ := Option.isSome_iff_exists.mp hflow
        have hown : ownNode rule s.mark = some ⟨s.ast.size⟩ := by
          rw [ownNode, hunion]
          rfl
        rw [hown, Option.some_or, Option.some.injEq] at hproduct
        subst hproduct
        have hast : (openCall rule id s.mark s).ast =
            s.ast.push (State.newNode rule ⟨s.cst.size⟩) := by
          simp only [openCall, State.linkCst, State.pushCst, hunion, Bool.false_eq_true, if_false]
          rfl
        have hproduces : rule.produces = type := by rw [Rule.produces, hkind]
        have hnew : Filling g rule.produces rule.body.shape false (openCall rule id s.mark s)
          ⟨s.ast.size⟩ := Filling.new hlaid hfree hast rfl hown
        rw [hproduces] at hnew
        have hfilled := Filling.element hcalls rule.body hfree hflow hnew hrun
        exact ⟨hfilled.laid, rfl, hfilled.spans_self⟩
    · cases hp

/-! ## Whole parses -/

/-- **A parse fills the node of its entry rule in order**, if the rule can be
matched again and again. -/
theorem Filling.entry (horderly : g.orderly = true) (hsrc : src.grammar = g) {rule : Rule}
    (hsteady : rule.steady g.typeGraph = true) {interrupt : Interrupt} {u : Unit}
    (h : Parse.entry src rule (State.start src rule interrupt) = .ok (u, s)) :
    Filling g rule.produces rule.body.shape true s ⟨0⟩ := by
  cases hkind : rule.kind with
  | union =>
    rw [Rule.steady, hkind] at hsteady
    cases hsteady
  | node type =>
    rw [Rule.steady, hkind] at hsteady
    obtain ⟨hfree, hflow⟩ := Bool.and_eq_true_iff.mp hsteady
    obtain ⟨filled, hflow⟩ := Option.isSome_iff_exists.mp hflow
    have hproduces : rule.produces = type := by rw [Rule.produces, hkind]
    have hempty : Laid g { State.start src rule interrupt with ast := #[] } := ⟨rfl, nofun⟩
    have hstart : Filling g rule.produces rule.body.shape false (State.start src rule interrupt)
      ⟨0⟩ := Filling.new hempty hfree rfl rfl rfl
    have hcalls := addsBy_callRule horderly hsrc (callDepth src)
    refine entry_keeps (P := fun s => Filling g rule.produces rule.body.shape true s ⟨0⟩)
      (fun _ _ _ _ _ _ hs => hs.congr ⟨rfl, rfl, rfl⟩) (fun _ hs => hs.congr ⟨rfl, rfl, rfl⟩) ?_ h
      (hstart.weaken fun _ => rfl)
    intro s b s' hmatch hs
    cases b with
    | false => exact hs.congr (SameAst.attemptMatch_false (fun _ _ _ => Grown.element) hmatch)
    | true =>
      rw [hproduces] at hs ⊢
      exact (Filling.element hcalls rule.body hfree hflow hs (attemptMatch_ok hmatch)).weaken
        fun _ => rfl

end Parse

end Workbench
