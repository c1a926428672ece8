import Workbench.Lexeme
import Workbench.Interrupt
import Workbench.Text.Decimal
/-!
# The state of a parse

While a text is parsed the arenas grow with every match. An attempt that
fails is undone by going back to a mark: the arenas are cut to their former
sizes, and the children of the composite and the properties of the node
that were being filled are put back. What was expected at the furthest
failure survives, as it is what errors report.
-/

namespace Workbench

namespace Parse

/-- Why a parse has no result. -/
inductive Abort where
  | cancelled
  /-- The entry is no rule that makes nodes. -/
  | invalidEntry (name : String)
  /-- The parse would never end: a rule calls itself, or a token is matched,
  without any text being passed. -/
  | endless
deriving DecidableEq, Repr, Inhabited

/-- The text of an aborted parse. -/
def Abort.message : Abort → String
  | cancelled => cancelledMessage
  | invalidEntry name => "'" ++ name ++ "' is not a node-producing rule of this grammar"
  | endless => "parse does not end"

/-- What is parsed: a grammar, a text and its tokens. -/
structure Source where
  grammar : Grammar
  text : String
  chars : List Char
  tokens : Array Token
deriving Repr, Inhabited

/-- The furthest place where an attempt failed, and what was expected there. -/
structure Furthest where
  pos : Nat
  expected : List String
deriving DecidableEq, Repr, Inhabited

/-- The state of a parse. -/
structure State where
  /-- The next token, hidden or not. -/
  pos : Nat
  ast : Array AstNode
  cst : Array CstNode
  references : Array Reference
  /-- The composite that receives concrete nodes. -/
  composite : CstId
  /-- The node that receives assignments. -/
  node : Option NodeId
  /-- The node an unassigned call produced. -/
  produced : Option NodeId
  furthest : Furthest
  /-- Elements interpreted so far. -/
  steps : Nat
  interrupt : Interrupt
  errors : List SyntaxError
deriving DecidableEq, Repr, Inhabited

/-- A step of a parse: it changes the state, or gives up. -/
abbrev Step := StateT State (Except Abort)

/-- How many elements are interpreted between two checks. -/
def checkInterval : Nat := 64

/-! ## Interrupts -/

/-- Asks whether to go on. -/
def check : Step Unit := fun s =>
  match s.interrupt.check with
  | some interrupt => .ok ((), { s with interrupt })
  | none => .error .cancelled

/-- Counts an interpreted element, and asks whether to go on at every
`checkInterval`-th one. -/
def tick : Step Unit := fun s =>
  let s := { s with steps := s.steps + 1 }
  if s.steps % checkInterval = 0 then check s else .ok ((), s)

/-! ## Going back -/

/-- A state to go back to. -/
structure Mark where
  pos : Nat
  ast : Nat
  cst : Nat
  references : Nat
  composite : CstId
  children : Nat
  node : Option (NodeId × Properties)
  produced : Option NodeId
deriving DecidableEq, Repr, Inhabited

namespace State

/-- The children of the current composite. -/
def children (s : State) : Array CstId :=
  match s.cst[s.composite.index]? with
  | some node => node.kind.children
  | none => #[]

/-- The properties of a node. -/
def propertiesOf (s : State) (id : NodeId) : Properties :=
  match s.ast[id.index]? with
  | some node => node.properties
  | none => .empty

/-- The mark of a state. -/
def mark (s : State) : Mark :=
  { pos := s.pos
    ast := s.ast.size
    cst := s.cst.size
    references := s.references.size
    composite := s.composite
    children := s.children.size
    node := s.node.map fun id => (id, s.propertiesOf id)
    produced := s.produced }

/-- **Goes back to a mark.** -/
def restore (s : State) (m : Mark) : State :=
  let cst := (s.cst.shrink m.cst).modify m.composite.index fun node =>
    { node with kind := node.kind.mapChildren (·.shrink m.children) }
  let ast := s.ast.shrink m.ast
  let ast := match m.node with
    | some (id, properties) => ast.modify id.index fun node => { node with properties }
    | none => ast
  { s with
    pos := m.pos
    ast
    cst
    references := s.references.shrink m.references
    produced := m.produced }

/-! ## Tokens -/

/-- The first index from `i` on of a token that is not hidden, among `n`. -/
def significantFrom (tokens : Array Token) : Nat → Nat → Option Nat
  | 0, _ => none
  | n + 1, i =>
    match tokens[i]? with
    | none => none
    | some token => if token.hidden then significantFrom tokens n (i + 1) else some i

/-- The next token that is not hidden. -/
def nextSignificant (src : Source) (s : State) : Option Nat :=
  significantFrom src.tokens (src.tokens.size - s.pos) s.pos

/-- Records what was expected at the next token. -/
def expect (src : Source) (what : String) (s : State) : State :=
  let place := (s.nextSignificant src).getD src.tokens.size
  if s.furthest.pos < place then { s with furthest := ⟨place, [what]⟩ }
  else if place = s.furthest.pos ∧ !s.furthest.expected.contains what then
    { s with furthest := ⟨s.furthest.pos, s.furthest.expected ++ [what]⟩ }
  else s

/-! ## Growing the tree -/

/-- The handle the next concrete node gets. -/
def nextCst (s : State) : CstId := ⟨s.cst.size⟩

/-- Adds a node with the handle `id` as the last child of another. -/
@[noinline] def addChild (cst : Array CstNode) (parent id : CstId) (child : CstNode) :
    Array CstNode :=
  (cst.push child).modify parent.index fun node =>
    { node with kind := node.kind.mapChildren (·.push id) }

/-- Adds a concrete node to the current composite. -/
def pushCst (kind : CstKind) (source : Option ElementId) (hidden : Bool) (s : State) : State :=
  { s with
    cst := addChild s.cst s.composite s.nextCst
      ⟨kind, some s.composite, ⟨0⟩, s.node, source, hidden⟩ }

/-- Adds the leaf of a token. -/
def pushLeaf (token : Token) (source : Option ElementId) (s : State) : State :=
  s.pushCst (.leaf token.label token.offset token.length token.range) source token.hidden

/-- Passes `n` tokens, adding leaves for those that are hidden. -/
def attachHidden (src : Source) : Nat → State → State
  | 0, s => s
  | n + 1, s =>
    match src.tokens[s.pos]? with
    | none => s
    | some token =>
      let s := if token.hidden then s.pushLeaf token none else s
      attachHidden src n { s with pos := s.pos + 1 }

/-- Consumes the token at `index`, with the hidden tokens before it. -/
def consume (src : Source) (index : Nat) (token : Token) (source : Option ElementId) (s : State) :
    State :=
  let s := s.attachHidden src (index - s.pos)
  { s.pushLeaf token source with pos := index + 1 }

/-- A new node with the features its rule starts out with. -/
def newNode (rule : Rule) (cst : CstId) : AstNode :=
  let properties := rule.body.defaults.foldl (fun (properties : Properties) (feature, op) =>
    properties.insert feature (if op = .flag then .scalar (.bool false) else .empty)) .empty
  { AstNode.ofType rule.produces with cstNode := some cst, properties }

/-- Links a concrete node to a node. -/
def linkCst (id : CstId) (node : Option NodeId) (s : State) : State :=
  { s with cst := s.cst.modify id.index fun cst => { cst with astNode := node } }

end State

/-! ## Assigned values -/

/-- A value on its way into a feature. -/
inductive Assigned where
  | scalar (value : Scalar)
  | node (child : NodeId)
  | reference (text : String) (leaf : CstId) (target : ReferenceTarget)
deriving DecidableEq, Repr, Inhabited

/-- A property with one more item at its end. A property of another kind
gives way to a list of the item alone. -/
def appendItem : Property → Property → Property
  | .scalars values, .scalar value => .scalars (values ++ [value])
  | .nodes children, .node child => .nodes (children ++ [child])
  | .references refs, .reference ref => .references (refs ++ [ref])
  | _, .scalar value => .scalars [value]
  | _, .node child => .nodes [child]
  | _, .reference ref => .references [ref]
  | _, other => other

/-- The value of a terminal's text. -/
def convert (value : TerminalValue) (text : String) : Scalar :=
  match value with
  | .text => .str text
  | .int => match Text.readSigned? text with
    | some i => .int i
    | none => .str text
  | .quoted => .str (String.ofList text.toList.tail.dropLast)

namespace State

/-- Replaces the properties of a node. -/
@[noinline] def setProperties (ast : Array AstNode) (id : NodeId) (properties : Properties) :
    Array AstNode :=
  ast.modify id.index fun node => { node with properties }

/-- Tells a node where it is held. -/
@[noinline] def setContainer (ast : Array AstNode) (child container : NodeId) (feature : String)
    (index : Option Nat) : Array AstNode :=
  ast.modify child.index fun node =>
    { node with
      container := some container
      containerProperty := some feature
      containerIndex := index }

/-- Puts an item under a feature of a node. -/
def put (id : NodeId) (feature : String) (op : AssignOp) (item : Property) (s : State) : State :=
  let properties := s.propertiesOf id
  let property :=
    if op = .append then appendItem ((properties.get? feature).getD .empty) item else item
  { s with ast := setProperties s.ast id (properties.insert feature property) }

/-- **Stores a value** under a feature of a node. -/
def store (id : NodeId) (feature : String) (op : AssignOp) (value : Assigned) (s : State) : State :=
  let current := (s.propertiesOf id).get? feature
  let index := if op = .append then some ((current.map Property.listLength).getD 0) else none
  match value with
  | .scalar value => s.put id feature op (.scalar (if op = .flag then .bool true else value))
  | .node child =>
    let s := { s with ast := setContainer s.ast child id feature index }
    s.put id feature op (.node child)
  | .reference text leaf target =>
    let ref := ⟨id, feature, index, text, some leaf, target⟩
    let s := { s with references := s.references.push ref }
    s.put id feature op (.reference ⟨s.references.size - 1⟩)

end State

end Parse

end Workbench
