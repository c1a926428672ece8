import Workbench.OrderedMap
import Workbench.Text.Position
import Workbench.Text.Quoted
import Workbench.Grammar.Basic
/-!
# Syntax trees

A parsed text is held in three arenas: the abstract nodes with their typed
properties, the concrete nodes that cover the tokens, and the references.
Entries refer to one another by handle. An abstract node owns the nodes its
properties hold; a concrete node owns its children; every other link only
points.
-/

namespace Workbench

/-- The handle of an abstract node. -/
structure NodeId where
  index : Nat
deriving DecidableEq, Repr, Inhabited

/-- The handle of a concrete node. -/
structure CstId where
  index : Nat
deriving DecidableEq, Repr, Inhabited

/-- The handle of a reference. -/
structure RefId where
  index : Nat
deriving DecidableEq, Repr, Inhabited

/-- Abstract nodes are shown as `ast#n`. -/
def NodeId.render (id : NodeId) : String := "ast#" ++ toString id.index

/-- Concrete nodes are shown as `cst#n`. -/
def CstId.render (id : CstId) : String := "cst#" ++ toString id.index

/-- References are shown as `ref#n`. -/
def RefId.render (id : RefId) : String := "ref#" ++ toString id.index

/-- A value without structure. -/
inductive Scalar where
  | bool (b : Bool)
  | int (i : Int)
  | str (s : String)
deriving DecidableEq, Repr, Inhabited

/-- How a scalar is shown; strings are quoted. -/
def Scalar.render : Scalar → String
  | bool b => if b then "true" else "false"
  | int i => toString i
  | str s => Text.quote s

/-- The value of one property. -/
inductive Property where
  | scalar (value : Scalar)
  | scalars (values : List Scalar)
  /-- An owned node. -/
  | node (child : NodeId)
  /-- Owned nodes, in source order. -/
  | nodes (children : List NodeId)
  | reference (ref : RefId)
  | references (refs : List RefId)
  /-- A list without items. -/
  | empty
deriving DecidableEq, Repr, Inhabited

namespace Property

/-- The nodes a property owns. -/
def children : Property → List NodeId
  | node child => [child]
  | nodes children => children
  | _ => []

/-- The references a property holds. -/
def refs : Property → List RefId
  | reference ref => [ref]
  | references refs => refs
  | _ => []

/-- The number of items of a list. -/
def listLength : Property → Nat
  | scalars values => values.length
  | nodes children => children.length
  | references refs => refs.length
  | _ => 0

end Property

/-- The properties of a node, in the order they were first set. -/
abbrev Properties := OrderedMap String Property

/-- A typed node. -/
structure AstNode where
  typeName : String
  container : Option NodeId
  containerProperty : Option String
  /-- The place within a list-valued property. -/
  containerIndex : Option Nat
  cstNode : Option CstId
  properties : Properties
deriving DecidableEq, Repr, Inhabited

namespace AstNode

/-- A node that stands alone. -/
def ofType (typeName : String) : AstNode := ⟨typeName, none, none, none, none, .empty⟩

/-- The text under a property. -/
def str? (node : AstNode) (name : String) : Option String :=
  match node.properties.get? name with
  | some (.scalar (.str s)) => some s
  | _ => none

/-- The truth value under a property. -/
def bool? (node : AstNode) (name : String) : Option Bool :=
  match node.properties.get? name with
  | some (.scalar (.bool b)) => some b
  | _ => none

/-- The nodes owned under a property. -/
def nodes (node : AstNode) (name : String) : List NodeId :=
  ((node.properties.get? name).map Property.children).getD []

/-- The references held under a property. -/
def refs (node : AstNode) (name : String) : List RefId :=
  ((node.properties.get? name).map Property.refs).getD []

/-- **The nodes a node owns**, in property order. -/
def children (node : AstNode) : List NodeId := node.properties.values.flatMap Property.children

end AstNode

/-- What a concrete node is. -/
inductive CstKind where
  | leaf (tokenType : String) (offset length : Nat) (range : Range)
  | composite (children : Array CstId)
  /-- The root, which holds the whole text. -/
  | root (text : String) (children : Array CstId)
deriving DecidableEq, Repr, Inhabited

namespace CstKind

/-- The children of a concrete node. -/
def children : CstKind → Array CstId
  | leaf _ _ _ _ => #[]
  | composite children => children
  | root _ children => children

/-- Changes the children; a leaf has none to change. -/
def mapChildren (f : Array CstId → Array CstId) : CstKind → CstKind
  | leaf tokenType offset length range => leaf tokenType offset length range
  | composite children => composite (f children)
  | root text children => root text (f children)

/-- Whether a concrete node is a leaf. -/
def isLeaf : CstKind → Bool
  | leaf _ _ _ _ => true
  | _ => false

end CstKind

/-- A concrete node. -/
structure CstNode where
  kind : CstKind
  container : Option CstId
  root : CstId
  astNode : Option NodeId
  /-- The element that produced the node; absent for hidden and for skipped
  tokens. -/
  source : Option ElementId
  hidden : Bool
deriving DecidableEq, Repr, Inhabited

namespace CstNode

/-- The children of a concrete node. -/
def children (node : CstNode) : List CstId := node.kind.children.toList

/-- Whether a concrete node is a leaf. -/
def isLeaf (node : CstNode) : Bool := node.kind.isLeaf

end CstNode

/-- A name in the text that stands for another node. -/
structure Reference where
  container : NodeId
  property : String
  index : Option Nat
  refText : String
  refNode : Option CstId
  target : ReferenceTarget
deriving DecidableEq, Repr, Inhabited

/-- An error of reading a text. -/
structure SyntaxError where
  message : String
  offset : Nat
  length : Nat
  range : Range
deriving DecidableEq, Repr, Inhabited

/-- **A syntax tree**: three arenas and the two roots. -/
structure SyntaxTree where
  ast : Array AstNode
  cst : Array CstNode
  references : Array Reference
  root : NodeId
  cstRoot : CstId
deriving DecidableEq, Repr, Inhabited

/-- The outcome of parsing a text: errors are part of it. -/
structure ParseResult where
  tree : SyntaxTree
  lexerErrors : List SyntaxError
  parserErrors : List SyntaxError
deriving DecidableEq, Repr, Inhabited

/-- Whether reading the text met an error. -/
def ParseResult.hasErrors (r : ParseResult) : Bool :=
  !r.lexerErrors.isEmpty || !r.parserErrors.isEmpty

namespace SyntaxTree

/-- The abstract node of a handle. -/
def node? (t : SyntaxTree) (id : NodeId) : Option AstNode := t.ast[id.index]?

/-- The concrete node of a handle. -/
def cst? (t : SyntaxTree) (id : CstId) : Option CstNode := t.cst[id.index]?

/-- The reference of a handle. -/
def reference? (t : SyntaxTree) (id : RefId) : Option Reference := t.references[id.index]?

/-- The nodes a node owns. -/
def childrenOf (t : SyntaxTree) (id : NodeId) : List NodeId :=
  ((t.node? id).map AstNode.children).getD []

/-- The children of a concrete node. -/
def cstChildrenOf (t : SyntaxTree) (id : CstId) : List CstId :=
  ((t.cst? id).map CstNode.children).getD []

/-- The source text, which the concrete root holds. -/
def text (t : SyntaxTree) : String :=
  match t.cst? t.cstRoot with
  | some ⟨.root text _, _, _, _, _, _⟩ => text
  | _ => ""

/-- The name of a node: the text of its `name`. -/
def name? (t : SyntaxTree) (id : NodeId) : Option String :=
  (t.node? id).bind fun node => node.str? "name"

/-- The type of a node. -/
def typeOf (t : SyntaxTree) (id : NodeId) : String :=
  ((t.node? id).map AstNode.typeName).getD ""

/-- The nodes owned below a node down to a depth, in preorder. -/
def preorderTo (t : SyntaxTree) : Nat → NodeId → List NodeId
  | 0, id => [id]
  | depth + 1, id => id :: (t.childrenOf id).flatMap (t.preorderTo depth)

/-- **The nodes owned below a node, in preorder.** No path of ownership is
longer than the arena. -/
def preorderFrom (t : SyntaxTree) (id : NodeId) : List NodeId := t.preorderTo t.ast.size id

/-- The nodes reachable from the root, in preorder. -/
def preorder (t : SyntaxTree) : List NodeId := t.preorderFrom t.root

/-- The concrete nodes below a node down to a depth, in preorder. -/
def cstPreorderTo (t : SyntaxTree) : Nat → CstId → List CstId
  | 0, id => [id]
  | depth + 1, id => id :: (t.cstChildrenOf id).flatMap (t.cstPreorderTo depth)

/-- The concrete nodes reachable from the root, in preorder. -/
def cstPreorder (t : SyntaxTree) : List CstId := t.cstPreorderTo t.cst.size t.cstRoot

end SyntaxTree

end Workbench
