import Workbench.Tree.Basic
/-!
# Instructions

A parse result travels as a sequence of instructions that rebuild it. Nodes
are addressed by number only; abstract and concrete nodes are numbered
apart, each in preorder from zero. A sequence opens with the sizes of both
arenas and closes with the root.
-/

namespace Workbench

namespace Transfer

/-- The node an instruction speaks of. -/
inductive Target where
  | cst (id : CstId)
  | ast (id : NodeId)
deriving DecidableEq, Repr, Inhabited

/-- How a node is named in errors. -/
def Target.render : Target → String
  | cst id => id.render
  | ast id => id.render

/-- Where an error came from. -/
inductive ErrorKind where
  | lexer
  | parser
deriving DecidableEq, Repr, Inhabited

/-- A reference on its way; its target follows from its place. -/
structure SentReference where
  refText : String
  refNode : Option CstId
deriving DecidableEq, Repr, Inhabited

/-- One step of rebuilding a parse result. -/
inductive Instruction where
  /-- The sizes of both arenas; always first. -/
  | allocate (cst ast : Nat)
  /-- Sets a scalar property. -/
  | property (target : Target) (property : String) (value : Scalar)
  /-- Sets a list of scalars. -/
  | propertyArray (node : NodeId) (property : String) (values : List Scalar)
  /-- Sets a single reference. -/
  | reference (node : NodeId) (property : String) (ref : SentReference)
  /-- Sets a list of references. -/
  | referenceArray (node : NodeId) (property : String) (refs : List SentReference)
  /-- Links two nodes; between abstract nodes the link is ownership. -/
  | linkNode (source : Target) (property : String) (target : Target)
  /-- Sets a list of owned nodes. -/
  | linkNodeArray (node : NodeId) (property : String) (children : List NodeId)
  /-- Sets a list without items. -/
  | empty (node : NodeId) (property : String)
  /-- Opens the concrete root, which holds the text. -/
  | rootCstNode (id : CstId) (text : String)
  /-- Opens a composite inside the innermost open node. -/
  | compositeCstNode (id : CstId)
  /-- Adds a leaf to the innermost open node. -/
  | leafCstNode (id : CstId) (tokenType : String) (offset length : Nat) (range : Range)
  /-- Closes the innermost open node. -/
  | popCstNode
  /-- An error of reading the text. -/
  | error (kind : ErrorKind) (error : SyntaxError)
  /-- The root; always last. -/
  | returnRoot (root : NodeId)
deriving DecidableEq, Repr, Inhabited

namespace Instruction

/-- The name of an instruction. -/
def name : Instruction → String
  | allocate _ _ => "Allocate"
  | property _ _ _ => "Property"
  | propertyArray _ _ _ => "PropertyArray"
  | reference _ _ _ => "Reference"
  | referenceArray _ _ _ => "ReferenceArray"
  | linkNode _ _ _ => "LinkNode"
  | linkNodeArray _ _ _ => "LinkNodeArray"
  | empty _ _ => "Empty"
  | rootCstNode _ _ => "RootCstNode"
  | compositeCstNode _ => "CompositeCstNode"
  | leafCstNode _ _ _ _ _ => "LeafCstNode"
  | popCstNode => "PopCstNode"
  | error _ _ => "Error"
  | returnRoot _ => "Return"

end Instruction

/-! ## Names of built-in properties -/

/-- Whether a concrete node is hidden. -/
def hiddenProperty : String := "hidden"

/-- The number of the element that produced a concrete node. -/
def sourceProperty : String := "grammarSource"

/-- The link from a concrete node to its abstract node. -/
def astNodeProperty : String := "astNode"

/-- The type of a node. -/
def typeProperty : String := "$type"

/-- The property a node is owned under. -/
def containerPropertyProperty : String := "$containerProperty"

/-- The place of a node in the list that owns it. -/
def containerIndexProperty : String := "$containerIndex"

/-- The link from a node to its concrete node. -/
def cstNodeProperty : String := "$cstNode"

end Transfer

end Workbench
