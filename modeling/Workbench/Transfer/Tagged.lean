import Workbench.Data
import Workbench.Transfer.Instruction
/-!
# Instructions as data

An instruction is shown as a record with one field: its name, and under it
a record of its parts. Reading such a record back asks for all parts, each
within the width it has on the wire; parts that are not known are passed
over. What is itself made of parts may be given as the list of them.
-/

namespace Workbench

namespace Transfer

/-! ## Showing -/

/-- A scalar under its kind. -/
def scalarData : Scalar → Data
  | .bool b => .record [("Bool", .bool b)]
  | .int i => .record [("Int", .int i)]
  | .str s => .record [("Str", .str s)]

/-- A node under its kind. -/
def targetData : Target → Data
  | .cst id => .record [("Cst", .nat id.index)]
  | .ast id => .record [("Ast", .nat id.index)]

/-- A position. -/
def positionData (p : Position) : Data :=
  .record [("line", .nat p.line), ("character", .nat p.character)]

/-- A range. -/
def rangeData (r : Range) : Data :=
  .record [("start", positionData r.start), ("end", positionData r.stop)]

/-- The parts of a reference. -/
def sentFields (r : SentReference) : List (String × Data) :=
  [("ref_text", .str r.refText),
   ("ref_node", match r.refNode with
     | some id => .nat id.index
     | none => .null)]

/-- The name of an error's origin. -/
def ErrorKind.render : ErrorKind → String
  | lexer => "Lexer"
  | parser => "Parser"

/-- The parts of an instruction. -/
def Instruction.fields : Instruction → List (String × Data)
  | .allocate cst ast => [("cst", .nat cst), ("ast", .nat ast)]
  | .property target feature value =>
    [("target", targetData target), ("property", .str feature), ("value", scalarData value)]
  | .propertyArray node feature values =>
    [("node", .nat node.index), ("property", .str feature),
     ("values", .list (values.map scalarData))]
  | .reference node feature ref =>
    [("node", .nat node.index), ("property", .str feature)] ++ sentFields ref
  | .referenceArray node feature refs =>
    [("node", .nat node.index), ("property", .str feature),
     ("references", .list (refs.map fun r => .record (sentFields r)))]
  | .linkNode source feature target =>
    [("from", targetData source), ("property", .str feature), ("to", targetData target)]
  | .linkNodeArray node feature children =>
    [("node", .nat node.index), ("property", .str feature),
     ("children", .list (children.map fun id => .nat id.index))]
  | .empty node feature => [("node", .nat node.index), ("property", .str feature)]
  | .rootCstNode id text => [("id", .nat id.index), ("text", .str text)]
  | .compositeCstNode id => [("id", .nat id.index)]
  | .leafCstNode id tokenType offset length range =>
    [("id", .nat id.index), ("token_type", .str tokenType), ("offset", .nat offset),
     ("length", .nat length), ("range", rangeData range)]
  | .popCstNode => []
  | .error kind e =>
    [("kind", .str kind.render),
     ("error", .record [("message", .str e.message), ("offset", .nat e.offset),
       ("length", .nat e.length), ("range", rangeData e.range)])]
  | .returnRoot root => [("root", .nat root.index)]

/-- **An instruction as data.** One without parts is its name. -/
def Instruction.toData : Instruction → Data
  | popCstNode => .str popCstNode.name
  | i => .record [(i.name, .record i.fields)]

/-! ## Reading -/

/-- A number of 32 bits under a name. -/
def word? (d : Data) (name : String) : Option Nat :=
  (d.field? name).bind (Data.natBelow? UInt32.size)

/-- A number of 64 bits under a name. -/
def wide? (d : Data) (name : String) : Option Nat :=
  (d.field? name).bind (Data.natBelow? UInt64.size)

/-- A text under a name. -/
def text? (d : Data) (name : String) : Option String := (d.field? name).bind Data.str?

/-- Reads a scalar. -/
def readScalar? (d : Data) : Option Scalar :=
  match d.only? with
  | some ("Bool", .bool b) => some (.bool b)
  | some ("Int", v) => v.int?.map .int
  | some ("Str", .str s) => some (.str s)
  | _ => none

/-- Reads a node. -/
def readTarget? (d : Data) : Option Target :=
  match d.only? with
  | some ("Cst", v) => (v.natBelow? UInt32.size).map fun n => .cst ⟨n⟩
  | some ("Ast", v) => (v.natBelow? UInt32.size).map fun n => .ast ⟨n⟩
  | _ => none

/-- Reads a position. -/
def readPosition? (d : Data) : Option Position := do
  let d := d.asRecord ["line", "character"]
  return ⟨← word? d "line", ← word? d "character"⟩

/-- Reads a range. -/
def readRange? (d : Data) : Option Range := do
  let d := d.asRecord ["start", "end"]
  return ⟨← (d.field? "start").bind readPosition?, ← (d.field? "end").bind readPosition?⟩

/-- Reads the parts of a reference. -/
def readSent? (d : Data) : Option SentReference := do
  let refNode ← Data.optional? (Data.natBelow? UInt32.size) (d.field? "ref_node")
  return ⟨← text? d "ref_text", refNode.map CstId.mk⟩

/-- Reads a reference of its own. -/
def readReference? (d : Data) : Option SentReference :=
  readSent? (d.asRecord ["ref_text", "ref_node"])

/-- Reads an error. -/
def readError? (d : Data) : Option SyntaxError := do
  let d := d.asRecord ["message", "offset", "length", "range"]
  return ⟨← text? d "message", ← wide? d "offset", ← wide? d "length",
    ← (d.field? "range").bind readRange?⟩

/-- Reads where an error came from. -/
def readErrorKind? (d : Data) : Option ErrorKind :=
  match (d.field? "kind").bind Data.bareName? with
  | some "Lexer" => some .lexer
  | some "Parser" => some .parser
  | _ => none

/-- Reads an instruction by its name and its parts. -/
def Instruction.ofFields? (name : String) (d : Data) : Option Instruction := do
  let node : Option NodeId := (word? d "node").map NodeId.mk
  let id : Option CstId := (word? d "id").map CstId.mk
  let property := text? d "property"
  match name with
  | "Allocate" => return .allocate (← word? d "cst") (← word? d "ast")
  | "Property" =>
    return .property (← (d.field? "target").bind readTarget?) (← property)
      (← (d.field? "value").bind readScalar?)
  | "PropertyArray" =>
    return .propertyArray (← node) (← property)
      (← (d.field? "values").bind (Data.list? readScalar?))
  | "Reference" => return .reference (← node) (← property) (← readSent? d)
  | "ReferenceArray" =>
    return .referenceArray (← node) (← property)
      (← (d.field? "references").bind (Data.list? readReference?))
  | "LinkNode" =>
    return .linkNode (← (d.field? "from").bind readTarget?) (← property)
      (← (d.field? "to").bind readTarget?)
  | "LinkNodeArray" =>
    let children ← (d.field? "children").bind (Data.list? (Data.natBelow? UInt32.size))
    return .linkNodeArray (← node) (← property) (children.map NodeId.mk)
  | "Empty" => return .empty (← node) (← property)
  | "RootCstNode" => return .rootCstNode (← id) (← text? d "text")
  | "CompositeCstNode" => return .compositeCstNode (← id)
  | "LeafCstNode" =>
    return .leafCstNode (← id) (← text? d "token_type") (← wide? d "offset") (← wide? d "length")
      (← (d.field? "range").bind readRange?)
  | "Error" => return .error (← readErrorKind? d) (← (d.field? "error").bind readError?)
  | "Return" => return .returnRoot ⟨← word? d "root"⟩
  | _ => none

/-- **Reads an instruction**, if the data is one. -/
def Instruction.ofData? (d : Data) : Option Instruction :=
  match d.only? with
  | some (name, .record parts) => ofFields? name (.record parts)
  | _ => if d.bareName? = some popCstNode.name then some popCstNode else none

end Transfer

end Workbench
