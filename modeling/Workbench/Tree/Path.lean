import Workbench.Tree.Basic
import Workbench.Text.Decimal
import Workbench.Text.Split
/-!
# Paths

A node is addressed from the root by the properties that own it:
`/elements@1/features@0`. The root has the empty path. Reading a path is
lenient: empty segments are skipped, and an index may have a sign and
leading zeros.
-/

namespace Workbench

/-- The segment under which a node is owned. -/
def AstNode.segment (node : AstNode) : String :=
  let property := node.containerProperty.getD ""
  match node.containerIndex with
  | some index => "/" ++ property ++ "@" ++ toString index
  | none => "/" ++ property

namespace SyntaxTree

/-- The segments from the outermost of at most `n` containers to a node. -/
def segmentsTo (t : SyntaxTree) : Nat → NodeId → List String
  | 0, _ => []
  | n + 1, id =>
    match t.node? id with
    | none => []
    | some node =>
      match node.container with
      | none => []
      | some container => t.segmentsTo n container ++ [node.segment]

/-- **The path of a node.** No chain of containers is longer than the arena. -/
def pathOf (t : SyntaxTree) (id : NodeId) : String :=
  String.join (t.segmentsTo t.ast.size id)

/-- Splits characters at the first `@`. -/
def splitIndex? : List Char → Option (List Char × List Char)
  | [] => none
  | c :: cs =>
    if c = '@' then some ([], cs)
    else (splitIndex? cs).map fun (property, index) => (c :: property, index)

/-- The node a segment leads to. -/
def follow? (t : SyntaxTree) (current : NodeId) (segment : List Char) : Option NodeId :=
  match splitIndex? segment with
  | none =>
    match ((t.node? current).bind fun node => node.properties.get? (String.ofList segment)) with
    | some (.node child) => some child
    | _ => none
  | some (property, index) =>
    (Text.readUnsigned? (String.ofList index)).bind fun index =>
      match ((t.node? current).bind fun node => node.properties.get? (String.ofList property)) with
      | some (.nodes children) => children[index]?
      | _ => none

/-- **The node at a path**, if there is one. -/
def nodeAtPath? (t : SyntaxTree) (path : String) : Option NodeId :=
  ((Text.splitAt '/' path.toList).filter (!·.isEmpty)).foldlM t.follow? t.root

end SyntaxTree

end Workbench
