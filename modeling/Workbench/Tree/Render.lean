import Workbench.Tree.Path
import Workbench.Tree.Span
/-!
# Rendering trees

Trees are shown one node or property per line, indented by depth. The text
does not depend on handles: two trees of the same structure are shown alike
however their arenas are ordered. A link that does not lead back to where
the node was reached from is flagged.
-/

namespace Workbench

namespace SyntaxTree

/-- The blanks before a line at a depth. -/
def indent (depth : Nat) : String := String.ofList (List.replicate (2 * depth) ' ')

/-- The span of an optional concrete node, as a suffix. -/
def spanSuffix (t : SyntaxTree) (id : Option CstId) : String :=
  match id.bind t.cstSpan? with
  | some (start, stop) => " @" ++ toString start ++ ".." ++ toString stop
  | none => ""

/-- The flag of a broken link to the container. -/
def containerFlag (ok : Bool) : String := if ok then "" else " (!container)"

/-- The line of a reference. -/
def referenceLine (t : SyntaxTree) (depth : Nat) (label : String) (id : RefId) : String :=
  match t.reference? id with
  | none => ""
  | some ref =>
    indent depth ++ label ++ (if ref.target.multi then " ->> " else " -> ") ++
      ref.target.typeName ++
      ":'" ++ ref.refText ++ "'" ++ t.spanSuffix ref.refNode

/-- The label under which a node is owned. -/
def ownerLabel (node : AstNode) : String :=
  match node.containerProperty, node.containerIndex with
  | some property, some index => property ++ "[" ++ toString index ++ "]: "
  | some property, none => property ++ ": "
  | none, _ => ""

/-- The lines of one property at the depth of its node, given the lines of
owned nodes. -/
def propertyLines (t : SyntaxTree) (depth : Nat) (below : NodeId → List String) (name : String) :
    Property → List String
  | .scalar value => [indent (depth + 1) ++ name ++ " = " ++ value.render]
  | .scalars values =>
    [indent (depth + 1) ++ name ++ " = [" ++ ", ".intercalate (values.map Scalar.render) ++ "]"]
  | .empty => [indent (depth + 1) ++ name ++ " = []"]
  | .node child => below child
  | .nodes children => children.flatMap below
  | .reference ref => [t.referenceLine (depth + 1) name ref]
  | .references refs =>
    refs.zipIdx.map fun (ref, index) =>
      t.referenceLine (depth + 1) (name ++ "[" ++ toString index ++ "]") ref

/-- The lines of a node reached from `parent`, down to a number of levels. -/
def nodeLines (t : SyntaxTree) : Nat → Option NodeId → Nat → NodeId → List String
  | 0, _, _, _ => []
  | levels + 1, parent, depth, id =>
    match t.node? id with
    | none => []
    | some node =>
      (indent depth ++ ownerLabel node ++ node.typeName ++ t.spanSuffix node.cstNode ++
          containerFlag (node.container == parent)) ::
        node.properties.entries.flatMap fun (name, property) =>
          t.propertyLines depth (t.nodeLines levels (some id) (depth + 1)) name property

/-- Each line with its line break. -/
def unlines (lines : List String) : String := String.join (lines.map (· ++ "\n"))

/-- **The abstract tree as text.** -/
def render (t : SyntaxTree) : String := unlines (t.nodeLines (t.ast.size + 1) none 0 t.root)

/-- The line of a concrete node reached from `parent`. -/
def cstLine (t : SyntaxTree) (parent : Option CstId) (depth : Nat) (id : CstId) (node : CstNode) :
    String :=
  let source := match node.source with
    | some source => source.render
    | none => "-"
  let ast := match node.astNode with
    | some ast => " ast=" ++ t.pathOf ast
    | none => ""
  let flags := containerFlag (node.container == parent) ++
    if node.root == t.cstRoot then "" else " (!root)"
  let what := match node.kind with
    | .leaf tokenType offset length _ =>
      "leaf " ++ tokenType ++ " " ++ source ++ " @" ++ toString offset ++ ".." ++
        toString (offset + length)
    | .composite _ => "composite " ++ source ++ t.spanSuffix (some id)
    | .root _ _ => "root " ++ source ++ t.spanSuffix (some id)
  indent depth ++ (if node.hidden then "hidden " else "") ++ what ++ ast ++ flags

/-- The lines of a concrete node reached from `parent`, down to a number of
levels. -/
def cstLines (t : SyntaxTree) : Nat → Option CstId → Nat → CstId → List String
  | 0, _, _, _ => []
  | levels + 1, parent, depth, id =>
    match t.cst? id with
    | none => []
    | some node =>
      t.cstLine parent depth id node ::
        node.children.flatMap (t.cstLines levels (some id) (depth + 1))

/-- **The concrete tree as text.** -/
def renderCst (t : SyntaxTree) : String :=
  unlines (t.cstLines (t.cst.size + 1) none 0 t.cstRoot)

end SyntaxTree

end Workbench
