import Workbench.Transfer.Instruction
import Workbench.Grammar.Table
/-!
# Flattening a parse result

A parse result is written down as instructions: the concrete tree by
nesting, then the abstract nodes in preorder, then the errors. Only what
the roots reach is written, under its place in the preorder. Links back to
containers are left out, as they follow from ownership and nesting.
-/

namespace Workbench

namespace Transfer

/-- The place of each of `size` handles in an order, absent for those that
do not occur. -/
def numbering (size : Nat) (order : List Nat) : Array (Option Nat) :=
  order.zipIdx.foldl (fun numbers (slot, number) => numbers.setIfInBounds slot (some number))
    (Array.replicate size none)

/-- A tree with the numbers its nodes get. -/
structure Numbered where
  tree : SyntaxTree
  ast : Array (Option Nat)
  cst : Array (Option Nat)
deriving Repr, Inhabited

namespace Numbered

/-- Numbers the nodes a tree reaches. -/
def ofTree (t : SyntaxTree) : Numbered :=
  ⟨t, numbering t.ast.size (t.preorder.map NodeId.index),
    numbering t.cst.size (t.cstPreorder.map CstId.index)⟩

/-- The number of an abstract node. -/
def node? (n : Numbered) (id : NodeId) : Option NodeId := (n.ast[id.index]?.join).map NodeId.mk

/-- The number of a concrete node. -/
def cst? (n : Numbered) (id : CstId) : Option CstId := (n.cst[id.index]?.join).map CstId.mk

/-- A reference as it is sent. -/
def sent (n : Numbered) (id : RefId) : SentReference :=
  match n.tree.reference? id with
  | some ref => ⟨ref.refText, ref.refNode.bind n.cst?⟩
  | none => ⟨"", none⟩

end Numbered

/-- The instruction that opens a concrete node. -/
def openNode (id : CstId) : CstKind → Instruction
  | .root text _ => .rootCstNode id text
  | .composite _ => .compositeCstNode id
  | .leaf tokenType offset length range => .leafCstNode id tokenType offset length range

/-- The instructions of a concrete node and what is below it, down to a
number of levels. -/
def flattenCst (n : Numbered) : Nat → CstId → List Instruction
  | 0, _ => []
  | levels + 1, id =>
    match n.cst? id, n.tree.cst? id with
    | some number, some node =>
      let link := match node.astNode.bind n.node? with
        | some ast => [.linkNode (.cst number) astNodeProperty (.ast ast)]
        | none => []
      let head := [openNode number node.kind,
        .property (.cst number) hiddenProperty (.bool node.hidden),
        .property (.cst number) sourceProperty (.int (ElementTable.encode node.source))] ++ link
      if node.isLeaf then head
      else head ++ node.children.flatMap (flattenCst n levels) ++ [.popCstNode]
    | _, _ => []

/-- The instruction of one property, if there is anything to say. -/
def flattenProperty (n : Numbered) (number : NodeId) (name : String) : Property → Option Instruction
  | .scalar value => some (.property (.ast number) name value)
  | .scalars values => some (.propertyArray number name values)
  | .node child => (n.node? child).map fun child => .linkNode (.ast number) name (.ast child)
  | .nodes children => some (.linkNodeArray number name (children.filterMap n.node?))
  | .reference ref => some (.reference number name (n.sent ref))
  | .references refs => some (.referenceArray number name (refs.map n.sent))
  | .empty => some (.empty number name)

/-- A place in a list as it is sent, in the 64 bits of a signed number: places
from `2 ^ 63` on become negative. -/
def sentIndex (index : Nat) : Int := (Int64.ofNat index).toInt

/-- The instructions of an abstract node. -/
def flattenNode (n : Numbered) (id : NodeId) : List Instruction :=
  match n.node? id, n.tree.node? id with
  | some number, some node =>
    let set (name : String) (value : Scalar) : Instruction := .property (.ast number) name value
    [set typeProperty (.str node.typeName)] ++
      (node.containerProperty.map fun name => set containerPropertyProperty (.str name)).toList ++
      (node.containerIndex.map fun i => set containerIndexProperty (.int (sentIndex i))).toList ++
      ((node.cstNode.bind n.cst?).map fun cst =>
        .linkNode (.ast number) cstNodeProperty (.cst cst)).toList ++
      node.properties.entries.filterMap fun (name, property) =>
        flattenProperty n number name property
  | _, _ => []

/-- **A parse result as instructions.** -/
def flatten (r : ParseResult) : List Instruction :=
  let n := Numbered.ofTree r.tree
  let ast := r.tree.preorder
  [.allocate r.tree.cstPreorder.length ast.length] ++
    flattenCst n (r.tree.cst.size + 1) r.tree.cstRoot ++
    ast.flatMap (flattenNode n) ++
    r.lexerErrors.map (.error .lexer) ++
    r.parserErrors.map (.error .parser) ++
    [.returnRoot ⟨0⟩]

end Transfer

end Workbench
