import Workbench.Tree.Basic
/-!
# Spans of nodes

A leaf covers its token. A composite reaches from the start of the first
child that covers anything to the end of the last such child, and covers
nothing if there is none.
-/

namespace Workbench

namespace SyntaxTree

/-- The bytes a concrete node covers, down to a depth. -/
def spanTo (t : SyntaxTree) : Nat → CstId → Option (Nat × Nat)
  | 0, _ => none
  | depth + 1, id =>
    match t.cst? id with
    | none => none
    | some node =>
      match node.kind with
      | .leaf _ offset length _ => some (offset, offset + length)
      | _ =>
        let found := node.children.filterMap (t.spanTo depth)
        match found.head?, found.getLast? with
        | some first, some last => some (first.1, last.2)
        | _, _ => none

/-- **The bytes a concrete node covers**: its start and its end. -/
def cstSpan? (t : SyntaxTree) (id : CstId) : Option (Nat × Nat) := t.spanTo (t.cst.size + 1) id

/-- The range a concrete node covers, down to a depth. -/
def rangeTo (t : SyntaxTree) : Nat → CstId → Option Range
  | 0, _ => none
  | depth + 1, id =>
    match t.cst? id with
    | none => none
    | some node =>
      match node.kind with
      | .leaf _ _ _ range => some range
      | _ =>
        let found := node.children.filterMap (t.rangeTo depth)
        match found.head?, found.getLast? with
        | some first, some last => some (first.cover last)
        | _, _ => none

/-- **The range a concrete node covers.** -/
def cstRange? (t : SyntaxTree) (id : CstId) : Option Range := t.rangeTo (t.cst.size + 1) id

/-- The text a concrete node covers. -/
def cstText (t : SyntaxTree) (id : CstId) : String :=
  match t.cstSpan? id with
  | some (start, stop) => String.ofList ((Text.slice? t.text.toList start stop).getD [])
  | none => ""

/-- The range of a node. -/
def nodeRange? (t : SyntaxTree) (id : NodeId) : Option Range :=
  (t.node? id).bind fun node => node.cstNode.bind t.cstRange?

/-- The text of a node. -/
def nodeText (t : SyntaxTree) (id : NodeId) : String :=
  (((t.node? id).bind AstNode.cstNode).map t.cstText).getD ""

/-- Whether a concrete node is visible and covers the offset. -/
def coversVisibly (t : SyntaxTree) (offset : Nat) (id : CstId) : Bool :=
  match t.cstSpan? id, t.cst? id with
  | some (start, stop), some node => start ≤ offset && offset < stop && !node.hidden
  | _, _ => false

/-- Descends at most `n` levels to the visible leaf at an offset. -/
def leafFrom? (t : SyntaxTree) (offset : Nat) : Nat → CstId → Option CstId
  | 0, _ => none
  | n + 1, current =>
    match (t.cstChildrenOf current).find? (t.coversVisibly offset) with
    | none => none
    | some child =>
      if (t.cst? child).any CstNode.isLeaf then some child else t.leafFrom? offset n child

/-- **The visible leaf at a byte offset.** The descent takes the first child
that covers the offset and never turns back. -/
def leafAt? (t : SyntaxTree) (offset : Nat) : Option CstId :=
  t.leafFrom? offset t.cst.size t.cstRoot

end SyntaxTree

end Workbench
