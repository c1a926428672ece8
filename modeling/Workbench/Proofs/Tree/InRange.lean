import Workbench.Proofs.Tree.Restrict
/-!
# Handles in range

Handles are places in the arenas, and nothing but their range tells whether
they stand for something. `SyntaxTree.InRange` says that all handles of a
tree do, also those in nodes that the roots do not reach.
-/

namespace Workbench

/-- The handles of a node are in range. -/
structure AstNode.InRange (t : SyntaxTree) (node : AstNode) : Prop where
  container : ∀ p ∈ node.container, p.index < t.ast.size
  cstNode : ∀ c ∈ node.cstNode, c.index < t.cst.size
  children : ∀ c ∈ node.children, c.index < t.ast.size
  refs : ∀ r ∈ node.heldRefs, r.index < t.references.size

/-- The handles of a concrete node are in range. -/
structure CstNode.InRange (t : SyntaxTree) (node : CstNode) : Prop where
  container : ∀ p ∈ node.container, p.index < t.cst.size
  root : node.root.index < t.cst.size
  children : ∀ c ∈ node.children, c.index < t.cst.size
  astNode : ∀ a ∈ node.astNode, a.index < t.ast.size

/-- The handles of a reference are in range. -/
structure Reference.InRange (t : SyntaxTree) (ref : Reference) : Prop where
  container : ref.container.index < t.ast.size
  refNode : ∀ c ∈ ref.refNode, c.index < t.cst.size

/-- **All handles of a tree are in range.** -/
structure SyntaxTree.InRange (t : SyntaxTree) : Prop where
  root : t.root.index < t.ast.size
  cstRoot : t.cstRoot.index < t.cst.size
  nodes : ∀ node ∈ t.ast, node.InRange t
  cstNodes : ∀ node ∈ t.cst, node.InRange t
  references : ∀ ref ∈ t.references, ref.InRange t

end Workbench
