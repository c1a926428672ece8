import Workbench.Text.Lowercase
import Workbench.Validation.Basic
/-!
# Checks of the domain model

The names of types start with a capital, the features of an entity have
different names, and no entity inherits from itself.
-/

namespace Workbench

namespace DomainModel

/-- Warns of a type whose name starts with a small letter. -/
def typeStartsWithCapital : Check := fun cx links =>
  let small := (cx.tree.name? cx.node).any fun name => name.toList.head?.any Text.isLowercase
  let warning := { cx.report .warning cx.node "Type name should start with a capital." with
    code := some "type-capital" }
  (⟨if small then [warning] else [], none⟩, links)

/-- The nodes whose names were seen before, with their names. -/
def repeatedNames (tree : SyntaxTree) : List NodeId → List String → List (NodeId × String)
  | [], _ => []
  | id :: rest, seen =>
    match tree.name? id with
    | none => repeatedNames tree rest seen
    | some name =>
      if seen.contains name then (id, name) :: repeatedNames tree rest seen
      else repeatedNames tree rest (name :: seen)

/-- Reports every feature whose name an earlier feature of the entity has. -/
def uniqueFeatureNames : Check := fun cx links =>
  let features := ((cx.tree.node? cx.node).map (·.nodes "features")).getD []
  let found := (repeatedNames cx.tree features []).map fun (id, name) =>
    cx.report .error id ("Duplicate feature name '" ++ name ++ "'.")
  (⟨found, none⟩, links)

/-- How a walk along the supertypes of an entity ends. -/
inductive Walk where
  /-- It comes to an entity without a supertype in the document, or around a
  cycle without the start. -/
  | ends
  /-- It comes back to the start. -/
  | returns
  /-- A reference on the way was being resolved. -/
  | stuck (cycle : Cycle)
  /-- A reference on the way leads to a node that an earlier tree of the
  document had, and this one of `size` nodes has not. -/
  | lost (node : NodeId) (size : Nat)
deriving DecidableEq, Repr, Inhabited

/-- Walks at most `n` steps from a node along first supertypes within the
document. -/
def walk (cx : LinkContext) (start : NodeId) :
    Nat → List NodeId → NodeId → Links → Walk × Links
  | 0, _, _, links => (.ends, links)
  | n + 1, visited, current, links =>
    match cx.tree.node? current with
    | none => (.lost current cx.tree.ast.size, links)
    | some node =>
      match (node.refs "superType").head? with
      | none => (.ends, links)
      | some id =>
        match cx.resolve links id with
        | (.error cycle, links) => (.stuck cycle, links)
        | (.ok (.single target), links) =>
          if target.uri ≠ cx.document.uri then (.ends, links)
          else if target.node = start then (.returns, links)
          else if visited.contains target.node then (.ends, links)
          else walk cx start n (target.node :: visited) target.node links
        | (.ok _, links) => (.ends, links)

/-- **Reports an entity that inherits from itself.** A walk of more steps
than the tree has nodes has been around a cycle. -/
def acyclicInheritance : Check := fun cx links =>
  match walk cx.linking cx.node (cx.tree.ast.size + 1) [cx.node] cx.node links with
  | (.ends, links) => (⟨[], none⟩, links)
  | (.stuck cycle, links) => (⟨[], some cycle.message⟩, links)
  | (.lost node size, links) =>
    (⟨[], some ("index out of bounds: the len is " ++ toString size ++ " but the index is " ++
      toString node.index)⟩, links)
  | (.returns, links) =>
    let name := (cx.tree.name? cx.node).getD ""
    (⟨[cx.report .error cx.node ("Cycle in the inheritance hierarchy of '" ++ name ++ "'.")], none⟩,
      links)

/-- **The checks of the domain model.** -/
def checks : CheckRegistry :=
  [("Type", typeStartsWithCapital), ("Entity", uniqueFeatureNames), ("Entity", acyclicInheritance)]

end DomainModel

end Workbench
