import Workbench.Document
import Workbench.Interrupt
/-!
# Computing scopes

The symbols of a document are collected before its references are resolved:
those it exports, and those visible inside its nodes. How this is done can
be replaced; what is given here exports the root and its children, and
makes every other named node visible in its container.
-/

namespace Workbench

/-- How a computation of scopes ends. -/
inductive ScopeOutcome (α : Type) where
  /-- It is done, with what is left of the interrupt. -/
  | done (value : α) (left : Interrupt)
  | cancelled
  | panicked (message : String)
deriving Repr

/-- Collects the symbols of a document. -/
structure ScopeComputation where
  exports : Document → Interrupt → ScopeOutcome (List Symbol)
  localScopes : Document → Interrupt → ScopeOutcome LocalSymbols

namespace ScopeComputation

/-- The symbols of the nodes that have names, with a check before each
node. -/
def exportsFrom (d : Document) : List NodeId → Interrupt → List Symbol → ScopeOutcome (List Symbol)
  | [], interrupt, found => .done found interrupt
  | id :: rest, interrupt, found =>
    match interrupt.check with
    | none => .cancelled
    | some left => exportsFrom d rest left (found ++ (d.symbol? id).toList)

/-- The root and its children are exported, if they have names. -/
def defaultExports (d : Document) (interrupt : Interrupt) : ScopeOutcome (List Symbol) :=
  match d.tree? with
  | none => .done [] interrupt
  | some tree => exportsFrom d (tree.root :: tree.childrenOf tree.root) interrupt []

/-- Makes a node visible in its container. -/
def addLocal (d : Document) (tree : SyntaxTree) (found : LocalSymbols) (id : NodeId) :
    LocalSymbols :=
  match (tree.node? id).bind AstNode.container, d.symbol? id with
  | some container, some symbol => found.add container symbol
  | _, _ => found

/-- The local symbols of some nodes, with a check before each node. -/
def localScopesFrom (d : Document) (tree : SyntaxTree) :
    List NodeId → Interrupt → LocalSymbols → ScopeOutcome LocalSymbols
  | [], interrupt, found => .done found interrupt
  | id :: rest, interrupt, found =>
    match interrupt.check with
    | none => .cancelled
    | some left => localScopesFrom d tree rest left (addLocal d tree found id)

/-- Every named node is visible in its container. -/
def defaultLocalScopes (d : Document) (interrupt : Interrupt) : ScopeOutcome LocalSymbols :=
  match d.tree? with
  | none => .done .empty interrupt
  | some tree => localScopesFrom d tree tree.preorder interrupt .empty

/-- **The computation that is used if none is given.** -/
def default : ScopeComputation := ⟨defaultExports, defaultLocalScopes⟩

end ScopeComputation

end Workbench
