import Workbench.Tree.Path
import Workbench.Tree.Span
import Workbench.Uri
/-!
# Symbols

A symbol is a named node as it is seen from outside its document. A
reference resolves to handles of nodes; a handle names the version of the
document it was made for, so that one that has been overtaken can be told.
-/

namespace Workbench

/-- A node of a document at one of its versions. -/
structure NodeHandle where
  uri : Uri
  version : Nat
  node : NodeId
deriving DecidableEq, Repr, Inhabited

/-- What a reference turned out to stand for. -/
inductive Resolution where
  | single (target : NodeHandle)
  | multi (targets : List NodeHandle)
  | error (message : String)
deriving DecidableEq, Repr, Inhabited

namespace Resolution

/-- The nodes a reference stands for. -/
def targets : Resolution → List NodeHandle
  | single target => [target]
  | multi targets => targets
  | error _ => []

/-- Whether the reference could not be resolved. -/
def isError : Resolution → Bool
  | error _ => true
  | _ => false

end Resolution

/-- A named node as it is seen from outside its document. -/
structure Symbol where
  name : String
  typeName : String
  uri : Uri
  version : Nat
  node : NodeId
  path : String
  range : Option Range
deriving DecidableEq, Repr, Inhabited

/-- The handle of a symbol's node. -/
def Symbol.handle (s : Symbol) : NodeHandle := ⟨s.uri, s.version, s.node⟩

/-- The symbol of a node of a document, if the node has a name. -/
def SyntaxTree.symbol? (t : SyntaxTree) (uri : Uri) (version : Nat) (id : NodeId) : Option Symbol :=
  (t.name? id).map fun name => ⟨name, t.typeOf id, uri, version, id, t.pathOf id, t.nodeRange? id⟩

/-- Symbols under the node in which they are visible. -/
abbrev LocalSymbols := OrderedMap NodeId (List Symbol)

/-- Adds a symbol behind those of its container. -/
def LocalSymbols.add (m : LocalSymbols) (container : NodeId) (symbol : Symbol) : LocalSymbols :=
  m.insert container ((m.get? container).getD [] ++ [symbol])

/-- The number of symbols. -/
def LocalSymbols.count (m : LocalSymbols) : Nat := m.values.flatten.length

end Workbench
