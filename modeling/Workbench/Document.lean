import Workbench.Diagnostic
import Workbench.Options
import Workbench.Symbol
/-!
# Documents

A document is a text with everything a build has found out about it. Its
state says how far the build has come: a document only goes forward by the
phases of a build and only goes back by a reset.
-/

namespace Workbench

/-- How far the build of a document has come. -/
inductive DocumentState where
  /-- The text is newer than the tree. -/
  | changed
  | parsed
  /-- The exported symbols are in the index. -/
  | indexedContent
  /-- The local scopes are known. -/
  | computedScopes
  | linked
  | validated
deriving DecidableEq, Repr, Inhabited

namespace DocumentState

/-- The place of a state among the others. -/
def rank : DocumentState → Nat
  | changed => 0
  | parsed => 1
  | indexedContent => 2
  | computedScopes => 3
  | linked => 4
  | validated => 5

/-- A state comes before another if it has the smaller rank. -/
instance : LT DocumentState := ⟨fun a b => a.rank < b.rank⟩

/-- A state does not come after another if its rank is not greater. -/
instance : LE DocumentState := ⟨fun a b => a.rank ≤ b.rank⟩

/-- Whether a state comes before another can be computed. -/
instance (a b : DocumentState) : Decidable (a < b) := inferInstanceAs (Decidable (a.rank < b.rank))

/-- Whether a state does not come after another can be computed. -/
instance (a b : DocumentState) : Decidable (a ≤ b) := inferInstanceAs (Decidable (a.rank ≤ b.rank))

/-- The earlier of two states. -/
instance : Min DocumentState := ⟨fun a b => if a ≤ b then a else b⟩

/-- The states in their order. -/
def all : List DocumentState :=
  [changed, parsed, indexedContent, computedScopes, linked, validated]

/-- The name of a state. -/
def render : DocumentState → String
  | changed => "changed"
  | parsed => "parsed"
  | indexedContent => "indexed-content"
  | computedScopes => "computed-scopes"
  | linked => "linked"
  | validated => "validated"

/-- The state of a name. -/
def ofName? (name : String) : Option DocumentState := all.find? (·.render == name)

end DocumentState

/-- What each reference of a tree was resolved to so far. -/
abbrev Links := Array (Option Resolution)

/-- **A document of a workspace.** -/
structure Document where
  uri : Uri
  text : String
  /-- How often it was parsed. -/
  version : Nat
  state : DocumentState
  /-- The latest parse, of this text or an earlier one. -/
  parse : Option ParseResult
  links : Links
  localScopes : Option LocalSymbols
  diagnostics : List Diagnostic
  /-- What went wrong in computing scopes, with the phase. -/
  scopeFailures : List (DocumentState × Diagnostic)
  /-- The options of a build that has not ended. -/
  build : Option ValidationMode
deriving Repr, Inhabited

namespace Document

/-- A document that was not parsed yet. -/
def ofText (uri : Uri) (text : String) : Document :=
  ⟨uri, text, 0, .changed, none, #[], none, [], [], none⟩

/-- The latest tree. -/
def tree? (d : Document) : Option SyntaxTree := d.parse.map ParseResult.tree

/-- What a reference was resolved to. -/
def resolution? (d : Document) (id : RefId) : Option Resolution := (d.links[id.index]?).join

/-- Whether a build that includes the document has not ended. -/
def isPending (d : Document) : Bool := d.build.isSome

/-- Whether some reference could not be resolved. -/
def hasLinkingErrors (d : Document) : Bool :=
  d.links.any fun link => link.any Resolution.isError

/-- The symbol of a node of the document, if it has a name. -/
def symbol? (d : Document) (id : NodeId) : Option Symbol :=
  d.tree?.bind fun tree => tree.symbol? d.uri d.version id

/-- The symbols visible in each node, by the path of the node; nodes of one
path come in the order in which they were made. -/
def localSymbols? (d : Document) : Option (List (String × List Symbol)) := do
  let tree ← d.tree?
  let symbols ← d.localScopes
  let byNode := symbols.entries.mergeSort fun a b => a.1.index ≤ b.1.index
  return (byNode.map fun (id, here) => (tree.pathOf id, here)).mergeSort
    fun a b => !(decide (b.1 < a.1))

/-- The range of the root. -/
def rootRange (d : Document) : Range :=
  (d.tree?.bind fun tree => tree.nodeRange? tree.root).getD .origin

/-- Replaces the text; all else is of the text before. -/
def setText (d : Document) (text : String) : Document := { d with text, state := .changed }

/-- Takes in the parse of the text. -/
def setParse (d : Document) (parse : ParseResult) : Document :=
  { d with
    version := d.version + 1
    parse := some parse
    links := Array.replicate parse.tree.references.size none
    localScopes := none
    diagnostics := []
    scopeFailures := []
    state := .parsed }

/-- **Forgets every resolution.** -/
def unlink (d : Document) : Document := { d with links := d.links.map fun _ => none }

/-- Replaces what went wrong in a phase; it is shown at once, and again
after every validation. -/
def recordScopeFailure (d : Document) (phase : DocumentState) (failure : Option Diagnostic) :
    Document :=
  let kept := d.scopeFailures.filter (·.1 != phase)
  match failure with
  | none => { d with scopeFailures := kept }
  | some f => { d with scopeFailures := kept ++ [(phase, f)], diagnostics := d.diagnostics ++ [f] }

end Document

end Workbench
