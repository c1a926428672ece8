import Workbench.CancelToken
import Workbench.FileTree
import Workbench.Scope.Computation
import Workbench.Validation.Basic
import Workbench.Worker.Service
/-!
# Workspaces

A workspace is the documents of a folder, the index over them, and the
listeners of their builds. This file keeps the documents; building them is
the subject of the next.
-/

namespace Workbench

/-- What the documents of a language are processed with. -/
structure Services where
  parser : ParserService
  scopes : ScopeComputation
  linker : Linker
  checks : CheckRegistry
  selection : FileTree.Selection
  /-- Whether documents are validated when they are first loaded. -/
  initialBuild : ValidationMode
  /-- Whether documents are validated after a change. -/
  updateBuild : ValidationMode

/-- The usual services of a language. -/
def Services.ofGrammar (grammar : Grammar) : Services :=
  { parser := .ofGrammar grammar .inProcess
    scopes := .default
    linker := ⟨grammar.typeGraph, .default⟩
    checks := []
    selection := ⟨[".dmodel"], ["node_modules", "out", "target"]⟩
    initialBuild := .all
    updateBuild := .all }

/-! ## Listeners -/

/-- What a listener of a phase does after noting the phase. -/
inductive ListenerAction where
  | note
  /-- Cancels the build. -/
  | cancel
  | panic (message : String)
  /-- Resolves the first reference of the first document. -/
  | resolveFirst
deriving DecidableEq, Repr, Inhabited

/-- Those that are told of updates and of phases, by their numbers. -/
structure Listeners where
  next : Nat
  ofUpdates : List Nat
  ofPhases : List (Nat × DocumentState × ListenerAction)
deriving DecidableEq, Repr, Inhabited

namespace Listeners

/-- No listeners. -/
def none : Listeners := ⟨0, [], []⟩

/-- Adds a listener of updates. -/
def addUpdate (l : Listeners) : Listeners :=
  { l with next := l.next + 1, ofUpdates := l.ofUpdates ++ [l.next] }

/-- Adds a listener of a phase. -/
def addPhase (l : Listeners) (state : DocumentState) (action : ListenerAction) : Listeners :=
  { l with next := l.next + 1, ofPhases := l.ofPhases ++ [(l.next, state, action)] }

/-- Removes a listener. -/
def remove (l : Listeners) (id : Nat) : Listeners :=
  { l with
    ofUpdates := l.ofUpdates.filter (· != id)
    ofPhases := l.ofPhases.filter (·.1 != id) }

end Listeners

/-- What listeners have noted. -/
inductive Event where
  /-- Documents came to a phase; with their states. -/
  | phase (state : DocumentState) (documents : List (Uri × DocumentState))
  /-- Files changed or were deleted. -/
  | update (changed deleted : List Uri)
  /-- A reference was resolved ahead of its phase: how it failed, and
  whether the outcome was kept. -/
  | early (failure : Option String) (kept : Bool)
deriving DecidableEq, Repr, Inhabited

/-! ## Errors -/

/-- Why an operation on a workspace failed. Faults of a single document are
its diagnostics and none of these. -/
inductive WorkspaceError where
  | cancelled
  | parse (uri : Uri) (fault : ParseFault)
  | read (uri : Uri) (fault : FileFault)
  | duplicate (uri : Uri)
deriving DecidableEq, Repr, Inhabited

namespace WorkspaceError

/-- The text of an error. -/
def message : WorkspaceError → String
  | cancelled => "workspace build cancelled"
  | parse uri fault => "parsing " ++ uri.render ++ " failed: " ++ fault.message
  | read uri fault => "failed to read " ++ uri.render ++ ": " ++ fault.message
  | duplicate uri => "a document with uri " ++ uri.render ++ " is already present"

/-- The kind of an error, for tools. -/
def kind : WorkspaceError → String
  | cancelled => "Cancelled"
  | parse _ _ => "Parse"
  | read _ _ => "Read"
  | duplicate _ => "DuplicateDocument"

/-- Whether an error says that the operation was cancelled. -/
def isCancelled : WorkspaceError → Bool
  | cancelled => true
  | _ => false

/-- An error with its causes. -/
def cause (e : WorkspaceError) : Cause :=
  match e with
  | cancelled => .message e.message (some .cancelled)
  | parse _ fault => .message e.message (some (.message fault.message none))
  | read _ fault => .message e.message (some (.message fault.message none))
  | duplicate _ => .message e.message none

end WorkspaceError

/-- How an operation on a workspace stops before its end. -/
inductive Stop where
  | failed (error : WorkspaceError)
  /-- Something it called broke down. -/
  | panicked (message : String)
  /-- Something it called would not come to an end. -/
  | endless
deriving DecidableEq, Repr, Inhabited

/-! ## Workspaces -/

/-- **A workspace.** -/
structure Workspace where
  documents : OrderedMap Uri Document
  index : Index
  files : FileSystem
  listeners : Listeners
  events : List Event
deriving Repr, Inhabited

namespace Workspace

/-- A workspace without documents. -/
def ofFiles (files : FileSystem) : Workspace := ⟨.empty, .empty, files, .none, []⟩

/-- The document of a uri. -/
def document? (w : Workspace) (uri : Uri) : Option Document := w.documents.get? uri

/-- Replaces a document. -/
def setDocument (w : Workspace) (d : Document) : Workspace :=
  { w with documents := w.documents.insert d.uri d }

/-- Changes a document that is there. -/
def modifyDocument (w : Workspace) (uri : Uri) (f : Document → Document) : Workspace :=
  { w with documents := w.documents.modify uri f }

/-- Adds a document that is not there. -/
def add (w : Workspace) (d : Document) : Except WorkspaceError Workspace :=
  if w.documents.contains d.uri then .error (.duplicate d.uri) else .ok (w.setDocument d)

/-- The text of a file. -/
def read (w : Workspace) (uri : Uri) : Except WorkspaceError String :=
  (w.files.read uri).mapError (.read uri)

/-- **Loads a document** unless it is there. -/
def load (w : Workspace) (uri : Uri) : Except WorkspaceError Workspace :=
  if w.documents.contains uri then .ok w
  else (w.read uri).map fun text => w.setDocument (.ofText uri text)

/-- Reads the text of a document again, if the document is there. -/
def reload (w : Workspace) (uri : Uri) : Except WorkspaceError Workspace :=
  if w.documents.contains uri then
    (w.read uri).map fun text => w.modifyDocument uri (·.setText text)
  else .ok w

/-- Forgets a document; the index keeps what it knows. -/
def delete (w : Workspace) (uri : Uri) : Workspace :=
  { w with documents := w.documents.erase uri }

/-- Adds to what listeners have noted. -/
def note (w : Workspace) (event : Event) : Workspace := { w with events := w.events ++ [event] }

/-- **The path of the node that a handle stands for.** It is `gone` if the
document is not there any more, and `stale` if the document has another
version or no such node. -/
def locate (w : Workspace) (h : NodeHandle) : String :=
  match w.document? h.uri with
  | none => "gone"
  | some d =>
    match d.tree? with
    | some t => if d.version = h.version ∧ (t.node? h.node).isSome then t.pathOf h.node else "stale"
    | none => "stale"

/-- Resolves a reference of a document and keeps the outcome; nothing if
there is no such document. -/
def resolve (w : Workspace) (linker : Linker) (uri : Uri) (id : RefId) :
    Option (Except Cycle Resolution) × Workspace :=
  match w.document? uri with
  | none => (none, w)
  | some d =>
    let (outcome, d) := linker.resolve w.index d id
    (some outcome, w.setDocument d)

end Workspace

end Workbench
