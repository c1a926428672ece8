import Workbench.Workspace.Basic
/-!
# Builds

A build takes documents through the phases one by one: all are parsed
before any is indexed, all are indexed before any scope is computed, and so
on. When a document is linked, every symbol it can refer to is therefore in
the index.

A build can be cancelled before each document and inside of the phases. It
then leaves each document in the last state it came to, marked as pending,
and the next update goes on from there.
-/

namespace Workbench

/-! ## Resets -/

/-- **A document moved back to a state**, without the work of later phases. -/
def Document.resetTo (d : Document) (state : DocumentState) : Document :=
  { d with
    scopeFailures := d.scopeFailures.filter fun (phase, _) => phase ≤ state
    localScopes := if state ≤ .indexedContent then none else d.localScopes
    links := if state ≤ .computedScopes then d.unlink.links else d.links
    diagnostics := if state ≤ .linked then [] else d.diagnostics
    state := min d.state state }

/-- The index when a document is moved back to a state. -/
def Index.resetTo (x : Index) (uri : Uri) (state : DocumentState) : Index :=
  let x := if state ≤ .parsed then x.removeContent uri else x
  if state ≤ .computedScopes then x.removeReferences uri else x

/-- Moves a document of a workspace back to a state. -/
def Workspace.resetTo (w : Workspace) (uri : Uri) (state : DocumentState) : Workspace :=
  { w.modifyDocument uri (·.resetTo state) with index := w.index.resetTo uri state }

/-! ## The state of a build -/

/-- A workspace while it is built, and what is left of the interrupt. -/
structure BuildState where
  workspace : Workspace
  interrupt : Interrupt
deriving Repr, Inhabited

/-- An operation of a build. What it has done stays done if it stops. -/
abbrev Build := ExceptT Stop (StateM BuildState)

namespace Build

/-- Runs an operation on a workspace. -/
def run {α : Type} (action : Build α) (w : Workspace) (interrupt : Interrupt) :
    Except Stop α × Workspace :=
  let (outcome, s) := ExceptT.run action ⟨w, interrupt⟩
  (outcome, s.workspace)

/-- Changes the workspace. -/
def change (f : Workspace → Workspace) : Build Unit :=
  modify fun s => { s with workspace := f s.workspace }

/-- Takes over the workspace of an operation that can fail. -/
def attempt (f : Workspace → Except WorkspaceError Workspace) : Build Unit := do
  match f (← get).workspace with
  | .ok w => change fun _ => w
  | .error e => throw (.failed e)

/-- **A point at which a build can be cancelled.** -/
def checkpoint : Build Unit := do
  match (← get).interrupt.check with
  | some left => modify fun s => { s with interrupt := left }
  | none => throw (.failed .cancelled)

/-- Does something for each item of a list. -/
def each {α : Type} (action : α → Build Unit) : List α → Build Unit
  | [] => pure ()
  | a :: rest => do
    action a
    each action rest

/-! ## Phases -/

/-- What is reported if the computation of scopes breaks down. -/
def scopeFailure (d : Document) (message : String) : Diagnostic :=
  ⟨.error, "An error occurred during scope computation: " ++ message, d.rootRange,
    some Diagnostic.checkFailed, none⟩

/-- How a failed parse stops the build. -/
def parseStop (uri : Uri) : ParseFault → Stop
  | .cancelled => .failed .cancelled
  | .panicked message => .panicked message
  | .endless => .endless
  | fault => .failed (.parse uri fault)

/-- Parses a document. -/
def parsePhase (services : Services) (d : Document) : Build Unit := do
  match services.parser.parse d.text none (← get).interrupt with
  | .ok (result, left) =>
    modify fun s => ⟨s.workspace.setDocument (d.setParse result), left⟩
  | .error fault => throw (parseStop d.uri fault)

/-- Puts the exports of a document into the index. -/
def indexPhase (services : Services) (d : Document) : Build Unit := do
  let finish (symbols : List Symbol) (failure : Option Diagnostic) (left : Interrupt) :
      Build Unit := modify fun s =>
    let d := { d.recordScopeFailure .indexedContent failure with state := .indexedContent }
    ⟨{ s.workspace.setDocument d with
       index := s.workspace.index.updateContent d.uri symbols }, left⟩
  let interrupt := (← get).interrupt
  match services.scopes.exports d interrupt with
  | .done symbols left => finish symbols none left
  | .cancelled => throw (.failed .cancelled)
  | .panicked message => finish [] (some (scopeFailure d message)) interrupt

/-- Computes the local scopes of a document. -/
def scopePhase (services : Services) (d : Document) : Build Unit := do
  let finish (symbols : LocalSymbols) (failure : Option Diagnostic) (left : Interrupt) :
      Build Unit := modify fun s =>
    let d := { d.recordScopeFailure .computedScopes failure with
      localScopes := some symbols, state := .computedScopes }
    ⟨s.workspace.setDocument d, left⟩
  let interrupt := (← get).interrupt
  match services.scopes.localScopes d interrupt with
  | .done symbols left => finish symbols none left
  | .cancelled => throw (.failed .cancelled)
  | .panicked message => finish .empty (some (scopeFailure d message)) interrupt

/-- Resolves the references of a document and records them. -/
def linkPhase (services : Services) (d : Document) : Build Unit := do
  let s ← get
  match services.linker.link s.workspace.index d s.interrupt with
  | (d, none) => do
    change (·.setDocument d)
    throw (.failed .cancelled)
  | (d, some left) =>
    modify fun s =>
      ⟨{ s.workspace.setDocument { d with state := .linked } with
          index := s.workspace.index.updateReferences d }, left⟩

/-- Collects the diagnostics of a document. -/
def validatePhase (services : Services) (d : Document) : Build Unit := do
  let s ← get
  match d.validate services.checks services.linker s.workspace.index s.interrupt with
  | (none, d) => do
    change (·.setDocument d)
    throw (.failed .cancelled)
  | (some (found, left), d) =>
    modify fun s =>
      ⟨s.workspace.setDocument { d with
          diagnostics := d.scopeFailures.map Prod.snd ++ found, state := .validated }, left⟩

/-- **Takes a document to a state** from the state before. -/
def advance (services : Services) (target : DocumentState) (uri : Uri) : Build Unit := do
  match (← get).workspace.document? uri with
  | none => pure ()
  | some d =>
    match target with
    | .changed => pure ()
    | .parsed => parsePhase services d
    | .indexedContent => indexPhase services d
    | .computedScopes => scopePhase services d
    | .linked => linkPhase services d
    | .validated => validatePhase services d

/-! ## Listeners -/

/-- The states of some documents. -/
def statesOf (w : Workspace) (uris : List Uri) : List (Uri × DocumentState) :=
  uris.filterMap fun uri => (w.document? uri).map fun d => (uri, d.state)

/-- Resolves the first reference of the first document and notes how it
went. -/
def resolveFirst (services : Services) (uris : List Uri) : Build Unit := change fun w =>
  match uris.head?.bind w.document? with
  | none => w
  | some d =>
    match d.links.isEmpty, w.resolve services.linker d.uri ⟨0⟩ with
    | false, (some outcome, w) =>
      let failure := match outcome with
        | .error cycle => some cycle.message
        | .ok (.error message) => some message
        | .ok _ => none
      w.note (.early failure ((w.document? d.uri).any fun d => (d.resolution? ⟨0⟩).isSome))
    | _, _ => w

/-- Tells a listener that documents came to a phase. -/
def tell (services : Services) (state : DocumentState) (uris : List Uri) (action : ListenerAction) :
    Build Unit := do
  checkpoint
  change fun w => w.note (.phase state (statesOf w uris))
  match action with
  | .note => pure ()
  | .cancel => modify fun s => { s with interrupt := .fired }
  | .panic message => throw (.panicked message)
  | .resolveFirst => resolveFirst services uris

/-- Tells the listeners of a phase, in the order they were added. -/
def notify (services : Services) (state : DocumentState) (uris : List Uri) : Build Unit := do
  let listeners := (← get).workspace.listeners.ofPhases.filter (·.2.1 == state)
  each (fun (_, _, action) => tell services state uris action) listeners

/-! ## Whole builds -/

/-- The documents among some that have not come to a state. -/
def before (w : Workspace) (state : DocumentState) (uris : List Uri) : List Uri :=
  uris.filter fun uri => (w.document? uri).any fun d => d.state < state

/-- **Takes documents to a state**, those that have not come to it. -/
def runPhase (services : Services) (uris : List Uri) (state : DocumentState) : Build Unit := do
  let pending := before (← get).workspace state uris
  if pending.isEmpty then pure ()
  else
    each (fun uri => do checkpoint; advance services state uri) pending
    notify services state pending

/-- Builds documents up to being linked, and those that ask for it up to
being validated. -/
def documents (services : Services) (uris : List Uri) (options : ValidationMode) : Build Unit := do
  each (fun uri => change (·.modifyDocument uri fun d =>
    { d with build := some (d.build.getD options) })) uris
  each (runPhase services uris) [.parsed, .indexedContent, .computedScopes, .linked]
  let w := (← get).workspace
  runPhase services
    (uris.filter fun uri => (w.document? uri).any fun d => d.build == some .all) .validated
  each (fun uri => change (·.modifyDocument uri fun d => { d with build := none })) uris

/-! ## Updates -/

/-- Takes in a file that has changed. -/
def takeChanged (uri : Uri) : Build Unit := do
  if (← get).workspace.documents.contains uri then
    attempt (·.reload uri)
    change (·.resetTo uri .changed)
  else attempt (·.load uri)

/-- Moves the documents back that have to be linked again: those with
linking errors, and those that refer into a changed document. -/
def relink (w : Workspace) (changed : List Uri) : Workspace :=
  w.documents.values.foldl (fun w d =>
    if changed.contains d.uri then w
    else if d.hasLinkingErrors || w.index.isAffected d.uri changed then
      w.resetTo d.uri .computedScopes
    else w) w

/-- **Applies a batch of changes and rebuilds what they affect.** Everything
is reset before the first point at which the build can be cancelled. -/
def update (services : Services) (changed deleted : List Uri) : Build Unit := do
  each (fun uri => change fun w => { w.delete uri with index := w.index.remove uri }) deleted
  each takeChanged changed
  if !changed.isEmpty || !deleted.isEmpty then change (relink · (changed ++ deleted))
  each (fun _ => change (·.note (.update changed deleted))) (← get).workspace.listeners.ofUpdates
  checkpoint
  let pending := (← get).workspace.documents.values.filter fun d => d.state < .linked || d.isPending
  documents services (pending.map Document.uri) services.updateBuild

/-- The accepted files below some folders. -/
def collect (services : Services) : List Uri → Build (List Uri)
  | [] => pure []
  | folder :: rest => do
    match (← get).workspace.files.tree.collect? services.selection folder with
    | none => throw .endless
    | some uris => return uris ++ (← collect services rest)

/-- **Loads the files below some folders and builds them.** -/
def loadFolders (services : Services) (folders : List Uri) : Build (List Uri) := do
  let uris ← collect services folders
  each (fun uri => attempt (·.load uri)) uris
  documents services uris services.initialBuild
  return uris

end Build

end Workbench
