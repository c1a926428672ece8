import Workbench.Workspace.Build
/-!
# Requests

Clients ask for a workspace to be loaded, updated or read. Requests that
are waiting are served in this order: the writes as they came, then the
reads. A write that comes behind another cancels it, and so only the last
one runs to its end.
-/

namespace Workbench

/-- What a client can ask for. -/
inductive Request where
  /-- Load the files below some folders. -/
  | load (folders : List Uri)
  | update (changed deleted : List Uri)
  /-- Read the states of the documents. -/
  | read
  /-- Cancel the newest write. -/
  | cancelWrite
deriving DecidableEq, Repr, Inhabited

/-- What a client gets. -/
inductive Reply where
  | loaded (uris : List Uri)
  | done
  | states (states : List DocumentState)
  | stopped (stop : Stop)
deriving DecidableEq, Repr, Inhabited

namespace Request

/-- Whether a request cancels the writes that are waiting. -/
def cancels : Request → Bool
  | read => false
  | _ => true

/-- Serves a write. -/
def serveWrite (services : Services) (r : Request) (w : Workspace) (interrupt : Interrupt) :
    Reply × Workspace :=
  match r with
  | load folders =>
    match (Build.loadFolders services folders).run w interrupt with
    | (.ok uris, w) => (.loaded uris, w)
    | (.error stop, w) => (.stopped stop, w)
  | update changed deleted =>
    match (Build.update services changed deleted).run w interrupt with
    | (.ok (), w) => (.done, w)
    | (.error stop, w) => (.stopped stop, w)
  | _ => (.done, w)

/-- Serves the writes among requests that came at once. A write is cancelled
if a later request cancels it. -/
def serveWrites (services : Services) : List Request → Workspace → List Reply × Workspace
  | [], w => ([], w)
  | r :: rest, w =>
    let (reply, w) := r.serveWrite services w (if rest.any cancels then .fired else .never)
    let (replies, w) := serveWrites services rest w
    (reply :: replies, w)

/-- **Serves requests that came at once**: the writes in their order, then
the reads. -/
def serve (services : Services) (requests : List Request) (w : Workspace) :
    List Reply × Workspace :=
  let (replies, w) := serveWrites services requests w
  let states := w.documents.values.map Document.state
  ((requests.zip replies).map fun (r, reply) =>
    match r with
    | read => .states states
    | _ => reply, w)

end Request

/-! ## Descriptions -/

/-- The documents in short. -/
def Workspace.describe (w : Workspace) : String :=
  "Documents \x7b len: " ++ toString w.documents.size ++ " \x7d"

/-- The services in short. -/
def Services.describe (s : Services) (w : Workspace) : String :=
  "Services \x7b grammar: " ++ Text.quote s.parser.grammar.name ++ ", documents: " ++ w.describe ++
    ", file_extensions: [" ++ ", ".intercalate (s.selection.extensions.map Text.quote) ++
    "], .. \x7d"

/-- The builder in short. -/
def Services.describeBuilder (s : Services) : String :=
  "DocumentBuilder \x7b update_options: BuildOptions \x7b validation: " ++ s.updateBuild.render ++
    " \x7d, .. \x7d"

/-- The linker in short. -/
def Linker.describe (_ : Linker) : String := "Linker \x7b .. \x7d"

end Workbench
