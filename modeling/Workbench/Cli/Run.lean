import Workbench.Cli.Arguments
import Workbench.Cli.Disk
import Workbench.Grammar.DomainModel
import Workbench.Grammar.Table
import Workbench.Settings
import Workbench.Transfer.Wire
import Workbench.Tree.Render
import Workbench.Validation.DomainModel
import Workbench.Workspace.Request
/-!
# Commands

What the commands print about the domain models of a disk, and whether all
is well with them.
-/

namespace Workbench

namespace Cli

/-- Why a command came to nothing. -/
inductive Failure where
  | usage (usage : Usage)
  /-- The settings could not be read. -/
  | settingsUnreadable (message : String)
  /-- The settings are not well formed. -/
  | settingsMalformed
  | failed (message : String)
deriving DecidableEq, Repr, Inhabited

/-- What a command printed. -/
structure Printed where
  /-- Whether all is well. -/
  ok : Bool
  text : String
deriving DecidableEq, Repr, Inhabited

/-- The file with the settings of a folder. -/
def settingsFile : String := "grove.toml"

/-- The settings in a text. -/
def readSettings (text : String) : Except Failure Settings :=
  match Settings.parse? text with
  | some settings => .ok settings
  | none => .error .settingsMalformed

/-- The settings for a folder: from the file that is named, or from the one
in the folder, or the defaults. -/
def settingsFor (d : Disk) (folder : List String) : Option String → Except Failure Settings
  | some path =>
    match d.read path with
    | .ok text => readSettings text
    | .error fault =>
      .error (.settingsUnreadable ("I/O error reading " ++ path ++ ": " ++ fault.message))
  | none =>
    match d.file? (folder ++ [settingsFile]) with
    | some text => readSettings text
    | none => .ok .default

/-- The services for domain models under some settings. -/
def servicesFor (settings : Settings) (inProcess : Bool) : Services :=
  let mode := if inProcess then .inProcess else settings.parser.mode
  { Services.ofGrammar DomainModel.grammar with
    parser := .ofGrammar DomainModel.grammar mode
    checks := DomainModel.checks
    selection := ⟨settings.workspace.extensions, settings.workspace.exclude⟩
    initialBuild := settings.build.validation
    updateBuild := settings.build.validation }

/-- The line at the end of a check. -/
def summary (documents : Nat) (found : List Diagnostic) : String :=
  let count (s : Severity) : String := toString (found.countP (·.severity == s))
  toString documents ++ " documents, " ++ count .error ++ " errors, " ++
    count .warning ++ " warnings\n"

/-- What is said when a workspace cannot be loaded. -/
def stopMessage : Stop → String
  | .failed error => error.message
  | .panicked message => "locked action panicked: " ++ message
  | .endless => "the folder contains itself"

/-- **Builds every document below a folder** and prints the diagnostics. All
is well if none of them is an error. -/
def check (d : Disk) (path : String) (config : Option String) (inProcess : Bool) :
    Except Failure Printed := do
  let folder ← (d.resolve path).mapError fun _ => .failed ("cannot open workspace folder " ++ path)
  let settings ← settingsFor d folder config
  let root : Uri := .ofNames (folder ++ [""])
  let w := Workspace.ofFiles ⟨.disk, d.tree⟩
  match Request.serve (servicesFor settings inProcess) [.load [root]] w with
  | ([.loaded uris], w) =>
    let found := uris.flatMap fun uri =>
      ((w.document? uri).map Document.diagnostics).getD [] |>.map fun diagnostic =>
        (uri, diagnostic)
    let lines := found.map fun (uri, diagnostic) =>
      diagnostic.render (d.nameWithin folder uri) ++ "\n"
    return ⟨!found.any (·.2.severity == .error),
      String.join lines ++ summary uris.length (found.map Prod.snd)⟩
  | (replies, _) =>
    throw (.failed (match replies with
      | [.stopped stop] => stopMessage stop
      | _ => ""))

/-- Parses the file at a path. -/
def parseFile (d : Disk) (path : String) : Except Failure ParseResult := do
  let text ← (d.read path).mapError fun _ => .failed ("cannot read " ++ path)
  match DomainModel.grammar.parse text none .never with
  | .ok (result, _) => return result
  | .error abort => throw (.failed abort.message)

/-- An error of reading a text, as a line. -/
def errorLine (e : SyntaxError) : String :=
  "error " ++ toString (e.range.start.line + 1) ++ ":" ++
    toString (e.range.start.character + 1) ++ ": " ++ e.message ++ "\n"

/-- **Prints the tree of a file**, and the errors behind it. -/
def dump (d : Disk) (path : String) (cst : Bool) : Except Failure Printed := do
  let r ← parseFile d path
  return ⟨true, (if cst then r.tree.renderCst else r.tree.render) ++
    String.join ((r.lexerErrors ++ r.parserErrors).map errorLine)⟩

/-- **Sends the tree of a file through the wire format and back.** All is
well if it comes back as it was. -/
def transfer (d : Disk) (path : String) : Except Failure Printed := do
  let r ← parseFile d path
  let g := DomainModel.grammar
  let stream := Transfer.flatten r
  let bytes := Transfer.Wire.encode g.table.digest stream
  let again ← (Transfer.Wire.decode g.table.digest bytes).mapError fun _ =>
    .failed "the frame cannot be read"
  let copy ← (Transfer.rebuild g again).mapError fun e => .failed e.message
  let identical := copy.tree.render == r.tree.render && copy.tree.renderCst == r.tree.renderCst &&
    decide (copy.lexerErrors = r.lexerErrors) && decide (copy.parserErrors = r.parserErrors)
  return ⟨identical, "instructions: " ++ toString stream.length ++ "\nbytes: " ++
    toString bytes.length ++ "\nidentical: " ++ (if identical then "yes" else "no") ++ "\n"⟩

/-- **Runs a command line**: whether it asks to be verbose, and what it
prints. -/
def run (d : Disk) (args : List String) : Except Failure (Bool × Printed) := do
  let a ← (Arguments.read args).mapError .usage
  let printed ← match a.command with
    | .check folder config inProcess => check d folder config inProcess
    | .dump file cst => dump d file cst
    | .transfer file => transfer d file
  return (a.verbose, printed)

end Cli

end Workbench
