import Workbench.Options
import Workbench.Toml.Reader
/-!
# Settings

The settings of a workspace are read from a TOML document. Every setting
has a default, and a name that is no setting is refused.
-/

namespace Workbench

/-- How documents are parsed. -/
structure ParserSettings where
  mode : ParserMode
  threads : Nat
  /-- How long a worker may ignore being cancelled. -/
  terminationDelayMs : Nat
deriving DecidableEq, Repr, Inhabited

/-- How documents are built. -/
structure BuildSettings where
  validation : ValidationMode
  /-- How long a build may run before others get their turn. -/
  interruptionPeriodMs : Nat
deriving DecidableEq, Repr, Inhabited

/-- Which files are documents. -/
structure FolderSettings where
  /-- The extensions of documents, with their dots. -/
  extensions : List String
  /-- Names of folders that are skipped. -/
  exclude : List String
deriving DecidableEq, Repr, Inhabited

/-- **The settings of a workspace.** -/
structure Settings where
  parser : ParserSettings
  build : BuildSettings
  workspace : FolderSettings
deriving DecidableEq, Repr, Inhabited

namespace Settings

/-- The settings that hold when nothing is said. -/
def default : Settings :=
  { parser := ⟨.worker, 8, 200⟩
    build := ⟨.all, 10⟩
    workspace := ⟨[".dmodel"], ["node_modules", "out", "target"]⟩ }

open Toml

/-! ## Values -/

/-- The word of an enumeration: a text, or the only name of a table that
holds nothing. -/
def word? : Value → Option String
  | .text s => some s
  | .table _ [(name, .table _ [])] => some name
  | .table _ [(name, .array _ [])] => some name
  | _ => none

/-- A parser mode. -/
def mode? (v : Value) : Option ParserMode :=
  match word? v with
  | some "worker" => some .worker
  | some "in-process" => some .inProcess
  | _ => none

/-- A validation mode. -/
def validation? (v : Value) : Option ValidationMode :=
  match word? v with
  | some "all" => some .all
  | some "none" => some .none
  | _ => Option.none

/-- An unsigned number of 64 bits. -/
def number? : Value → Option Nat
  | .int (.ofNat n) => if n < UInt64.size then some n else none
  | _ => none

/-- A list of texts. -/
def texts? : Value → Option (List String)
  | .array _ items => items.mapM fun
    | .text s => some s
    | _ => none
  | _ => none

/-! ## Sections -/

/-- A setter for each name of a section, in their order. -/
abbrev Fields (α : Type) := List (String × (α → Value → Option α))

/-- The settings of a section: named values, or values in order. -/
def section? {α : Type} (fields : Fields α) (initial : α) : Value → Option α
  | .table _ entries => entries.foldlM (fun settings (name, value) =>
      (fields.lookup name).bind fun set => set settings value) initial
  | .array _ items => (fields.zip items).foldlM (fun settings (field, value) =>
      field.2 settings value) initial
  | _ => none

/-- The names of the parser section. -/
def parserFields : Fields ParserSettings :=
  [("mode", fun s v => (mode? v).map fun mode => { s with mode }),
   ("threads", fun s v => (number? v).map fun threads => { s with threads }),
   ("termination_delay_ms", fun s v =>
     (number? v).map fun terminationDelayMs => { s with terminationDelayMs })]

/-- The names of the build section. -/
def buildFields : Fields BuildSettings :=
  [("validation", fun s v => (validation? v).map fun validation => { s with validation }),
   ("interruption_period_ms", fun s v =>
     (number? v).map fun interruptionPeriodMs => { s with interruptionPeriodMs })]

/-- The names of the workspace section. -/
def folderFields : Fields FolderSettings :=
  [("extensions", fun s v => (texts? v).map fun extensions => { s with extensions }),
   ("exclude", fun s v => (texts? v).map fun exclude => { s with exclude })]

/-- The sections. -/
def sections : Fields Settings :=
  [("parser", fun s v => (section? parserFields s.parser v).map fun parser => { s with parser }),
   ("build", fun s v => (section? buildFields s.build v).map fun build => { s with build }),
   ("workspace", fun s v =>
     (section? folderFields s.workspace v).map fun workspace => { s with workspace })]

/-- **The settings a document gives**, if it is well formed and names
settings only. -/
def parse? (text : String) : Option Settings :=
  (Toml.read? text).bind fun entries => section? sections default (.table .header entries)

end Settings

end Workbench
