import Workbench.Data
import Workbench.Tree.Basic
/-!
# Diagnostics

What is reported about a document: how grave it is, what it says, and where
it is. A code and a payload are for the tools that show it.
-/

namespace Workbench

/-- How grave a diagnostic is. -/
inductive Severity where
  | error
  | warning
  | information
  | hint
deriving DecidableEq, Repr, Inhabited

/-- How a severity is shown to a person. -/
def Severity.render : Severity → String
  | error => "error"
  | warning => "warning"
  | information => "info"
  | hint => "hint"

/-- The name of a severity for other programs. -/
def Severity.tag : Severity → String
  | information => "information"
  | s => s.render

/-- **Something reported about a document.** -/
structure Diagnostic where
  severity : Severity
  message : String
  range : Range
  code : Option String
  data : Option Data
deriving Repr, Inhabited

namespace Diagnostic

/-- A diagnostic without a code and data. -/
def ofMessage (severity : Severity) (message : String) (range : Range) : Diagnostic :=
  ⟨severity, message, range, none, none⟩

/-- The code of errors of the lexer. -/
def lexingError : String := "lexing-error"

/-- The code of errors of the parser. -/
def parsingError : String := "parsing-error"

/-- The code of references that could not be resolved. -/
def linkingError : String := "linking-error"

/-- The code of checks and scope computations that failed themselves. -/
def checkFailed : String := "check-failed"

/-- An error of reading the text. -/
def ofSyntaxError (e : SyntaxError) (code : String) : Diagnostic :=
  ⟨.error, e.message, e.range, some code, none⟩

/-- **A diagnostic as a line**: `name:line:column: severity[code]: message`,
counted from one. -/
def render (d : Diagnostic) (name : String) : String :=
  let code := match d.code with
    | some code => "[" ++ code ++ "]"
    | none => ""
  name ++ ":" ++ toString (d.range.start.line + 1) ++ ":" ++
    toString (d.range.start.character + 1) ++
    ": " ++ d.severity.render ++ code ++ ": " ++ d.message

end Diagnostic

end Workbench
