/-!
# The command line

What the words of a command line ask for, or what is wrong with them. A
word that starts with a dash is a flag, unless it stands behind `--`; all
others are the names of a command and of what it works on. `--verbose` can
stand before and behind the name of the command.
-/

namespace Workbench

namespace Cli

/-- What is wrong with a command line, or what is asked for instead of a
command. -/
inductive Usage where
  | help
  | version
  /-- There are no words at all. -/
  | helpForNothing
  | missingCommand
  | unknownCommand
  | unknownArgument
  | missingArgument
  /-- A flag that needs a value has none. -/
  | missingValue
  /-- A flag that takes no value has one. -/
  | needlessValue
  /-- A flag stands twice. -/
  | repeated
deriving DecidableEq, Repr, Inhabited

/-- The kind of a usage, for tools. -/
def Usage.kind : Usage → String
  | help => "DisplayHelp"
  | version => "DisplayVersion"
  | helpForNothing => "DisplayHelpOnMissingArgumentOrSubcommand"
  | missingCommand => "MissingSubcommand"
  | unknownCommand => "InvalidSubcommand"
  | unknownArgument => "UnknownArgument"
  | missingArgument => "MissingRequiredArgument"
  | missingValue => "InvalidValue"
  | needlessValue => "TooManyValues"
  | repeated => "ArgumentConflict"

/-- The commands. -/
inductive Command where
  /-- Builds every document below a folder and prints the diagnostics. -/
  | check (folder : String) (config : Option String) (inProcess : Bool)
  /-- Prints the tree of a file. -/
  | dump (file : String) (cst : Bool)
  /-- Sends the tree of a file through the wire format and back. -/
  | transfer (file : String)
deriving DecidableEq, Repr, Inhabited

/-- A command line. -/
structure Arguments where
  verbose : Bool
  command : Command
deriving DecidableEq, Repr, Inhabited

/-- The flags. -/
inductive Flag where
  | verbose
  | help
  | version
  | config
  | inProcess
  | cst
deriving DecidableEq, Repr, Inhabited

/-- The names of flags, long and short. -/
def Flag.names : Flag → String × Option Char
  | verbose => ("verbose", some 'v')
  | help => ("help", some 'h')
  | version => ("version", some 'V')
  | config => ("config", none)
  | inProcess => ("in-process", none)
  | cst => ("cst", none)

/-- A word that was read and not yet looked at. -/
inductive Pending where
  | nothing
  /-- The flag `--config`, and its value once that has come. -/
  | config (value : Option String)
  /-- What the command works on. -/
  | operand (text : String)
deriving DecidableEq, Repr, Inhabited

/-- What was read of a command line. -/
structure Scan where
  seen : List Flag
  config : Option String
  pending : Pending
  /-- What the command works on. -/
  operand : Option String
  /-- Whether there was a word for the operand. -/
  filled : Bool
  /-- Whether flags are over. -/
  trailing : Bool
deriving DecidableEq, Repr, Inhabited

/-- Nothing was read yet. -/
def Scan.start : Scan := ⟨[], none, .nothing, none, false, false⟩

namespace Scan

/-- Takes in the value of `--config`, which stands once and is not empty. -/
def setConfig (s : Scan) (text : String) : Except Usage Scan :=
  if s.config.isSome then .error .repeated
  else if text.isEmpty then .error .missingValue
  else .ok { s with config := some text }

/-- **Looks at the word that is pending.** This is put off until the next
flag, operand or the end, so that a flag that is not known is found
first. -/
def settle (s : Scan) : Except Usage Scan :=
  match s.pending with
  | .nothing => .ok s
  | .config none => .error .missingValue
  | .config (some text) => { s with pending := .nothing }.setConfig text
  | .operand text =>
    if text.isEmpty then .error .missingValue
    else .ok { s with pending := .nothing, operand := some text }

/-- Takes in a flag that stands without a value. -/
def flag (s : Scan) (f : Flag) : Except Usage Scan := do
  let s ← s.settle
  match f with
  | .help => throw .help
  | .version => throw .version
  | .config => return { s with pending := .config none }
  | f => if s.seen.contains f then throw .repeated else return { s with seen := f :: s.seen }

/-- Takes in flags that are single letters. -/
def letters (flags : List Flag) : List Char → Scan → Except Usage Scan
  | [], s => .ok s
  | c :: rest, s =>
    match flags.find? (·.names.2 == some c) with
    | none => .error .unknownArgument
    | some f => (s.flag f).bind (letters flags rest)

/-- Takes in a flag with a long name, and a value that may follow a `=`. -/
def long (flags : List Flag) (cs : List Char) (s : Scan) : Except Usage Scan :=
  let name := String.ofList (cs.takeWhile (· != '='))
  match flags.find? (·.names.1 == name), cs.dropWhile (· != '=') with
  | none, _ => .error .unknownArgument
  | some f, [] => s.flag f
  | some .config, _ :: text => s.settle.bind (·.setConfig (String.ofList text))
  | some _, _ => .error .needlessValue

/-- A word that is a flag or something else. -/
inductive Word where
  | separator
  | long (cs : List Char)
  | letters (cs : List Char)
  | plain (text : String)
deriving DecidableEq, Repr, Inhabited

/-- What a word is. -/
def Word.ofString (text : String) : Word :=
  match text.toList with
  | ['-', '-'] => separator
  | '-' :: '-' :: cs => long cs
  | '-' :: c :: cs => letters (c :: cs)
  | _ => plain text

/-- Takes in what a command works on; there is one such thing. -/
def takeOperand (s : Scan) (text : String) : Except Usage Scan :=
  if s.filled then .error .unknownArgument
  else s.settle.map fun s => { s with pending := .operand text, filled := true }

/-- Takes in a word behind the name of a command. -/
def word (flags : List Flag) (s : Scan) (text : String) : Except Usage Scan :=
  if s.trailing then s.takeOperand text
  else
    match Word.ofString text with
    | .separator => .ok { s with trailing := true }
    | .long cs => s.long flags cs
    | .letters cs => s.letters flags cs
    | .plain text =>
      if s.pending = .config none then .ok { s with pending := .config (some text) }
      else s.takeOperand text

/-- Reads the words behind the name of a command. -/
def words (flags : List Flag) (args : List String) : Except Usage (Scan × String) := do
  let s ← (← args.foldlM (word flags) .start).settle
  match s.operand with
  | none => throw .missingArgument
  | some operand => return (s, operand)

end Scan

/-- The names of the commands. -/
def commandNames : List String := ["check", "dump", "transfer", "help"]

/-- Asks for help about a command that is named; commands have none below
them. -/
def helpFor : List String → Usage
  | [] => .help
  | [name] => if commandNames.contains name then .help else .unknownCommand
  | _ => .unknownCommand

/-- Reads a command, given its name and the words behind it. -/
def readCommand (name : String) (args : List String) : Except Usage Arguments := do
  match name with
  | "check" =>
    let (s, folder) ← Scan.words [.verbose, .help, .config, .inProcess] args
    return ⟨s.seen.contains .verbose, .check folder s.config (s.seen.contains .inProcess)⟩
  | "dump" =>
    let (s, file) ← Scan.words [.verbose, .help, .cst] args
    return ⟨s.seen.contains .verbose, .dump file (s.seen.contains .cst)⟩
  | "transfer" =>
    let (s, file) ← Scan.words [.verbose, .help] args
    return ⟨s.seen.contains .verbose, .transfer file⟩
  | "help" => throw (helpFor args)
  | _ => throw .unknownCommand

/-- Reads a command line after some of its words. -/
def readFrom : Scan → List String → Except Usage Arguments
  | s, [] => .error (if s.seen.isEmpty then .helpForNothing else .missingCommand)
  | s, text :: rest =>
    if s.trailing then
      .error (if commandNames.contains text then .unknownArgument else .unknownCommand)
    else
      match Scan.Word.ofString text with
      | .separator => readFrom { s with trailing := true } rest
      | .long cs => (s.long [.verbose, .help, .version] cs).bind (readFrom · rest)
      | .letters cs => (s.letters [.verbose, .help, .version] cs).bind (readFrom · rest)
      | .plain text =>
        (readCommand text rest).map fun a =>
          { a with verbose := a.verbose || s.seen.contains .verbose }

/-- **Reads a command line.** -/
def Arguments.read (args : List String) : Except Usage Arguments := readFrom .start args

end Cli

end Workbench
