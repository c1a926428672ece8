import Workbench.Cli.Run
/-!
# The program

Reads what the command line speaks of from the disk, runs the command on
it, and prints what the command prints.
-/

namespace Workbench

namespace Cli

/-- What two readings of a disk found. -/
def Disk.join (d e : Disk) : Disk :=
  { d with files := d.files ++ e.files, folders := d.folders ++ e.folders }

/-- The places on the way of a path, from the folder it starts in to its
end. -/
def Disk.trail (d : Disk) (path : String) : List (List String) :=
  let names := (Text.splitAt '/' path.toList).map String.ofList
  let start := if path.toList.head? = some '/' then [] else d.here
  let step (place : List String) (name : String) : List String :=
    if name = "" ∨ name = "." then place
    else if name = ".." then place.dropLast
    else place ++ [name]
  names.foldl (fun places name => places ++ [step (places.getLastD start) name]) [start]

/-- The paths a command reads. -/
def Command.paths : Command → List String
  | .check folder config _ => folder :: config.toList
  | .dump file _ => [file]
  | .transfer file => [file]

/-- What is said about a command line that is not run. -/
def Usage.text (usage : Usage) : String :=
  "usage: grove [--verbose] check <FOLDER> [--config <PATH>] [--in-process]\n" ++
    "       grove [--verbose] dump <FILE> [--cst]\n" ++
    "       grove [--verbose] transfer <FILE>\n" ++
    match usage with
    | .help => ""
    | .version => ""
    | usage => "(" ++ usage.kind ++ ")\n"

/-- What is said about a command that came to nothing. -/
def Failure.text : Failure → String
  | .usage fault => fault.text
  | .settingsUnreadable message => message ++ "\n"
  | .settingsMalformed => "the settings are not well formed\n"
  | .failed message => message ++ "\n"

/-- The path of a place. -/
def pathOf (place : List String) : String := "/" ++ "/".intercalate place

/-- Reads a file, or all that lies below a folder. -/
partial def survey (place : List String) : IO Disk := do
  let path ← IO.FS.realPath (pathOf place)
  if ← path.isDir then
    let entries ← path.readDir
    entries.foldlM (fun d entry => return d.join (← survey (place ++ [entry.fileName])))
      ⟨[], [place], []⟩
  else
    match ← (IO.FS.readFile path).toBaseIO with
    | .ok text => return ⟨[(place, text)], [], []⟩
    | .error _ => return ⟨[], [], []⟩

/-- Reads what a path leads to, and the folders on its way. -/
def reach (d : Disk) (path : String) : IO Disk := do
  let trail := d.trail path
  let d ← trail.foldlM (fun d place => do
    match ← (IO.FS.realPath (pathOf place)).toBaseIO with
    | .ok real => if ← real.isDir then return d.join ⟨[], [place], []⟩ else return d
    | .error _ => return d) d
  match ← (survey (trail.getLastD d.here)).toBaseIO with
  | .ok found => return d.join found
  | .error _ => return d

end Cli

end Workbench

open Workbench.Cli in
/-- Runs a command line. The exit code is 0 if all is well, 2 if the
command line is wrong, and 1 otherwise. -/
def main (args : List String) : IO UInt32 := do
  let here := ((← IO.currentDir).toString.splitOn "/").filter (· != "")
  let paths := match Arguments.read args with
    | .ok a => a.command.paths
    | .error _ => []
  let d ← paths.foldlM reach ⟨[], [here], here⟩
  match run d args with
  | .ok (_, printed) =>
    (← IO.getStdout).putStr printed.text
    return if printed.ok then 0 else 1
  | .error (.usage .help) => (← IO.getStdout).putStr Usage.help.text; return 0
  | .error (.usage .version) => (← IO.getStdout).putStr "grove\n"; return 0
  | .error (.usage usage) => (← IO.getStderr).putStr usage.text; return 2
  | .error failure => (← IO.getStderr).putStr failure.text; return 1
