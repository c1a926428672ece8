import Workbench.Options
import Workbench.Parse.Basic
import Workbench.Transfer.Flatten
import Workbench.Transfer.Rebuild
/-!
# Parser services

A text is parsed where it is asked for, or by a worker. What a worker has
parsed is sent as a stream and built up again on the other side. A parser
that breaks down takes its caller with it, or only its worker.
-/

namespace Workbench

/-- Why a request to parse was turned down. -/
inductive ParseFault where
  | cancelled
  /-- The worker broke down. -/
  | crashed (worker message : String)
  /-- No worker could be started. -/
  | unstarted (message : String)
  /-- The stream of the worker could not be built up. -/
  | garbled (error : Transfer.RebuildError)
  | invalidEntry (name : String)
  /-- The parser broke down in the caller's place. -/
  | panicked (message : String)
  /-- The parser would not come to an end. -/
  | endless
deriving DecidableEq, Repr, Inhabited

/-- The text of a fault. -/
def ParseFault.message : ParseFault → String
  | cancelled => cancelledMessage
  | crashed worker message => "parser worker " ++ worker ++ " crashed: " ++ message
  | unstarted message => "failed to spawn parser worker: " ++ message
  | garbled error => error.message
  | invalidEntry name => (Parse.Abort.invalidEntry name).message
  | panicked message => message
  | endless => Parse.Abort.endless.message

/-- The kind of a fault, for tools. -/
def ParseFault.kind : ParseFault → String
  | cancelled => "Cancelled"
  | crashed _ _ => "WorkerCrashed"
  | unstarted _ => "Spawn"
  | garbled _ => "Reassemble"
  | invalidEntry _ => "InvalidEntry"
  | panicked _ => "Panic"
  | endless => "Panic"

/-- The fault of a parse that was given up. -/
def ParseFault.ofAbort : Parse.Abort → ParseFault
  | .cancelled => cancelled
  | .invalidEntry name => invalidEntry name
  | .endless => endless

/-- The worker of a slot. -/
def workerName (slot : Nat) : String := "grove-parser-" ++ toString slot

/-- A parser and the place where it runs. -/
structure ParserService where
  grammar : Grammar
  mode : ParserMode
  /-- The texts on which the parser breaks down, with its last words. -/
  breaksOn : String → Option String

namespace ParserService

/-- A parser that never breaks down. -/
def ofGrammar (grammar : Grammar) (mode : ParserMode) : ParserService :=
  ⟨grammar, mode, fun _ => none⟩

/-- Parses a text in the caller's place. -/
def parseHere (p : ParserService) (text : String) (entry : Option String) (interrupt : Interrupt) :
    Except ParseFault (ParseResult × Interrupt) :=
  match p.breaksOn text with
  | some message => .error (.panicked message)
  | none => (p.grammar.parse text entry interrupt).mapError ParseFault.ofAbort

/-- What arrives of a tree that a worker sends. -/
def receive (g : Grammar) (result : ParseResult) : Except ParseFault ParseResult :=
  (Transfer.rebuild g (Transfer.flatten result)).mapError ParseFault.garbled

/-- **Parses a text.** Requests come one at a time, so that the worker of
slot 0 is the only one there ever is. -/
def parse (p : ParserService) (text : String) (entry : Option String) (interrupt : Interrupt) :
    Except ParseFault (ParseResult × Interrupt) :=
  match interrupt.check with
  | none => .error .cancelled
  | some left =>
    match p.mode, p.parseHere text entry left with
    | .inProcess, outcome => outcome
    | .worker, .ok (result, left) => (receive p.grammar result).map fun copy => (copy, left)
    | .worker, .error (.panicked message) => .error (.crashed (workerName 0) message)
    | .worker, .error fault => .error fault

end ParserService

end Workbench
