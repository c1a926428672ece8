import Workbench.CancelToken
/-!
# The lock of a workspace

Writes run one at a time in the order they came. A new write cancels the
token of the one before it, so that only the newest write is expected to
finish its work. Reads wait until no write is left; all reads that are
waiting are then let go together. An immediate read waits for nothing.

The lock is drained by a driver, which is started when something comes and
no driver is running. This file has what is submitted to a lock and the
state of a lock together with the tasks it has started.
-/

namespace Workbench

namespace Lock

/-- The ways to submit an action. -/
inductive Kind where
  | write
  | read
  /-- A read that waits for nothing. -/
  | immediate
deriving DecidableEq, Repr, Inhabited

/-- One step of an action. -/
inductive Act where
  /-- Writes to the log. -/
  | log (text : String)
  /-- Waits until a gate is open. -/
  | pass (gate : String)
  /-- Opens a gate for good. -/
  | openGate (gate : String)
  /-- Fails if the write was cancelled. -/
  | check
  /-- Waits until the write is cancelled. -/
  | awaitCancel
  /-- Cancels the newest write. -/
  | cancelWrite
  | fail (cause : Cause)
  | panic (message : String)
  | finish (value : Int)
  /-- Submits another action; `refusal` is what it panics with when it is
  called, before it has done anything. -/
  | submit (kind : Kind) (label : String) (refusal : Option String) (body : List Act)
deriving Inhabited

/-- How an action ends. -/
inductive Outcome where
  | ok (value : Int)
  | failed (cause : Cause)
  | panicked (message : String)
deriving Inhabited

/-- How far an action has come. -/
inductive Progress where
  /-- It was not called. -/
  | waiting
  /-- It is under way, with these steps left. -/
  | running (rest : List Act)
  /-- It has ended and its caller does not know. -/
  | ended (outcome : Outcome)
  /-- Its caller knows how it ended. -/
  | resolved (outcome : Outcome)
  /-- It was given up, and its caller will never know how it would have
  ended. -/
  | dropped
deriving Inhabited

/-- Whether nothing more happens to an action. -/
def Progress.isOver : Progress → Bool
  | resolved _ => true
  | dropped => true
  | _ => false

/-- **A submitted action.** -/
structure Ticket where
  kind : Kind
  label : String
  refusal : Option String
  body : List Act
  /-- Whether its token was cancelled. -/
  cancelled : Bool
  /-- Whether its caller still wants to know how it ends. -/
  awaited : Bool
  progress : Progress
deriving Inhabited

/-- Something that can be run for a while. Actions are known by the number
of those submitted before them. -/
inductive Task where
  | driver
  /-- Calls an action that is not a write, and reports its end. -/
  | job (ticket : Nat)
  | action (ticket : Nat)
deriving DecidableEq, Repr, Inhabited

/-- What the driver is at. -/
inductive Driver where
  /-- There is none. -/
  | absent
  | choosing
  | writing (ticket : Nat)
  | reading (tickets : List Nat)
deriving DecidableEq, Repr, Inhabited

/-- What an action waits for. -/
inductive Wait where
  | gate (name : String)
  /-- Its own cancellation. -/
  | token
deriving DecidableEq, Repr, Inhabited

/-- An entry of the log. -/
structure Entry where
  kind : Kind
  label : String
  text : String
deriving DecidableEq, Repr, Inhabited

/-- How an entry is shown. -/
def Entry.render (e : Entry) : String := e.label ++ ":" ++ e.text

end Lock

open Lock

/-- **A lock and the tasks it has started.** -/
structure WorkspaceLock where
  /-- The writes that wait. -/
  writes : List Nat
  /-- The reads that wait. -/
  reads : List Nat
  /-- Whether a driver was started and has not said that it is done. -/
  running : Bool
  /-- The write that came last. -/
  newest : Option Nat
  tickets : List Ticket
  driver : Driver
  /-- The tasks that can go on, in the order they came to be so. -/
  ready : List Task
  /-- The actions that wait for something. -/
  blocked : List (Nat × Wait)
  gates : List String
  log : List Entry
deriving Inhabited

namespace WorkspaceLock

/-- A lock that nothing was submitted to. -/
def empty : WorkspaceLock := ⟨[], [], false, none, [], .absent, [], [], [], []⟩

/-- A lock in short. -/
def describe (l : WorkspaceLock) : String :=
  "WorkspaceLock \x7b writes: " ++ toString l.writes.length ++ ", reads: " ++
    toString l.reads.length ++ ", running: " ++ (if l.running then "true" else "false") ++ " \x7d"

/-- The ticket of a number. -/
def ticket? (l : WorkspaceLock) (t : Nat) : Option Ticket := l.tickets[t]?

/-- Changes a ticket. -/
def modifyTicket (l : WorkspaceLock) (t : Nat) (f : Ticket → Ticket) : WorkspaceLock :=
  { l with tickets := l.tickets.modify t f }

/-- Says how far an action has come. -/
def setProgress (l : WorkspaceLock) (t : Nat) (progress : Progress) : WorkspaceLock :=
  l.modifyTicket t fun ticket => { ticket with progress }

/-- Puts tasks behind those that can go on. -/
def wake (l : WorkspaceLock) (tasks : List Task) : WorkspaceLock :=
  { l with ready := l.ready ++ tasks }

/-- Lets the driver go on, if it is not about to. -/
def wakeDriver (l : WorkspaceLock) : WorkspaceLock :=
  if l.ready.contains .driver then l else l.wake [.driver]

/-- Lets the actions go on that waited for something. -/
def unblock (l : WorkspaceLock) (met : Nat × Wait → Bool) : WorkspaceLock :=
  { l with
    blocked := l.blocked.filter (!met ·)
    ready := l.ready ++ (l.blocked.filter met).map fun (t, _) => .action t }

/-- Opens a gate. -/
def openGate (l : WorkspaceLock) (gate : String) : WorkspaceLock :=
  { l.unblock (·.2 == .gate gate) with gates := gate :: l.gates }

/-- Cancels the token of a write. -/
def cancel (l : WorkspaceLock) (t : Nat) : WorkspaceLock :=
  (l.modifyTicket t fun ticket => { ticket with cancelled := true }).unblock (· == (t, .token))

/-- **Cancels the newest write.** -/
def cancelWrite (l : WorkspaceLock) : WorkspaceLock :=
  match l.newest with
  | some t => l.cancel t
  | none => l

/-- Lets go of the tickets with a label; their actions run all the same. -/
def forget (l : WorkspaceLock) (label : String) : WorkspaceLock :=
  { l with tickets := l.tickets.map fun ticket =>
      if ticket.label = label then { ticket with awaited := false } else ticket }

/-- Starts a driver if none is running. -/
def ensureDriver (l : WorkspaceLock) : WorkspaceLock :=
  if l.running then l
  else { l with running := true, driver := .choosing, ready := l.ready ++ [.driver] }

/-- **Submits an action.** A write cancels the one before it. -/
def submit (l : WorkspaceLock) (kind : Kind) (label : String) (refusal : Option String)
    (body : List Act) : WorkspaceLock :=
  let t := l.tickets.length
  let ticket := Ticket.mk kind label refusal body false true .waiting
  let l := { l with tickets := l.tickets ++ [ticket] }
  match kind with
  | .write => { l.cancelWrite with newest := some t, writes := l.writes ++ [t] }.ensureDriver
  | .read => { l with reads := l.reads ++ [t] }.ensureDriver
  | .immediate => l.wake [.job t]

end WorkspaceLock

end Workbench
