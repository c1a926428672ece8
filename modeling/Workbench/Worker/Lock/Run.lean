import Workbench.Worker.Lock.Basic
/-!
# Running the tasks of a lock

A task is run for one step at a time. One that is not held up by anything
goes on at the front of those that are ready; others are woken behind them.
Taking always the first gives the order in which a single thread runs the
tasks; taking any of them gives every order that several threads can bring
about.
-/

namespace Workbench

open Lock

namespace WorkspaceLock

/-- Lets a task go on before all others. -/
def resume (l : WorkspaceLock) (task : Task) : WorkspaceLock := { l with ready := task :: l.ready }

/-! ## The driver -/

/-- Takes the next turn: the first write, or else all reads, or else the
end. A write is called here, and if that panics the driver is gone. -/
def choose (l : WorkspaceLock) : WorkspaceLock :=
  match l.writes, l.reads with
  | t :: rest, _ =>
    let l := { l with writes := rest }
    match l.ticket? t with
    | some ⟨_, _, none, body, _, _, _⟩ =>
      { l.setProgress t (.running body) with driver := .writing t }.wake [.action t]
    | _ => { l.setProgress t .dropped with driver := .absent }
  | [], [] => { l with running := false, driver := .absent }
  | [], reads => { l with reads := [], driver := .reading reads }.wake (reads.map .job)

/-- Whether nothing more happens to an action. -/
def isOver (l : WorkspaceLock) (t : Nat) : Bool := (l.ticket? t).any (·.progress.isOver)

/-- **One step of the driver.** -/
def runDriver (l : WorkspaceLock) : WorkspaceLock :=
  match l.driver with
  | .absent => l
  | .choosing => l.choose
  | .writing t =>
    match (l.ticket? t).map Ticket.progress with
    | some (.ended outcome) =>
      { l.setProgress t (.resolved outcome) with driver := .choosing }.resume .driver
    | _ => l
  | .reading tickets =>
    match tickets.filter (!l.isOver ·) with
    | [] => { l with driver := .choosing }.resume .driver
    | left => { l with driver := .reading left }

/-- Lets the driver know that a read is over. -/
def readIsOver (l : WorkspaceLock) (kind : Kind) : WorkspaceLock :=
  if kind = .read then l.wakeDriver else l

/-- **One step of a job**: the action is called, or its end reported. -/
def runJob (l : WorkspaceLock) (t : Nat) : WorkspaceLock :=
  match l.ticket? t with
  | none => l
  | some ticket =>
    match ticket.progress, ticket.refusal with
    | .waiting, none => (l.setProgress t (.running ticket.body)).wake [.action t]
    | .waiting, some _ => (l.setProgress t .dropped).readIsOver ticket.kind
    | .ended outcome, _ => (l.setProgress t (.resolved outcome)).readIsOver ticket.kind
    | _, _ => l

/-! ## Actions -/

/-- Ends an action and wakes whoever waits for its end. -/
def endAction (l : WorkspaceLock) (t : Nat) (kind : Kind) (outcome : Outcome) : WorkspaceLock :=
  let l := l.setProgress t (.ended outcome)
  if kind = .write then l.wakeDriver else l.wake [.job t]

/-- Holds an action up. -/
def block (l : WorkspaceLock) (t : Nat) (wait : Wait) : WorkspaceLock :=
  { l with blocked := l.blocked ++ [(t, wait)] }

/-- **One step of an action.** Reads have no token: they neither fail nor
wait for its sake. -/
def runAct (l : WorkspaceLock) (t : Nat) (ticket : Ticket) (act : Act) (rest : List Act) :
    WorkspaceLock :=
  let on (l : WorkspaceLock) : WorkspaceLock :=
    (l.setProgress t (.running rest)).resume (.action t)
  let finish (outcome : Outcome) : WorkspaceLock := l.endAction t ticket.kind outcome
  match act with
  | .log text => on { l with log := l.log ++ [⟨ticket.kind, ticket.label, text⟩] }
  | .pass gate => if l.gates.contains gate then on l else l.block t (.gate gate)
  | .openGate gate => on (l.openGate gate)
  | .check => if ticket.kind = .write ∧ ticket.cancelled then finish (.failed .cancelled) else on l
  | .awaitCancel => if ticket.kind = .write ∧ !ticket.cancelled then l.block t .token else on l
  | .cancelWrite => on l.cancelWrite
  | .fail cause => finish (.failed cause)
  | .panic message => finish (.panicked message)
  | .finish value => finish (.ok value)
  | .submit kind label refusal body => on (l.submit kind label refusal body)

/-- Runs an action for one step; at its end it gives zero. -/
def runAction (l : WorkspaceLock) (t : Nat) : WorkspaceLock :=
  match l.ticket? t with
  | some ticket =>
    match ticket.progress with
    | .running [] => l.endAction t ticket.kind (.ok 0)
    | .running (act :: rest) => l.runAct t ticket act rest
    | _ => l
  | none => l

/-! ## Any order, and the order of one thread -/

/-- **Runs the task at a place among those that are ready.** -/
def step (l : WorkspaceLock) (place : Nat) : Option WorkspaceLock :=
  match l.ready[place]? with
  | none => none
  | some task =>
    let l := { l with ready := l.ready.eraseIdx place }
    some (match task with
      | .driver => l.runDriver
      | .job t => l.runJob t
      | .action t => l.runAction t)

mutual

/-- More steps than a step of an action can lead to. -/
def weight : Act → Nat
  | .submit _ _ _ body => 12 + weights body
  | _ => 2

/-- More steps than the steps of an action can lead to. -/
def weights : List Act → Nat
  | [] => 0
  | act :: rest => weight act + weights rest

end

/-- Always runs the first task, for at most `n` steps. -/
def runFirst : Nat → WorkspaceLock → WorkspaceLock
  | 0, l => l
  | n + 1, l =>
    match l.step 0 with
    | some l => runFirst n l
    | none => l

/-- More steps than are left to run. -/
def stepsLeft (l : WorkspaceLock) : Nat :=
  l.tickets.foldl (fun total ticket => total + 12 + match ticket.progress with
    | .waiting => weights ticket.body
    | .running rest => weights rest
    | _ => 0) 4

/-- **Runs until nothing can go on.** -/
def settle (l : WorkspaceLock) : WorkspaceLock := runFirst l.stepsLeft l

/-! ## The log -/

/-- Puts the entries of reads that stand together in the order of their
labels: reads run side by side, and their order says nothing. -/
def sortReads : List Entry → List Entry → List Entry
  | [], reads => reads.mergeSort fun a b => !(decide (b.label < a.label))
  | entry :: rest, reads =>
    if entry.kind = .write then
      (reads.mergeSort fun a b => !(decide (b.label < a.label))) ++ entry :: sortReads rest []
    else sortReads rest (reads ++ [entry])

/-- The log so far, and a lock whose log is empty. -/
def takeLog (l : WorkspaceLock) : List String × WorkspaceLock :=
  ((sortReads l.log []).map Entry.render, { l with log := [] })

end WorkspaceLock

/-! ## What callers see -/

namespace Lock

/-- The message of an action that was given up. -/
def droppedMessage : String := "locked action was dropped before completing"

/-- What a caller is told of a failed action. -/
def Outcome.message : Outcome → String
  | ok _ => ""
  | failed cause => cause.text
  | panicked message => "locked action panicked: " ++ message

/-- Whether an action failed because it was cancelled. -/
def Outcome.isCancelled : Outcome → Bool
  | failed cause => cause.isCancelled
  | _ => false

end Lock

end Workbench
