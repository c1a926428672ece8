import Workbench.Worker.Pool.Basic
/-!
# Running a pool

Everything that can happen in a pool happens, until all that is left are
requests that wait for a worker or whose worker does not answer. The time
of a worker that was told to stop is up when nothing else can happen to its
request.
-/

namespace Workbench

namespace Pool

/-- What workers answer: the reply to a job, given whether it was cancelled;
none as long as the worker goes on working. -/
abbrev Answers := Job → Bool → Option WorkerReply

/-- What happens next to a request whose worker is at work. -/
def nextOfWorker? (answers : Answers) (w : Worker) (otherwise : Option Event) : Option Event :=
  match w.running, w.jobs with
  | none, _ :: _ => some (.begin w.slot)
  | some job, _ =>
    match answers job w.flagged with
    | some reply => some (.answer w.slot reply)
    | none => otherwise
  | none, [] => otherwise

/-- What happens next to a request. -/
def nextOf? (answers : Answers) (r : Nat) (request : Request) : Option Event :=
  match request.phase with
  | .waiting => if request.cancelled then some (.notice r) else none
  | .starting _ => some (.started r)
  | .handed _ => if request.cancelled then some (.notice r) else some (.take r)
  | .held _ => some (.send r)
  | .parsing w =>
    if w.replies.isEmpty then
      nextOfWorker? answers w (if request.cancelled then some (.notice r) else none)
    else some (.receive r)
  | .ending w =>
    if w.replies.isEmpty then nextOfWorker? answers w (some (.expire r)) else some (.receive r)
  | .leaving _ _ => some (.leave r)
  | .done _ => none
  | .dropped => none

/-- **What happens next.** -/
def nextEvent? (p : Pool) (answers : Answers) : Option Event :=
  match p.dropping, p.restarting with
  | slot :: _, _ => some (.freed slot)
  | [], slot :: _ => some (.restarted slot)
  | [], [] => p.requests.zipIdx.findSome? fun (request, r) => nextOf? answers r request

/-- Lets at most `n` things happen. -/
def run (answers : Answers) : Nat → Pool → Pool
  | 0, p => p
  | n + 1, p =>
    match p.nextEvent? answers with
    | some e => run answers n (p.step e)
    | none => p

/-- **Lets everything happen that can.** -/
def settle (p : Pool) (answers : Answers) : Pool :=
  run answers (16 * (p.requests.length + p.dropping.length + p.restarting.length + 1)) p

end Pool

end Workbench
