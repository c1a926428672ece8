import Workbench.Worker.Registry
import Workbench.Worker.Service
/-!
# The pool of parser workers

A pool has a fixed number of slots, each for one worker. A request takes an
idle worker, or starts one in a free slot, or waits. It sends its job over
the worker's job channel and takes the reply from the worker's reply
channel; the worker is then handed to the request that has waited longest,
or becomes idle.

A request that is cancelled tells its worker so, and gives it some time to
answer. A worker that does not, or that crashes, or whose request is dropped
while it works, is dropped itself, and its slot is freed. If somebody waits
then, a new worker is started in the slot at once.

What is kept under the lock of the pool are its idle workers, free slots and
waiters. Each function below takes that lock once at most, so that anything
can happen between two of them.
-/

namespace Workbench

namespace Pool

/-- What a request asks of a worker. -/
structure Job where
  /-- The number of the request. -/
  request : Nat
  text : String
  entry : Option String
deriving DecidableEq, Repr, Inhabited

/-- What a worker answers. -/
inductive WorkerReply where
  | parsed (result : ParseResult)
  | cancelled
  | invalidEntry (name : String)
  | crashed (message : String)
deriving DecidableEq, Repr, Inhabited

/-- What a worker answers when its parse has come to an end. -/
def WorkerReply.ofParse? : Except ParseFault (ParseResult × Interrupt) → Option WorkerReply
  | .ok (result, _) => some (.parsed result)
  | .error (.invalidEntry name) => some (.invalidEntry name)
  | .error .cancelled => some .cancelled
  | .error .endless => none
  | .error fault => some (.crashed fault.message)

/-- A worker with its channels. -/
structure Worker where
  slot : Nat
  /-- Its job channel. -/
  jobs : List Job
  /-- The job it works on. -/
  running : Option Job
  /-- Its reply channel; each reply with the request of its job. -/
  replies : List (Nat × WorkerReply)
  /-- Whether it was told that its job is cancelled. -/
  flagged : Bool
deriving DecidableEq, Repr, Inhabited

/-- How far a request has come. -/
inductive Phase where
  /-- It waits for a worker. -/
  | waiting
  /-- A worker is started for it. -/
  | starting (slot : Nat)
  /-- A worker was handed to it that it has not taken. -/
  | handed (worker : Worker)
  /-- It has a worker, to which it is about to send its job. -/
  | held (worker : Worker)
  | parsing (worker : Worker)
  /-- It was cancelled, and its worker has some time to answer. -/
  | ending (worker : Worker)
  /-- It knows its outcome, and is about to hand its worker on. -/
  | leaving (worker : Worker) (outcome : Except ParseFault ParseResult)
  | done (outcome : Except ParseFault ParseResult)
  /-- It was dropped by its caller. -/
  | dropped
deriving Repr, Inhabited

/-- A request to parse a text. -/
structure Request where
  text : String
  entry : Option String
  /-- Whether its token was cancelled. -/
  cancelled : Bool
  phase : Phase
deriving Repr, Inhabited

/-- Whether a request waits for a worker. -/
def Request.isWaiting (r : Request) : Bool :=
  match r.phase with
  | .waiting => true
  | _ => false

end Pool

open Pool

/-- **A pool of parser workers.** Requests are known by their numbers. -/
structure Pool where
  grammar : Grammar
  /-- The workers without a job, the one that was last at work first. -/
  idle : List Worker
  /-- The slots without a worker, the one to be taken next first. -/
  freeSlots : List Nat
  /-- Slots in which a worker is started for whoever waits. -/
  restarting : List Nat
  /-- Slots of workers that are being dropped. -/
  dropping : List Nat
  /-- The requests that have waited, the oldest first; some have given up. -/
  waiters : List Nat
  requests : List Request
  registry : WorkerRegistry
  /-- The number of workers ever started. -/
  generations : Nat

namespace Pool

/-- A pool without workers. There is at least one slot. -/
def ofThreads (grammar : Grammar) (threads : Nat) : Pool :=
  { grammar
    idle := []
    freeSlots := List.range (max threads 1)
    restarting := []
    dropping := []
    waiters := []
    requests := []
    registry := .empty
    generations := 0 }

/-- The request of a number. -/
def request? (p : Pool) (r : Nat) : Option Request := p.requests[r]?

/-- Whether a request can still be handed a worker. -/
def waits (p : Pool) (r : Nat) : Bool := (p.request? r).any Request.isWaiting

/-- Says how far a request has come. -/
def setPhase (p : Pool) (r : Nat) (phase : Phase) : Pool :=
  { p with requests := p.requests.modify r fun request => { request with phase } }

/-- Ends a request. -/
def finish (p : Pool) (r : Nat) (outcome : Except ParseFault ParseResult) : Pool :=
  p.setPhase r (.done outcome)

/-- Changes what is known about the worker of a slot. -/
def setRecord (p : Pool) (slot : Nat) (f : WorkerRecord → WorkerRecord) : Pool :=
  { p with registry := p.registry.update (workerName slot) f }

/-! ## Workers -/

/-- A worker as it is started. -/
def Worker.fresh (slot : Nat) : Worker := ⟨slot, [], none, [], false⟩

/-- Starts a worker in a slot. -/
def startWorker (p : Pool) (slot : Nat) : Worker × Pool :=
  let name := workerName slot
  let generation := p.generations + 1
  let registry := match p.registry.get? name with
    | some _ => p.registry.update name fun record =>
      { record with generation, restarts := record.restarts + 1 }
    | none => p.registry.upsert ⟨name, .cpuBlocking, generation, 0, 0, none⟩
  (.fresh slot, { p with registry, generations := generation })

/-- **Hands a worker on**: to the oldest request that still waits, or to the
idle ones. -/
def handOn (p : Pool) (w : Worker) : Pool :=
  let p := p.setRecord w.slot fun record => { record with pending := 0 }
  let w := { w with flagged := false }
  match p.waiters.dropWhile fun r => !p.waits r with
  | r :: rest => { p with waiters := rest }.setPhase r (.handed w)
  | [] => { p with waiters := [], idle := w :: p.idle }

/-- Drops a worker and says why. -/
def discard (p : Pool) (w : Worker) (reason : String) : Pool :=
  { p.setRecord w.slot fun record => { record with pending := 0, lastExit := some reason } with
    dropping := p.dropping ++ [w.slot] }

/-! ## Requests -/

/-- **A request arrives.** One whose token is cancelled is turned down at
once. -/
def arrive (p : Pool) (text : String) (entry : Option String) (cancelled : Bool) : Pool :=
  let r := p.requests.length
  let join (p : Pool) (phase : Phase) : Pool :=
    { p with requests := p.requests ++ [⟨text, entry, cancelled, phase⟩] }
  if cancelled then join p (.done (.error .cancelled))
  else
    match p.idle, p.freeSlots with
    | w :: idle, _ => join { p with idle } (.held w)
    | [], slot :: freeSlots => join { p with freeSlots } (.starting slot)
    | [], [] => { join p .waiting with waiters := p.waiters ++ [r] }

/-- The token of a request is cancelled. -/
def cancel (p : Pool) (r : Nat) : Pool :=
  { p with requests := p.requests.modify r fun request => { request with cancelled := true } }

/-- The worker started for a request is there. -/
def started (p : Pool) (r : Nat) : Pool :=
  match (p.request? r).map Request.phase with
  | some (.starting slot) =>
    let (w, p) := p.startWorker slot
    p.setPhase r (.held w)
  | _ => p

/-- No worker could be started for a request. -/
def unstarted (p : Pool) (r : Nat) (message : String) : Pool :=
  match (p.request? r).map Request.phase with
  | some (.starting slot) =>
    { p.finish r (.error (.unstarted message)) with freeSlots := slot :: p.freeSlots }
  | _ => p

/-- A request takes the worker it was handed. -/
def take (p : Pool) (r : Nat) : Pool :=
  match (p.request? r).map Request.phase with
  | some (.handed w) => p.setPhase r (.held w)
  | _ => p

/-- A request sends its job to its worker. -/
def sendJob (p : Pool) (r : Nat) : Pool :=
  match p.request? r with
  | some ⟨text, entry, _, .held w⟩ =>
    let w := { w with jobs := w.jobs ++ [⟨r, text, entry⟩] }
    (p.setPhase r (.parsing w)).setRecord w.slot fun record => { record with pending := 1 }
  | _ => p

/-- What is said of a worker whose thread is gone. -/
def exited : String := "worker thread exited"

/-- The fault of a request whose worker crashed. -/
def crash (w : Worker) (message : String) : ParseFault := .crashed (workerName w.slot) message

/-- A request finds nobody to send its job to. -/
def unsent (p : Pool) (r : Nat) : Pool :=
  match (p.request? r).map Request.phase with
  | some (.held w) => (p.finish r (.error (crash w exited))).discard w exited
  | _ => p

/-- A request notices that it was cancelled. -/
def noticeCancel (p : Pool) (r : Nat) : Pool :=
  match p.request? r with
  | some ⟨_, _, true, .waiting⟩ => p.finish r (.error .cancelled)
  | some ⟨_, _, true, .handed w⟩ => p.setPhase r (.leaving w (.error .cancelled))
  | some ⟨_, _, true, .parsing w⟩ => p.setPhase r (.ending { w with flagged := true })
  | _ => p

/-- A request takes a reply of its worker. -/
def receive (p : Pool) (r : Nat) : Pool :=
  match (p.request? r).map Request.phase with
  | some (.parsing ⟨slot, jobs, running, (_, reply) :: replies, flagged⟩) =>
    let w : Worker := ⟨slot, jobs, running, replies, flagged⟩
    match reply with
    | .parsed result => p.setPhase r (.leaving w (ParserService.receive p.grammar result))
    | .cancelled => p.setPhase r (.leaving w (.error .cancelled))
    | .invalidEntry name => p.setPhase r (.leaving w (.error (.invalidEntry name)))
    | .crashed message => (p.finish r (.error (crash w message))).discard w message
  | some (.ending ⟨slot, jobs, running, (_, reply) :: replies, flagged⟩) =>
    let w : Worker := ⟨slot, jobs, running, replies, flagged⟩
    match reply with
    | .crashed message => (p.finish r (.error .cancelled)).discard w message
    | _ => p.setPhase r (.leaving w (.error .cancelled))
  | _ => p

/-- A request finds that its worker is gone and has left no reply. -/
def lost (p : Pool) (r : Nat) : Pool :=
  match (p.request? r).map Request.phase with
  | some (.parsing w) =>
    if w.replies.isEmpty then (p.finish r (.error (crash w exited))).discard w exited else p
  | some (.ending w) =>
    if w.replies.isEmpty then (p.finish r (.error .cancelled)).discard w exited else p
  | _ => p

/-- The time of a cancelled request's worker is up. -/
def expire (p : Pool) (r : Nat) : Pool :=
  match (p.request? r).map Request.phase with
  | some (.ending w) => (p.finish r (.error .cancelled)).discard w "terminated after cancellation"
  | _ => p

/-- **A request hands its worker on.** -/
def leave (p : Pool) (r : Nat) : Pool :=
  match (p.request? r).map Request.phase with
  | some (.leaving w outcome) => (p.finish r outcome).handOn w
  | _ => p

/-- **A request is dropped by its caller**, where it waits for something: for
a worker, or for a reply. -/
def drop (p : Pool) (r : Nat) : Pool :=
  let p' := p.setPhase r .dropped
  match (p.request? r).map Request.phase with
  | some (.handed w) => { p' with dropping := p.dropping ++ [w.slot] }
  | some (.parsing w) => p'.discard w "request dropped mid-parse"
  | some (.ending w) => p'.discard w "request dropped mid-parse"
  | some (.starting _) => p
  | some (.held _) => p
  | some (.leaving _ _) => p
  | _ => p'

/-! ## Slots -/

/-- **The slot of a dropped worker is freed**; a new worker is started in it
if somebody waits. -/
def freed (p : Pool) (slot : Nat) : Pool :=
  if slot ∈ p.dropping then
    let p := { p with dropping := p.dropping.erase slot }
    if p.waiters.any p.waits then
      { p with restarting := p.restarting ++ [slot] }
    else { p with freeSlots := slot :: p.freeSlots }
  else p

/-- The worker started in a freed slot is there. -/
def restarted (p : Pool) (slot : Nat) : Pool :=
  if slot ∈ p.restarting then
    let (w, p) := { p with restarting := p.restarting.erase slot }.startWorker slot
    p.handOn w
  else p

/-- No worker could be started in a freed slot. -/
def unrestarted (p : Pool) (slot : Nat) : Pool :=
  if slot ∈ p.restarting then
    { p with restarting := p.restarting.erase slot, freeSlots := slot :: p.freeSlots }
  else p

/-! ## What workers do -/

/-- A worker takes a job from its channel. -/
def Worker.begin (w : Worker) : Worker :=
  match w.jobs, w.running with
  | job :: jobs, none => { w with jobs, running := some job }
  | _, _ => w

/-- A worker answers the job it works on. -/
def Worker.answer (w : Worker) (reply : WorkerReply) : Worker :=
  match w.running with
  | some job => { w with running := none, replies := w.replies ++ [(job.request, reply)] }
  | none => w

/-- Changes the worker of a phase. -/
def Phase.mapWorker (f : Worker → Worker) : Phase → Phase
  | handed w => handed (f w)
  | held w => held (f w)
  | parsing w => parsing (f w)
  | ending w => ending (f w)
  | leaving w outcome => leaving (f w) outcome
  | phase => phase

/-- **The worker of a slot does something**, wherever it is. -/
def atSlot (p : Pool) (slot : Nat) (f : Worker → Worker) : Pool :=
  let f (w : Worker) : Worker := if w.slot = slot then f w else w
  { p with
    idle := p.idle.map f
    requests := p.requests.map fun request => { request with phase := request.phase.mapWorker f } }

/-! ## Whatever happens -/

/-- What can happen in a pool. -/
inductive Event where
  | arrive (text : String) (entry : Option String) (cancelled : Bool)
  | cancel (request : Nat)
  | started (request : Nat)
  | unstarted (request : Nat) (message : String)
  | take (request : Nat)
  | send (request : Nat)
  | unsent (request : Nat)
  | notice (request : Nat)
  | receive (request : Nat)
  | lost (request : Nat)
  | expire (request : Nat)
  | leave (request : Nat)
  | drop (request : Nat)
  | freed (slot : Nat)
  | restarted (slot : Nat)
  | unrestarted (slot : Nat)
  | begin (slot : Nat)
  | answer (slot : Nat) (reply : WorkerReply)
deriving DecidableEq, Repr, Inhabited

/-- **What an event makes of a pool**: nothing, where it cannot happen. -/
def step (p : Pool) : Event → Pool
  | .arrive text entry cancelled => p.arrive text entry cancelled
  | .cancel r => p.cancel r
  | .started r => p.started r
  | .unstarted r message => p.unstarted r message
  | .take r => p.take r
  | .send r => p.sendJob r
  | .unsent r => p.unsent r
  | .notice r => p.noticeCancel r
  | .receive r => p.receive r
  | .lost r => p.lost r
  | .expire r => p.expire r
  | .leave r => p.leave r
  | .drop r => p.drop r
  | .freed slot => p.freed slot
  | .restarted slot => p.restarted slot
  | .unrestarted slot => p.unrestarted slot
  | .begin slot => p.atSlot slot Worker.begin
  | .answer slot reply => p.atSlot slot (Worker.answer · reply)

/-- **Lets one event happen after the other.** -/
def play (p : Pool) (events : List Event) : Pool := events.foldl step p

end Pool

end Workbench
