import Mathlib.Data.List.DropRight
import Mathlib.Data.List.TakeWhile
import Workbench.Worker.Pool.Run
/-!
# What an event does to a pool

The events of a pool in the few kinds that differ for its slots, its queue
and its channels (`Effect`): each moves one slot from one place to another,
or none at all. What a request does to its own worker meanwhile is
`Onward`.
-/

namespace Workbench

namespace Pool

variable {p : Pool} {r : Nat} {q : Request}

/-- The worker that a request in this phase has, and nobody else. -/
def Phase.worker? : Phase → Option Worker
  | handed w => some w
  | held w => some w
  | parsing w => some w
  | ending w => some w
  | leaving w _ => some w
  | _ => none

/-- Whether a request is through with the pool. -/
def Phase.isOver : Phase → Bool
  | done _ => true
  | dropped => true
  | _ => false

/-- The worker that has the job of a request in this phase. -/
def Phase.atWork? : Phase → Option Worker
  | parsing w => some w
  | ending w => some w
  | _ => none

/-- **How a request goes on with what it has**: from the phase it is in to
another, in which it has the same slot. -/
inductive Onward (r : Nat) (q : Request) : Phase → Prop
  | ends {phase : Phase} : q.phase.worker? = none → (∀ slot, q.phase ≠ .starting slot) →
      phase.isOver = true → Onward r q phase
  | started {slot : Nat} : q.phase = .starting slot → Onward r q (.held (.fresh slot))
  | taken {w : Worker} : q.phase = .handed w → Onward r q (.held w)
  | sent {w : Worker} : q.phase = .held w →
      Onward r q (.parsing { w with jobs := w.jobs ++ [⟨r, q.text, q.entry⟩] })
  | flagged {w : Worker} : q.phase = .parsing w → Onward r q (.ending { w with flagged := true })
  | unused {w : Worker} {outcome : Except ParseFault ParseResult} : q.phase = .handed w →
      Onward r q (.leaving w outcome)
  | answered {w : Worker} {answer : Nat × WorkerReply} {replies : List (Nat × WorkerReply)}
      {outcome : Except ParseFault ParseResult} : q.phase.atWork? = some w →
      w.replies = answer :: replies → Onward r q (.leaving { w with replies } outcome)

/-- **What an event makes of a pool.** Records and generations may be
anything. -/
inductive Effect (p : Pool) : Event → Pool → Prop
  | same (e : Event) : Effect p e p
  | cancelled (r : Nat) : Effect p (.cancel r) (p.cancel r)
  | refused (text : String) (entry : Option String) (e : Event) : Effect p e
      { p with requests := p.requests ++ [⟨text, entry, true, .done (.error .cancelled)⟩] }
  | served (text : String) (entry : Option String) (e : Event) {w : Worker} {idle : List Worker} :
      p.idle = w :: idle →
      Effect p e { p with idle, requests := p.requests ++ [⟨text, entry, false, .held w⟩] }
  | starts (text : String) (entry : Option String) (e : Event) {slot : Nat}
      {freeSlots : List Nat} : p.idle = [] → p.freeSlots = slot :: freeSlots →
      Effect p e
        { p with freeSlots, requests := p.requests ++ [⟨text, entry, false, .starting slot⟩] }
  | queues (text : String) (entry : Option String) (e : Event) : p.idle = [] → p.freeSlots = [] →
      Effect p e
        { p with
          waiters := p.waiters ++ [p.requests.length]
          requests := p.requests ++ [⟨text, entry, false, .waiting⟩] }
  | goesOn {r : Nat} {q : Request} {phase : Phase} (e : Event) (registry : WorkerRegistry)
      (generations : Nat) : p.request? r = some q → Onward r q phase →
      Effect p e { p.setPhase r phase with registry, generations }
  | givesUp {r slot : Nat} {q : Request} (message : String) : p.request? r = some q →
      q.phase = .starting slot →
      Effect p (.unstarted r message)
        { p.finish r (.error (.unstarted message)) with freeSlots := slot :: p.freeSlots }
  | drops {r slot : Nat} {q : Request} {phase : Phase} (e : Event)
      (registry : WorkerRegistry) : p.request? r = some q →
      q.phase.worker?.map Worker.slot = some slot → phase.isOver = true →
      Effect p e { p.setPhase r phase with registry, dropping := p.dropping ++ [slot] }
  | leaves {r : Nat} {q : Request} {w : Worker} {outcome : Except ParseFault ParseResult}
      (e : Event) : p.request? r = some q → q.phase = .leaving w outcome →
      Effect p e ((p.finish r outcome).handOn w)
  | frees {slot : Nat} (e : Event) : slot ∈ p.dropping → p.waiters.any p.waits = false →
      Effect p e
        { p with dropping := p.dropping.erase slot, freeSlots := slot :: p.freeSlots }
  | replaces {slot : Nat} (e : Event) : slot ∈ p.dropping →
      Effect p e
        { p with dropping := p.dropping.erase slot, restarting := p.restarting ++ [slot] }
  | restarted {slot : Nat} (e : Event) (registry : WorkerRegistry) (generations : Nat) :
      slot ∈ p.restarting →
      Effect p e
        ({ p with restarting := p.restarting.erase slot, registry, generations }.handOn
          (.fresh slot))
  | unrestarted {slot : Nat} : slot ∈ p.restarting →
      Effect p (.unrestarted slot)
        { p with restarting := p.restarting.erase slot, freeSlots := slot :: p.freeSlots }
  | begins (slot : Nat) : Effect p (.begin slot) (p.atSlot slot Worker.begin)
  | answers (slot : Nat) (reply : WorkerReply) :
      Effect p (.answer slot reply) (p.atSlot slot (Worker.answer · reply))

/-- Workers stay in their slots at work. -/
theorem Worker.slot_begin (w : Worker) : w.begin.slot = w.slot := by
  rw [Worker.begin]
  split <;> rfl

theorem Worker.slot_answer (w : Worker) (reply : WorkerReply) :
    (w.answer reply).slot = w.slot := by
  rw [Worker.answer]
  split <;> rfl

theorem phase_eq_some {phase : Phase} (h : (p.request? r).map Request.phase = some phase) :
    ∃ q, p.request? r = some q ∧ q.phase = phase :=
  Option.map_eq_some_iff.mp h

theorem arrive_effect (text : String) (entry : Option String) (cancelled : Bool) (e : Event) :
    Effect p e (p.arrive text entry cancelled) := by
  rw [arrive]
  cases cancelled with
  | true => exact .refused text entry e
  | false =>
    cases hidle : p.idle with
    | cons w idle => exact .served text entry e hidle
    | nil =>
      cases hfree : p.freeSlots with
      | cons slot freeSlots =>
        have := Effect.starts text entry e hidle hfree
        simpa [hidle] using this
      | nil =>
        have := Effect.queues text entry e hidle hfree
        simpa [hidle, hfree] using this

/-- A worker that crashed is dropped, any other is handed on. -/
theorem receive_effect (r : Nat) (e : Event) : Effect p e (p.receive r) := by
  rw [receive]
  split
  · next slot jobs running _ reply replies flagged hphase =>
    obtain ⟨q, hq, hphase⟩ := phase_eq_some hphase
    have hwork : q.phase.atWork? = some _ := congrArg Phase.atWork? hphase
    cases reply with
    | crashed message => exact .drops e _ hq (congrArg (·.worker?.map Worker.slot) hphase) rfl
    | parsed result => exact .goesOn e _ _ hq (.answered hwork rfl)
    | cancelled => exact .goesOn e _ _ hq (.answered hwork rfl)
    | invalidEntry name => exact .goesOn e _ _ hq (.answered hwork rfl)
  · next slot jobs running _ reply replies flagged hphase =>
    obtain ⟨q, hq, hphase⟩ := phase_eq_some hphase
    have hwork : q.phase.atWork? = some _ := congrArg Phase.atWork? hphase
    cases reply with
    | crashed message => exact .drops e _ hq (congrArg (·.worker?.map Worker.slot) hphase) rfl
    | parsed result => exact .goesOn e _ _ hq (.answered hwork rfl)
    | cancelled => exact .goesOn e _ _ hq (.answered hwork rfl)
    | invalidEntry name => exact .goesOn e _ _ hq (.answered hwork rfl)
  · exact .same e

theorem noticeCancel_effect (r : Nat) (e : Event) : Effect p e (p.noticeCancel r) := by
  rw [noticeCancel]
  split
  · next hq => exact .goesOn e _ _ hq (.ends rfl nofun rfl)
  · next hq => exact .goesOn e _ _ hq (.unused rfl)
  · next hq => exact .goesOn e _ _ hq (.flagged rfl)
  · exact .same e

theorem lost_effect (r : Nat) (e : Event) : Effect p e (p.lost r) := by
  rw [lost]
  split
  · next w hphase =>
    obtain ⟨q, hq, hphase⟩ := phase_eq_some hphase
    split
    · exact .drops e _ hq (congrArg (·.worker?.map Worker.slot) hphase) rfl
    · exact .same e
  · next w hphase =>
    obtain ⟨q, hq, hphase⟩ := phase_eq_some hphase
    split
    · exact .drops e _ hq (congrArg (·.worker?.map Worker.slot) hphase) rfl
    · exact .same e
  · exact .same e

theorem drop_effect (r : Nat) (e : Event) : Effect p e (p.drop r) := by
  rw [drop]
  split
  · next hphase =>
    obtain ⟨q, hq, hphase⟩ := phase_eq_some hphase
    exact .drops e _ hq (congrArg (·.worker?.map Worker.slot) hphase) rfl
  · next hphase =>
    obtain ⟨q, hq, hphase⟩ := phase_eq_some hphase
    exact .drops e _ hq (congrArg (·.worker?.map Worker.slot) hphase) rfl
  · next hphase =>
    obtain ⟨q, hq, hphase⟩ := phase_eq_some hphase
    exact .drops e _ hq (congrArg (·.worker?.map Worker.slot) hphase) rfl
  · exact .same e
  · exact .same e
  · exact .same e
  · next hhanded hparsing hending hstarting hheld hleaving =>
    cases hq : p.request? r with
    | none =>
      have hsame : p.requests.modify r (fun q => { q with phase := .dropped }) = p.requests :=
        List.modify_eq_self (List.getElem?_eq_none_iff.mp hq)
      rw [setPhase, hsame]
      exact .same e
    | some q =>
      rw [hq] at hhanded hparsing hending hstarting hheld hleaving
      refine .goesOn e _ _ hq (.ends ?_ ?_ rfl)
      · cases hphase : q.phase with
        | handed w => exact absurd (congrArg some hphase) (hhanded w)
        | held w => exact absurd (congrArg some hphase) (hheld w)
        | parsing w => exact absurd (congrArg some hphase) (hparsing w)
        | ending w => exact absurd (congrArg some hphase) (hending w)
        | leaving w outcome => exact absurd (congrArg some hphase) (hleaving w outcome)
        | waiting => rfl
        | starting slot => rfl
        | done outcome => rfl
        | dropped => rfl
      · exact fun slot hphase => hstarting slot (congrArg some hphase)

theorem freed_effect (slot : Nat) (e : Event) : Effect p e (p.freed slot) := by
  rw [freed]
  split
  · next hmem =>
    dsimp only
    split
    · exact .replaces e hmem
    · next hnone => exact .frees e hmem (Bool.eq_false_iff.mpr hnone)
  · exact .same e

/-- **Every event has one of these effects.** -/
theorem step_effect (p : Pool) (e : Event) : Effect p e (p.step e) := by
  cases e with
  | arrive text entry cancelled => exact arrive_effect text entry cancelled _
  | cancel r => exact .cancelled r
  | started r =>
    rw [step, started]
    split
    · next hphase =>
      obtain ⟨q, hq, hphase⟩ := phase_eq_some hphase
      exact .goesOn _ _ _ hq (.started hphase)
    · exact .same _
  | unstarted r message =>
    rw [step, unstarted]
    split
    · next hphase =>
      obtain ⟨q, hq, hphase⟩ := phase_eq_some hphase
      exact .givesUp message hq hphase
    · exact .same _
  | take r =>
    rw [step, take]
    split
    · next hphase =>
      obtain ⟨q, hq, hphase⟩ := phase_eq_some hphase
      exact .goesOn _ _ _ hq (.taken hphase)
    · exact .same _
  | send r =>
    rw [step, sendJob]
    split
    · next hq => exact .goesOn _ _ _ hq (.sent rfl)
    · exact .same _
  | unsent r =>
    rw [step, unsent]
    split
    · next hphase =>
      obtain ⟨q, hq, hphase⟩ := phase_eq_some hphase
      exact .drops _ _ hq (congrArg (·.worker?.map Worker.slot) hphase) rfl
    · exact .same _
  | notice r => exact noticeCancel_effect r _
  | receive r => exact receive_effect r _
  | lost r => exact lost_effect r _
  | expire r =>
    rw [step, expire]
    split
    · next hphase =>
      obtain ⟨q, hq, hphase⟩ := phase_eq_some hphase
      exact .drops _ _ hq (congrArg (·.worker?.map Worker.slot) hphase) rfl
    · exact .same _
  | leave r =>
    rw [step, leave]
    split
    · next hphase =>
      obtain ⟨q, hq, hphase⟩ := phase_eq_some hphase
      exact .leaves _ hq hphase
    · exact .same _
  | drop r => exact drop_effect r _
  | freed slot => exact freed_effect slot _
  | restarted slot =>
    rw [step, Pool.restarted]
    split
    · next hmem => exact .restarted _ _ _ hmem
    · exact .same _
  | unrestarted slot =>
    rw [step, Pool.unrestarted]
    split
    · next hmem => exact .unrestarted hmem
    · exact .same _
  | begin slot => exact .begins slot
  | answer slot reply => exact .answers slot reply

/-! ## Handing a worker on -/

/-- **A worker goes to the first of the queue that still waits**, or to the
idle ones if nobody does. -/
theorem handOn_cases (p : Pool) (w : Worker) :
    ∃ registry,
      (∃ r gone rest, p.waiters = gone ++ r :: rest ∧ p.waits r = true ∧
        p.handOn w = { p with waiters := rest, registry }.setPhase r
          (.handed { w with flagged := false })) ∨
      ((∀ r ∈ p.waiters, p.waits r = false) ∧
        p.handOn w =
          { p with waiters := [], idle := { w with flagged := false } :: p.idle, registry }) := by
  refine ⟨(p.setRecord w.slot fun record => { record with pending := 0 }).registry, ?_⟩
  have hwaits : (p.setRecord w.slot fun record => { record with pending := 0 }).waits = p.waits := rfl
  have hwaiters : (p.setRecord w.slot fun record => { record with pending := 0 }).waiters =
    p.waiters := rfl
  rw [handOn, hwaits, hwaiters]
  cases hrest : p.waiters.dropWhile fun r => !p.waits r with
  | nil =>
    refine .inr ⟨fun r hr => ?_, ?_⟩
    · simpa using List.dropWhile_eq_nil_iff.mp hrest r hr
    · rfl
  | cons r rest =>
    refine .inl ⟨r, p.waiters.takeWhile fun r => !p.waits r, rest, ?_, ?_, ?_⟩
    · rw [← hrest, List.takeWhile_append_dropWhile]
    · have := List.dropWhile_get_zero_not (fun r => !p.waits r) p.waiters (by simp [hrest])
      simpa [hrest] using this
    · rfl

end Pool

end Workbench
