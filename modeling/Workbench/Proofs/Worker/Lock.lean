import Workbench.Proofs.Worker.InTurn
import Workbench.Proofs.Worker.Token
/-!
# The lock of a workspace is safe

A run of a lock is any sequence of calls and steps: calls by clients, calls by
the actions that are under way, and any task that is ready being run next.
Throughout a run there is one driver at most, one turn at most, writes start
in the order they came, reads start when no write is left, tickets are
resolved with the outcomes of their own actions, and tokens are cancelled by
the next write or by those who may.
-/

namespace Workbench

open Lock

namespace WorkspaceLock

variable {l l' : WorkspaceLock} {calls : List Call} {task : Task} {place : Nat}

/-- **A run of a lock**, and the calls it has got so far. -/
inductive Run : List Call → WorkspaceLock → Prop where
  | start : Run [] .empty
  | call {calls : List Call} {l : WorkspaceLock} (hrun : Run calls l) (call : Call) :
      Run (calls ++ [call]) (l.serve call)
  | step {calls : List Call} {l l' : WorkspaceLock} {place : Nat} (hrun : Run calls l)
      (hstep : l.step place = some l') : Run (calls ++ (l.callAt? place).toList) l'

/-! ## One step -/

theorem Orderly.step (h : l.Orderly) (hstep : l.step place = some l') : l'.Orderly := by
  obtain ⟨task, before, after, hready, -, heffect⟩ := step_effect hstep
  obtain ⟨htaken, htask⟩ := h.take hready
  exact htaken.effect htask heffect

theorem Orderly.step_onward (h : l.Orderly) (hstep : l.step place = some l') : l.Onward l' := by
  obtain ⟨task, before, after, hready, -, heffect⟩ := step_effect hstep
  have honward := (h.take hready).1.effect_onward heffect
  exact ⟨honward.old, honward.new⟩

theorem Orderly.step_inTurn (h : l.Orderly) (hstep : l.step place = some l') : l.InTurn l' := by
  obtain ⟨task, before, after, hready, -, heffect⟩ := step_effect hstep
  obtain ⟨htaken, htask⟩ := h.take hready
  have hturn := htaken.effect_inTurn htask heffect
  exact ⟨hturn.write, hturn.read, hturn.call⟩

theorem step_tokens (h : Tokens calls l.newest l.marks) (hstep : l.step place = some l') :
    Tokens (calls ++ (l.callAt? place).toList) l'.newest l'.marks := by
  obtain ⟨task, before, after, -, htask, heffect⟩ := step_effect hstep
  rw [callAt?, htask]
  exact effect_tokens (l := { l with ready := before ++ after }) h heffect

/-- No call starts a driver while there is one. -/
theorem Orderly.serve_driver (h : l.Orderly) (hdriver : l.driver ≠ .absent) (call : Call) :
    (l.serve call).driver = l.driver := by
  have hensure : ∀ l' : WorkspaceLock, l'.running = l.running → l'.driver = l.driver →
      l'.ensureDriver.driver = l.driver := by
    intro l' hrunning hsame
    rw [WorkspaceLock.ensureDriver, if_pos (hrunning.trans (h.runs hdriver))]
    exact hsame
  cases call with
  | submit kind label refusal body =>
    cases kind with
    | write => exact hensure _ (alike_cancelWrite _).running (alike_cancelWrite _).driver
    | read => exact hensure _ rfl rfl
    | immediate => rfl
  | cancelWrite => exact (alike_cancelWrite l).driver
  | cancelToken t => rfl
  | forget label => rfl
  | openGate gate => rfl

/-- Nor does any task but its own change what the driver is at. -/
theorem Orderly.effect_driver (h : l.Orderly) (hdriver : l.driver ≠ .absent)
    (htask : task ≠ .driver) (heffect : l.Effect task l') : l'.driver = l.driver := by
  cases heffect with
  | nothing => rfl
  | callJob => rfl
  | refuseJob => exact (turns_readIsOver _ _).2.2
  | endJob => exact (turns_readIsOver _ _).2.2
  | finish => exact (turns_endAction _ _ _ _).2.2
  | pass => rfl
  | call => exact h.serve_driver hdriver _
  | block => rfl
  | _ => exact absurd rfl htask

theorem Orderly.step_driver (h : l.Orderly) (hstep : l.step place = some l')
    (hplace : l.ready[place]? ≠ some .driver) (hdriver : l.driver ≠ .absent) :
    l'.driver = l.driver := by
  obtain ⟨task, before, after, hready, htask, heffect⟩ := step_effect hstep
  refine (h.take hready).1.effect_driver hdriver ?_ heffect
  rintro rfl
  exact hplace htask

/-! ## Runs -/

theorem Run.orderly (h : Run calls l) : l.Orderly := by
  induction h with
  | start => exact orderly_empty
  | call hrun call ih => exact ih.serve call
  | step hrun hstep ih => exact ih.step hstep

theorem Run.tokens (h : Run calls l) : Tokens calls l.newest l.marks := by
  induction h with
  | start => exact .empty
  | call hrun call ih => exact serve_tokens ih call
  | step hrun hstep ih => exact step_tokens ih hstep

theorem Onward.sound (h : l.Onward l') (hl : ∀ t a, l.ticket? t = some a → a.Sound) :
    ∀ t b, l'.ticket? t = some b → b.Sound := by
  intro t b hb
  cases ha : l.ticket? t with
  | none =>
    rw [Ticket.Sound, h.new t b ha hb]
    trivial
  | some a =>
    obtain ⟨b', hb', hon⟩ := h.old t a ha
    cases hb.symm.trans hb'
    exact hon.sound (hl t a ha)

/-- Throughout a run every ticket tells the truth about its action. -/
theorem Run.sound (h : Run calls l) : ∀ t a, l.ticket? t = some a → a.Sound := by
  induction h with
  | start => exact fun _ _ => nofun
  | call hrun call ih => exact (onward_serve _ call).sound ih
  | step hrun hstep ih => exact (hrun.orderly.step_onward hstep).sound ih

/-! ## Safety -/

/-- **A lock that has got these calls is in a safe state.** -/
structure Safe (calls : List Call) (l : WorkspaceLock) : Prop where
  /-- The tickets are for the submitted actions, in the order of the calls. -/
  submitted : l.tickets.map Ticket.submission = calls.filterMap Call.submission?
  /-- There is a driver only while the lock says so, and it is ready at most
  once. -/
  one_driver : (l.driver ≠ .absent → l.running = true) ∧
    (.driver ∈ l.ready → l.driver ≠ .absent) ∧ l.ready.count .driver ≤ 1
  /-- A write is under way if and only if the turn is its own, -/
  write_turn : ∀ t, l.stage? t = some (.write, .underWay) ↔ l.driver = .writing t
  /-- and a read only if the turn is that of its batch, -/
  read_turn : ∀ t, l.stage? t = some (.read, .underWay) →
    ∃ batch, l.driver = .reading batch ∧ t ∈ batch
  /-- in which there are only reads that have left the queue. -/
  batch : ∀ batch t, l.driver = .reading batch → t ∈ batch →
    t ∉ l.reads ∧ ∃ s, l.stage? t = some (.read, s)
  /-- Once a write has started, those before it are over. -/
  writes_in_order : ∀ w t s s', l.stage? w = some (.write, s) → l.stage? t = some (.write, s') →
    w < t → s' ≠ .waiting → s = .done
  /-- Once a read has left the queue, the writes before it are over. -/
  writes_before_read : ∀ w t s s', l.stage? w = some (.write, s) → l.stage? t = some (.read, s') →
    w < t → t ∉ l.reads → s = .done
  /-- A ticket is resolved with an outcome that its own acts lead to. -/
  outcome : ∀ t a o, l.ticket? t = some a → a.progress = .resolved o → a.CanEnd o
  /-- It is given up only if its action could not be called. -/
  dropped : ∀ t a, l.ticket? t = some a → a.progress = .dropped → a.refusal ≠ none
  /-- The token of a write is cancelled when another has come, -/
  older_cancelled : ∀ w t a b, l.ticket? w = some a → l.ticket? t = some b → a.kind = .write →
    b.kind = .write → w < t → a.cancelled = true
  /-- and that of the last one when it was cancelled after it had come. -/
  newest_cancelled : ∀ t a, l.ticket? t = some a → a.kind = .write →
    (∀ w b, l.ticket? w = some b → b.kind = .write → w ≤ t) →
    (a.cancelled = true ↔ ∃ call ∈ callsAfter calls t, call.Cancels t)

/-- **One state of a lock follows another safely**: every ticket moves
onward, by one step at most, and actions are started in their turn. -/
structure Follows (l l' : WorkspaceLock) : Prop where
  onward : l.Onward l'
  /-- What has started does not wait again, and what is over stays so. -/
  once : ∀ t k s, l.stage? t = some (k, s) → s ≠ .waiting →
    ∃ s', l'.stage? t = some (k, s') ∧ s' ≠ .waiting ∧ (s = .done → s' = .done)
  inTurn : l.InTurn l'

/-- An action starts at most once, since its ticket moves onward. -/
theorem Onward.once (h : l.Onward l') {t : Nat} {k : Kind} {s : Stage}
    (ht : l.stage? t = some (k, s)) (hs : s ≠ .waiting) :
    ∃ s', l'.stage? t = some (k, s') ∧ s' ≠ .waiting ∧ (s = .done → s' = .done) := by
  obtain ⟨a, ha, hstage⟩ := Option.map_eq_some_iff.mp ht
  cases hstage
  obtain ⟨b, hb, hon⟩ := h.old t a ha
  refine ⟨b.progress.stage, ?_, ?_⟩
  · rw [stage?_eq_some hb, hon.kind]
  · rcases hon.progress with heq | hnext
    · rw [heq]
      exact ⟨hs, id⟩
    · generalize b.progress = p at hnext
      cases hnext with
      | called hwaits => exact absurd (congrArg Progress.stage hwaits) hs
      | refused hwaits => exact absurd (congrArg Progress.stage hwaits) hs
      | passed hruns => exact ⟨nofun, fun hover => by rw [hruns] at hover; cases hover⟩
      | ended hruns => exact ⟨nofun, fun hover => by rw [hruns] at hover; cases hover⟩
      | resolved hended => exact ⟨nofun, fun _ => rfl⟩

theorem Follows.of_onward (h : l.Onward l') (hturn : l.InTurn l') : l.Follows l' :=
  ⟨h, fun _ _ _ => h.once, hturn⟩

/-- Writes start in the order they came, each when those before are over. -/
theorem Orderly.writes_in_order (h : l.Orderly) {w t : Nat} {s s' : Stage}
    (hw : l.stage? w = some (.write, s)) (ht : l.stage? t = some (.write, s')) (hlt : w < t)
    (hs : s' ≠ .waiting) : s = .done := by
  cases s with
  | waiting =>
    have := h.begun_before t s' w ht hs ((h.queued_iff w).mpr hw)
    omega
  | underWay =>
    have := h.last_begun w t s' ((h.writing_iff w).mp hw) ht hs
    omega
  | done => rfl

theorem Run.older_cancelled (h : Run calls l) {w t : Nat} {a b : Ticket}
    (ha : l.ticket? w = some a) (hb : l.ticket? t = some b) (hwrite : a.kind = .write)
    (hwrite' : b.kind = .write) (hlt : w < t) : a.cancelled = true := by
  have hmark : l.marks[w]? = some a.mark := by rw [getElem?_marks, ha, Option.map_some]
  have hmark' : l.marks[t]? = some b.mark := by rw [getElem?_marks, hb, Option.map_some]
  refine h.tokens.older w a.mark hmark hwrite fun hnewest => ?_
  obtain ⟨last, hlast, hle⟩ := h.tokens.newest_last t b.mark hmark' hwrite'
  cases hnewest.symm.trans hlast
  omega

theorem Run.newest_cancelled (h : Run calls l) {t : Nat} {a : Ticket} (ha : l.ticket? t = some a)
    (hwrite : a.kind = .write)
    (hlast : ∀ w b, l.ticket? w = some b → b.kind = .write → w ≤ t) :
    a.cancelled = true ↔ ∃ call ∈ callsAfter calls t, call.Cancels t := by
  have hmark : l.marks[t]? = some a.mark := by rw [getElem?_marks, ha, Option.map_some]
  obtain ⟨last, hnewest, hle⟩ := h.tokens.newest_last t a.mark hmark hwrite
  obtain ⟨m, hm, hkind⟩ := h.tokens.newest_write last hnewest
  rw [getElem?_marks] at hm
  obtain ⟨b, hb, rfl⟩ := Option.map_eq_some_iff.mp hm
  have hsame : last = t := Nat.le_antisymm (hlast last b hb hkind) hle
  exact h.tokens.newest_cancelled t a.mark (hsame ▸ hnewest) hmark

/-- **A lock is safe throughout every run**, and whatever comes next, a call
or a step, follows safely. A driver that is there is neither replaced by a
call nor disturbed by the step of another task. -/
theorem Run.safe (h : Run calls l) :
    Safe calls l ∧
    (∀ call, l.Follows (l.serve call) ∧
      (l.driver ≠ .absent → (l.serve call).driver = l.driver)) ∧
    ∀ place l', l.step place = some l' → l.Follows l' ∧
      (l.ready[place]? ≠ some .driver → l.driver ≠ .absent → l'.driver = l.driver) := by
  have horderly := h.orderly
  refine ⟨?_, fun call => ?_, fun place l' hstep => ?_⟩
  · exact {
      submitted := by
        rw [← h.tokens.submitted, marks, List.map_map]
        rfl
      one_driver := ⟨horderly.runs, horderly.driver_ready, horderly.one_driver⟩
      write_turn := horderly.writing_iff
      read_turn := fun t ht => by
        refine horderly.reading t .underWay ht (by simp) fun hmem => ?_
        cases ht.symm.trans (horderly.read_queued t hmem)
      batch := horderly.batch
      writes_in_order := fun w t s s' => horderly.writes_in_order
      writes_before_read := fun w t s s' hw ht hlt hqueue =>
        horderly.read_after t s' w s ht hqueue hw hlt
      outcome := fun t a o ha ho => by
        have hsound := h.sound t a ha
        rw [Ticket.Sound, ho] at hsound
        exact hsound
      dropped := fun t a ha hdropped => by
        have hsound := h.sound t a ha
        rw [Ticket.Sound, hdropped] at hsound
        exact hsound
      older_cancelled := fun w t a b => h.older_cancelled
      newest_cancelled := fun t a => h.newest_cancelled }
  · exact ⟨.of_onward (onward_serve l call) (inTurn_serve l call), fun hdriver =>
      horderly.serve_driver hdriver call⟩
  · exact ⟨.of_onward (horderly.step_onward hstep) (horderly.step_inTurn hstep),
      horderly.step_driver hstep⟩

/-- Between a write that is over and one that has come since, a read is let
go. -/
theorem safe_between_writes : ∃ calls l, Run calls l ∧ l.driver = .reading [1] ∧
    l.writes = [2] ∧ Safe calls l := by
  have h₁ := (Run.start.call (.submit .write "first" none [.finish 1])).call
    (.submit .read "between" none [])
  have h₂ := @Run.step _ _ _ 0 h₁ rfl
  have h₃ := @Run.step _ _ _ 0 h₂ rfl
  have h₄ := @Run.step _ _ _ 0 h₃ rfl
  have h₅ := (@Run.step _ _ _ 0 h₄ rfl).call (.submit .write "second" none [])
  exact ⟨_, _, h₅, rfl, rfl, h₅.safe.1⟩

end WorkspaceLock

end Workbench
