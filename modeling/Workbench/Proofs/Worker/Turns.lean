import Mathlib.Data.List.Basic
import Workbench.Proofs.Worker.Effect
/-!
# Taking turns

The invariant of a lock: which actions wait in which queue, which are under
way, and what the driver is at. A call keeps it and so does running any task
that is ready (`Orderly.serve`, `Orderly.effect`), whatever came in between.
-/

namespace Workbench

open Lock

namespace WorkspaceLock

variable {l l' : WorkspaceLock} {t : Nat}

/-- The kind of a submitted action and how far it has come. -/
def stage? (l : WorkspaceLock) (t : Nat) : Option (Kind × Stage) :=
  (l.ticket? t).map fun a => (a.kind, a.progress.stage)

theorem stage?_eq_some {a : Ticket} (h : l.ticket? t = some a) :
    l.stage? t = some (a.kind, a.progress.stage) := by
  rw [stage?, h]
  rfl

theorem stage?_lt {k : Kind} {s : Stage} (h : l.stage? t = some (k, s)) : t < l.tickets.length := by
  obtain ⟨a, ha, -⟩ := Option.map_eq_some_iff.mp h
  exact ticket?_lt ha

theorem stage_of_isOver {k : Kind} {s : Stage} (hover : l.isOver t = true)
    (h : l.stage? t = some (k, s)) : s = .done := by
  obtain ⟨a, ha, hstage⟩ := Option.map_eq_some_iff.mp h
  rw [isOver, ha, Option.any_some, Progress.isOver_iff] at hover
  cases hstage
  exact hover

theorem stage?_modifyTicket (l : WorkspaceLock) (t i : Nat) {f : Ticket → Ticket}
    (h : ∀ a, (f a).kind = a.kind ∧ (f a).progress = a.progress) :
    (l.modifyTicket t f).stage? i = l.stage? i := by
  rw [stage?, stage?, ticket?_modifyTicket, Option.map_map]
  congr 1
  funext a
  dsimp only [Function.comp_apply]
  split
  · rw [(h a).1, (h a).2]
  · rfl

theorem stage?_setProgress {k : Kind} {s : Stage} (h : l.stage? t = some (k, s)) (p : Progress)
    (i : Nat) : (l.setProgress t p).stage? i = if i = t then some (k, p.stage) else l.stage? i := by
  obtain ⟨a, ha, hstage⟩ := Option.map_eq_some_iff.mp h
  cases hstage
  rw [stage?, stage?, ticket?_setProgress]
  by_cases heq : i = t
  · subst heq
    simp [ha]
  · simp [heq, Ne.symm heq]

/-- How far an action has come is nothing to the queues, the driver and the
tasks. -/
theorem turns_setProgress (l : WorkspaceLock) (t : Nat) (p : Progress) :
    (l.setProgress t p).writes = l.writes ∧ (l.setProgress t p).reads = l.reads ∧
      (l.setProgress t p).running = l.running ∧ (l.setProgress t p).driver = l.driver ∧
      (l.setProgress t p).ready = l.ready :=
  ⟨rfl, rfl, rfl, rfl, rfl⟩

theorem stage?_ensureDriver (l : WorkspaceLock) (t : Nat) :
    l.ensureDriver.stage? t = l.stage? t := by
  rw [stage?, ticket?, tickets_ensureDriver]
  rfl

theorem stage?_append (l : WorkspaceLock) (a : Ticket) (i : Nat) :
    stage? { l with tickets := l.tickets ++ [a] } i =
      if i = l.tickets.length then some (a.kind, a.progress.stage) else l.stage? i := by
  rw [stage?, ticket?_append]
  split <;> rfl

/-! ## The invariant -/

/-- **Every action is where it should be.** -/
structure Orderly (l : WorkspaceLock) : Prop where
  /-- The writes that wait are queued, -/
  queued_iff : ∀ t, t ∈ l.writes ↔ l.stage? t = some (.write, .waiting)
  /-- in the order they came. -/
  sorted : l.writes.Pairwise (· < ·)
  /-- The writes that do not wait came before those. -/
  begun_before : ∀ w s t, l.stage? w = some (.write, s) → s ≠ .waiting → t ∈ l.writes → w < t
  read_queued : ∀ t ∈ l.reads, l.stage? t = some (.read, .waiting)
  /-- A write is under way if it is the driver's turn. -/
  writing_iff : ∀ t, l.stage? t = some (.write, .underWay) ↔ l.driver = .writing t
  /-- No write that came after it has begun then. -/
  last_begun : ∀ w t s, l.driver = .writing w → l.stage? t = some (.write, s) → s ≠ .waiting →
    t ≤ w
  /-- A read that has left the queue is over or in the driver's turn, -/
  reading : ∀ t s, l.stage? t = some (.read, s) → s ≠ .done → t ∉ l.reads →
    ∃ batch, l.driver = .reading batch ∧ t ∈ batch
  /-- and the turn is nothing but such reads. -/
  batch : ∀ batch t, l.driver = .reading batch → t ∈ batch →
    t ∉ l.reads ∧ ∃ s, l.stage? t = some (.read, s)
  /-- It has left the queue after all writes before it were over. -/
  read_after : ∀ t s w s', l.stage? t = some (.read, s) → t ∉ l.reads →
    l.stage? w = some (.write, s') → w < t → s' = .done
  runs : l.driver ≠ .absent → l.running = true
  /-- The driver is not ready twice. -/
  one_driver : l.ready.count .driver ≤ 1
  driver_ready : .driver ∈ l.ready → l.driver ≠ .absent
  /-- Jobs are for actions that do not wait in a queue. -/
  jobs : ∀ t, .job t ∈ l.ready →
    t ∉ l.reads ∧ ∃ k s, k ≠ .write ∧ l.stage? t = some (k, s)

/-- A lock in which the same turns are taken. -/
structure Alike (l l' : WorkspaceLock) : Prop where
  writes : l'.writes = l.writes
  reads : l'.reads = l.reads
  running : l'.running = l.running
  driver : l'.driver = l.driver
  stage : ∀ t, l'.stage? t = l.stage? t
  driver_ready : l'.ready.count .driver = l.ready.count .driver
  jobs : ∀ t, .job t ∈ l'.ready → .job t ∈ l.ready

theorem Alike.trans {l₁ l₂ l₃ : WorkspaceLock} (h : l₁.Alike l₂) (h' : l₂.Alike l₃) :
    l₁.Alike l₃ where
  writes := h'.writes.trans h.writes
  reads := h'.reads.trans h.reads
  running := h'.running.trans h.running
  driver := h'.driver.trans h.driver
  stage t := (h'.stage t).trans (h.stage t)
  driver_ready := h'.driver_ready.trans h.driver_ready
  jobs t ht := h.jobs t (h'.jobs t ht)

theorem Orderly.alike (h : l.Orderly) (hl : l.Alike l') : l'.Orderly where
  queued_iff := by simpa only [hl.writes, hl.stage] using h.queued_iff
  sorted := by simpa only [hl.writes] using h.sorted
  begun_before := by simpa only [hl.writes, hl.stage] using h.begun_before
  read_queued := by simpa only [hl.reads, hl.stage] using h.read_queued
  writing_iff := by simpa only [hl.driver, hl.stage] using h.writing_iff
  last_begun := by simpa only [hl.driver, hl.stage] using h.last_begun
  reading := by simpa only [hl.reads, hl.driver, hl.stage] using h.reading
  batch := by simpa only [hl.reads, hl.driver, hl.stage] using h.batch
  read_after := by simpa only [hl.reads, hl.stage] using h.read_after
  runs := by simpa only [hl.running, hl.driver] using h.runs
  one_driver := by simpa only [hl.driver_ready] using h.one_driver
  driver_ready hmem := by
    rw [hl.driver]
    refine h.driver_ready (List.count_pos_iff.mp ?_)
    rw [← hl.driver_ready]
    exact List.count_pos_iff.mpr hmem
  jobs t ht := by
    rw [hl.reads, hl.stage]
    exact h.jobs t (hl.jobs t ht)

/-! ## What leaves the turns as they are -/

theorem alike_wake_actions (l : WorkspaceLock) (ts : List Nat) :
    l.Alike (l.wake (ts.map .action)) where
  writes := rfl
  reads := rfl
  running := rfl
  driver := rfl
  stage _ := rfl
  driver_ready := by
    have hnot : Task.driver ∉ ts.map .action := by simp
    rw [wake, List.count_append, List.count_eq_zero_of_not_mem hnot, Nat.add_zero]
  jobs t ht := by simpa [wake] using ht

theorem alike_resume_action (l : WorkspaceLock) (t : Nat) : l.Alike (l.resume (.action t)) where
  writes := rfl
  reads := rfl
  running := rfl
  driver := rfl
  stage _ := rfl
  driver_ready := List.count_cons_of_ne (by simp)
  jobs t ht := by simpa [resume] using ht

theorem alike_setProgress {k : Kind} {p : Progress} (h : l.stage? t = some (k, p.stage)) :
    l.Alike (l.setProgress t p) where
  writes := rfl
  reads := rfl
  running := rfl
  driver := rfl
  stage i := by
    rw [stage?_setProgress h]
    split
    · rename_i heq
      rw [heq, h]
    · rfl
  driver_ready := rfl
  jobs _ := id

theorem alike_unblock (l : WorkspaceLock) (met : Nat × Wait → Bool) : l.Alike (l.unblock met) := by
  have h := alike_wake_actions l ((l.blocked.filter met).map Prod.fst)
  rw [List.map_map] at h
  exact { h with }

theorem alike_cancel (l : WorkspaceLock) (t : Nat) : l.Alike (l.cancel t) := by
  refine .trans ?_ (alike_unblock _ _)
  exact ⟨rfl, rfl, rfl, rfl, fun i => stage?_modifyTicket l t i fun _ => ⟨rfl, rfl⟩, rfl,
    fun _ => id⟩

theorem alike_cancelWrite (l : WorkspaceLock) : l.Alike l.cancelWrite := by
  rw [cancelWrite]
  split
  · exact alike_cancel l _
  · exact ⟨rfl, rfl, rfl, rfl, fun _ => rfl, rfl, fun _ => id⟩

theorem alike_openGate (l : WorkspaceLock) (gate : String) : l.Alike (l.openGate gate) :=
  { alike_unblock l _ with }

theorem alike_forget (l : WorkspaceLock) (label : String) : l.Alike (l.forget label) where
  writes := rfl
  reads := rfl
  running := rfl
  driver := rfl
  stage t := by
    rw [stage?, stage?, ticket?_forget, Option.map_map]
    congr 1
    funext a
    dsimp only [Function.comp_apply]
    split <;> rfl
  driver_ready := rfl
  jobs _ := id

/-! ## Calls -/

theorem orderly_empty : empty.Orderly where
  queued_iff t := by simp [empty, stage?, ticket?]
  sorted := .nil
  begun_before _ _ _ h := by simp [empty, stage?, ticket?] at h
  read_queued _ h := by simp [empty] at h
  writing_iff t := by simp [empty, stage?, ticket?]
  last_begun _ _ _ h := by cases h
  reading _ _ h := by simp [empty, stage?, ticket?] at h
  batch _ _ h := by simp [empty] at h
  read_after _ _ _ _ h := by simp [empty, stage?, ticket?] at h
  runs h := absurd rfl h
  one_driver := Nat.zero_le _
  driver_ready h := by simp [empty] at h
  jobs _ h := by simp [empty] at h

theorem Orderly.ensureDriver (h : l.Orderly) : l.ensureDriver.Orderly := by
  rw [WorkspaceLock.ensureDriver]
  split
  · exact h
  · rename_i hrun
    have habsent : l.driver = .absent := by
      by_contra hne
      exact hrun (h.runs hne)
    have hnot : .driver ∉ l.ready := fun hmem => h.driver_ready hmem habsent
    exact { h with
      writing_iff := fun t => by
        refine (h.writing_iff t).trans ?_
        simp [habsent]
      last_begun := fun _ _ _ hdriver => by cases hdriver
      reading := fun t s ht hs hnot => by
        obtain ⟨batch, hbatch, -⟩ := h.reading t s ht hs hnot
        rw [habsent] at hbatch
        cases hbatch
      batch := fun _ _ hdriver => by cases hdriver
      runs := fun _ => rfl
      one_driver := by
        rw [List.count_append, List.count_eq_zero_of_not_mem hnot]
        simp
      driver_ready := fun _ hdriver => by cases hdriver
      jobs := fun t ht => h.jobs t (by simpa using ht) }

/-- **A submitted action waits**: in the queue of its kind, or for its job. -/
theorem Orderly.append (h : l.Orderly) {a : Ticket} (hwaits : a.progress = .waiting)
    {writes reads : List Nat} {ready : List Task}
    (hw : writes = if a.kind = .write then l.writes ++ [l.tickets.length] else l.writes)
    (hr : reads = if a.kind = .read then l.reads ++ [l.tickets.length] else l.reads)
    (hready : ready = if a.kind = .immediate then l.ready ++ [.job l.tickets.length] else l.ready) :
    Orderly { l with
      tickets := l.tickets ++ [a], writes := writes, reads := reads, ready := ready } := by
  have hstage : ∀ i, stage? { l with
      tickets := l.tickets ++ [a], writes := writes, reads := reads, ready := ready } i =
      if i = l.tickets.length then some (a.kind, .waiting) else l.stage? i := by
    intro i
    rw [← (show a.progress.stage = .waiting by rw [hwaits]; rfl)]
    exact stage?_append l a i
  have hold : ∀ {t k s}, l.stage? t = some (k, s) → t < l.tickets.length := stage?_lt
  have hready' : ∀ task, task ∈ ready → task ∈ l.ready ∨
      task = .job l.tickets.length ∧ a.kind = .immediate := by grind
  have hcount : ready.count .driver = l.ready.count .driver := by
    rw [hready]
    split
    · rw [List.count_append, List.count_cons_of_ne (by simp), List.count_nil, Nat.add_zero]
    · rfl
  constructor
  all_goals simp only [hstage]
  case queued_iff => grind [h.queued_iff]
  case sorted => grind [h.sorted, h.queued_iff]
  case begun_before =>
    intro w s t hbegun hs ht
    have := h.begun_before w s t
    grind [h.queued_iff]
  case read_queued =>
    intro t ht
    have := h.read_queued t
    grind
  case writing_iff =>
    intro t
    have := h.writing_iff t
    grind
  case last_begun =>
    intro w t s hdriver
    have := h.last_begun w t s hdriver
    grind
  case reading => grind [h.reading]
  case batch => grind [h.batch]
  case read_after => grind [h.read_after]
  case runs => exact h.runs
  case one_driver => exact hcount ▸ h.one_driver
  case driver_ready => grind [h.driver_ready]
  case jobs =>
    intro t ht
    have := h.jobs t
    have := h.read_queued t
    grind

/-- A call leaves the actions where they are. -/
theorem stage?_serve {k : Kind} {s : Stage} (call : Call) (h : l.stage? t = some (k, s)) :
    (l.serve call).stage? t = some (k, s) := by
  cases call with
  | submit kind label refusal body =>
    have happend : stage? { l with
        tickets := l.tickets ++ [⟨kind, label, refusal, body, false, true, .waiting⟩] } t =
        some (k, s) := by
      rw [stage?_append, if_neg (Nat.ne_of_lt (stage?_lt h))]
      exact h
    cases kind with
    | write => exact (stage?_ensureDriver _ t).trans (((alike_cancelWrite _).stage t).trans happend)
    | read => exact (stage?_ensureDriver _ t).trans happend
    | immediate => exact happend
  | cancelWrite => exact ((alike_cancelWrite l).stage t).trans h
  | cancelToken t' => exact ((alike_cancel l t').stage t).trans h
  | forget label => exact ((alike_forget l label).stage t).trans h
  | openGate gate => exact ((alike_openGate l gate).stage t).trans h

theorem Orderly.submit (h : l.Orderly) (kind : Kind) (label : String) (refusal : Option String)
    (body : List Act) : (l.submit kind label refusal body).Orderly := by
  have happend := h.append (a := ⟨kind, label, refusal, body, false, true, .waiting⟩) rfl rfl rfl rfl
  cases kind with
  | write =>
    refine Orderly.ensureDriver (happend.alike ?_)
    exact { alike_cancelWrite _ with writes := rfl }
  | read => exact happend.ensureDriver
  | immediate => exact happend

/-- **A call keeps the order.** -/
theorem Orderly.serve (h : l.Orderly) (call : Call) : (l.serve call).Orderly := by
  cases call with
  | submit kind label refusal body => exact h.submit kind label refusal body
  | cancelWrite => exact h.alike (alike_cancelWrite l)
  | cancelToken t => exact h.alike (alike_cancel l t)
  | forget label => exact h.alike (alike_forget l label)
  | openGate gate => exact h.alike (alike_openGate l gate)

/-! ## Turns of the driver -/

/-- While the driver chooses, the writes that do not wait are over. -/
theorem Orderly.over_of_choosing (h : l.Orderly) (hdriver : l.driver = .choosing) {w : Nat}
    {s : Stage} (hw : l.stage? w = some (.write, s)) (hs : s ≠ .waiting) : s = .done := by
  cases s with
  | waiting => exact absurd rfl hs
  | underWay =>
    rw [h.writing_iff, hdriver] at hw
    cases hw
  | done => rfl

/-- The first write of the queue waits to be called. -/
theorem Orderly.stage?_first (h : l.Orderly) {rest : List Nat} (hqueue : l.writes = t :: rest) :
    l.stage? t = some (.write, .waiting) :=
  (h.queued_iff t).mp (hqueue ▸ List.mem_cons_self)

theorem Orderly.exists_first (h : l.Orderly) {rest : List Nat} (hqueue : l.writes = t :: rest) :
    ∃ a, l.ticket? t = some a ∧ a.kind = .write ∧ a.progress = .waiting := by
  obtain ⟨a, ha, hstage⟩ := Option.map_eq_some_iff.mp (h.stage?_first hqueue)
  rw [Prod.mk.injEq] at hstage
  refine ⟨a, ha, hstage.1, ?_⟩
  cases hp : a.progress <;> simp [hp, Progress.stage] at hstage
  rfl

/-- The writes before the first that waits are over. -/
theorem Orderly.over_of_before_first (h : l.Orderly) (hdriver : l.driver = .choosing)
    {rest : List Nat} (hqueue : l.writes = t :: rest) {w : Nat} {s : Stage}
    (hw : l.stage? w = some (.write, s)) (hlt : w < t) : s = .done := by
  refine h.over_of_choosing hdriver hw fun hs => ?_
  rw [hs, ← h.queued_iff, hqueue] at hw
  have hsorted := h.sorted
  rw [hqueue, List.pairwise_cons] at hsorted
  rcases List.mem_cons.mp hw with rfl | hmem
  · exact absurd hlt (Nat.lt_irrefl _)
  · exact absurd hlt (Nat.lt_asymm (hsorted.1 w hmem))

/-- **The first write leaves the queue**: it is under way in the driver's
turn, or it is over and the driver is gone. -/
theorem Orderly.takeWrite (h : l.Orderly) (hready : .driver ∉ l.ready)
    (hdriver : l.driver = .choosing) {rest : List Nat} (hqueue : l.writes = t :: rest) {s : Stage}
    (hturn : s = .underWay ∧ l'.driver = .writing t ∨ s = .done ∧ l'.driver = .absent)
    (hwrites : l'.writes = rest) (hreads : l'.reads = l.reads) (hrunning : l'.running = l.running)
    (hstage : ∀ i, l'.stage? i = if i = t then some (.write, s) else l.stage? i)
    (htasks : ∀ task, task ∈ l'.ready → task ∈ l.ready ∨ ∃ i, task = .action i) :
    l'.Orderly := by
  have hwaits := h.stage?_first hqueue
  have hsorted := h.sorted
  rw [hqueue, List.pairwise_cons] at hsorted
  have hmem : ∀ i, i ∈ rest ↔ i ≠ t ∧ l.stage? i = some (.write, .waiting) := by
    intro i
    have := h.queued_iff i
    have := hsorted.1 i
    grind
  have hgone : .driver ∉ l'.ready := fun hin => by
    have := htasks .driver hin
    grind
  constructor
  all_goals simp -failIfUnchanged only [hwrites, hreads, hrunning, hstage]
  case queued_iff => grind
  case sorted => exact hsorted.2
  case begun_before =>
    intro w s i hw hs hi
    have := h.begun_before w s i
    have := hsorted.1 i hi
    grind
  case read_queued =>
    intro i hi
    have := h.read_queued i hi
    grind
  case writing_iff =>
    intro i
    have := h.writing_iff i
    grind
  case last_begun =>
    intro w i s hdriver' hi hs
    have := h.begun_before i s t
    grind
  case reading =>
    intro i s hi hs hnot
    have := h.reading i s
    grind
  case batch =>
    intro batch i hbatch
    grind
  case read_after =>
    intro i s w s' hi hnot hw hlt
    have := h.read_after i s w
    grind
  case runs => exact fun _ => h.runs (by simp [hdriver])
  case one_driver => rw [List.count_eq_zero_of_not_mem hgone]; exact Nat.zero_le _
  case driver_ready => exact fun hin => absurd hin hgone
  case jobs =>
    intro i hi
    have := htasks (.job i) hi
    have := h.jobs i
    grind

/-- All reads leave the queue when no write is left. -/
theorem Orderly.startReads (h : l.Orderly) (hready : .driver ∉ l.ready)
    (hdriver : l.driver = .choosing) (hwrites : l.writes = []) :
    Orderly (wake { l with reads := [], driver := .reading l.reads } (l.reads.map .job)) := by
  have hover : ∀ w s, l.stage? w = some (.write, s) → s = .done := fun w s hw =>
    h.over_of_choosing hdriver hw fun hs => by
      rw [hs, ← h.queued_iff, hwrites] at hw
      cases hw
  have hgone : .driver ∉ l.ready ++ l.reads.map .job := by simpa using hready
  exact { h with
    read_queued := fun _ hi => by cases hi
    writing_iff := fun i => by
      refine (h.writing_iff i).trans ?_
      rw [hdriver]
      exact ⟨nofun, nofun⟩
    last_begun := fun _ _ _ hturn => by cases hturn
    reading := fun i s hi hs _ => by
      refine ⟨l.reads, rfl, ?_⟩
      by_contra hnot
      obtain ⟨batch, hbatch, -⟩ := h.reading i s hi hs hnot
      rw [hdriver] at hbatch
      cases hbatch
    batch := fun batch i hbatch hi => by
      cases hbatch
      exact ⟨nofun, _, h.read_queued i hi⟩
    read_after := fun i s w s' _ _ hw _ => hover w s' hw
    runs := fun _ => h.runs (by simp [hdriver])
    one_driver := by
      rw [wake, List.count_eq_zero_of_not_mem hgone]
      exact Nat.zero_le _
    driver_ready := fun hin => absurd hin hgone
    jobs := fun i hi => by
      refine ⟨nofun, ?_⟩
      rcases List.mem_append.mp hi with hi | hi
      · exact (h.jobs i hi).2
      · obtain ⟨j, hj, hij⟩ := List.mem_map.mp hi
        cases hij
        exact ⟨.read, .waiting, by simp, h.read_queued i hj⟩ }

theorem Orderly.stop (h : l.Orderly) (hready : .driver ∉ l.ready)
    (hdriver : l.driver = .choosing) :
    Orderly { l with running := false, driver := .absent } :=
  { h with
    writing_iff := fun i => by
      refine (h.writing_iff i).trans ?_
      rw [hdriver]
      exact ⟨nofun, nofun⟩
    last_begun := fun _ _ _ hturn => by cases hturn
    reading := fun i s hi hs hnot => by
      obtain ⟨batch, hbatch, -⟩ := h.reading i s hi hs hnot
      rw [hdriver] at hbatch
      cases hbatch
    batch := fun _ _ hbatch => by cases hbatch
    runs := fun hne => absurd rfl hne
    driver_ready := fun hin => absurd hin hready }

/-- The turn of a write ends. -/
theorem Orderly.endWrite (h : l.Orderly) (hready : .driver ∉ l.ready)
    (hdriver : l.driver = .writing t) (hdriver' : l'.driver = .choosing)
    (hwrites : l'.writes = l.writes) (hreads : l'.reads = l.reads) (hrunning : l'.running = l.running)
    (hstage : ∀ i, l'.stage? i = if i = t then some (.write, .done) else l.stage? i)
    (htasks : l'.ready = .driver :: l.ready) : l'.Orderly := by
  have hturn := (h.writing_iff t).mpr hdriver
  constructor
  all_goals simp -failIfUnchanged only [hwrites, hreads, hrunning, hdriver', hstage, htasks]
  case queued_iff =>
    intro i
    have := h.queued_iff i
    grind
  case sorted => exact h.sorted
  case begun_before =>
    intro w s i hw hs hi
    have := h.begun_before w s i
    have := h.begun_before t .underWay i hturn
    grind
  case read_queued =>
    intro i hi
    have := h.read_queued i hi
    grind
  case writing_iff =>
    intro i
    have := h.writing_iff i
    grind
  case last_begun => exact fun _ _ _ => nofun
  case reading =>
    intro i s hi hs hnot
    have := h.reading i s
    grind
  case batch => exact fun _ _ hbatch => by cases hbatch
  case read_after =>
    intro i s w s' hi hnot hw hlt
    have := h.read_after i s w
    grind
  case runs => exact fun _ => h.runs (by simp [hdriver])
  case one_driver =>
    simp [List.count_cons_self, List.count_eq_zero_of_not_mem hready]
  case driver_ready => exact fun _ => nofun
  case jobs =>
    intro i hi
    have := h.jobs i (by simpa using hi)
    grind

/-- The turn of a batch ends when its reads are over. -/
theorem Orderly.endReads (h : l.Orderly) (hready : .driver ∉ l.ready) {batch : List Nat}
    (hdriver : l.driver = .reading batch) (hover : ∀ t ∈ batch, l.isOver t = true) :
    Orderly (resume { l with driver := .choosing } .driver) :=
  { h with
    writing_iff := fun i => by
      refine (h.writing_iff i).trans ?_
      rw [hdriver]
      exact ⟨nofun, nofun⟩
    last_begun := fun _ _ _ hturn => by cases hturn
    reading := fun i s hi hs hnot => by
      obtain ⟨batch', hbatch, hin⟩ := h.reading i s hi hs hnot
      rw [hdriver] at hbatch
      cases hbatch
      exact absurd (stage_of_isOver (hover i hin) hi) hs
    batch := fun _ _ hbatch => by cases hbatch
    runs := fun _ => h.runs (by simp [hdriver])
    one_driver := by
      simp [resume, List.count_cons_self, List.count_eq_zero_of_not_mem hready]
    driver_ready := fun _ => nofun
    jobs := fun i hi => h.jobs i (by simpa [resume] using hi) }

/-- The driver goes on waiting for the reads that are not over. -/
theorem Orderly.awaitReads (h : l.Orderly) (hready : .driver ∉ l.ready) {batch : List Nat}
    (hdriver : l.driver = .reading batch) :
    Orderly { l with driver := .reading (batch.filter (!l.isOver ·)) } :=
  { h with
    writing_iff := fun i => by
      refine (h.writing_iff i).trans ?_
      rw [hdriver]
      exact ⟨nofun, nofun⟩
    last_begun := fun _ _ _ hturn => by cases hturn
    reading := fun i s hi hs hnot => by
      obtain ⟨batch', hbatch, hin⟩ := h.reading i s hi hs hnot
      rw [hdriver] at hbatch
      cases hbatch
      refine ⟨_, rfl, List.mem_filter.mpr ⟨hin, ?_⟩⟩
      rw [Bool.not_eq_true', Bool.eq_false_iff]
      exact fun hover => hs (stage_of_isOver hover hi)
    batch := fun batch' i hbatch hi => by
      cases hbatch
      exact h.batch batch i hdriver (List.mem_filter.mp hi).1
    runs := fun _ => h.runs (by simp [hdriver])
    driver_ready := fun hin => absurd hin hready }

/-! ## Jobs and actions -/

theorem Orderly.wakeDriver (h : l.Orderly) (hdriver : l.driver ≠ .absent) :
    l.wakeDriver.Orderly := by
  rw [WorkspaceLock.wakeDriver]
  split
  · exact h
  · rename_i hnot
    rw [List.contains_iff_mem] at hnot
    exact { h with
      one_driver := by
        rw [wake, List.count_append, List.count_eq_zero_of_not_mem hnot]
        simp
      driver_ready := fun _ => hdriver
      jobs := fun i hi => h.jobs i (by simpa [wake] using hi) }

/-- An action that waits in no queue gets on, and a read as far as the end of
its turn. -/
theorem Orderly.setProgress (h : l.Orderly) {k : Kind} {s : Stage} {p : Progress}
    (ht : l.stage? t = some (k, s)) (hkind : k ≠ .write) (hqueue : t ∉ l.reads)
    (hs : s ≠ .done ∨ p.stage = .done) : (l.setProgress t p).Orderly := by
  have hstage := stage?_setProgress ht p
  constructor
  all_goals simp -failIfUnchanged only [hstage, turns_setProgress]
  case queued_iff =>
    intro i
    have := h.queued_iff i
    grind
  case sorted => exact h.sorted
  case begun_before =>
    intro w s i hw
    have := h.begun_before w s i
    grind
  case read_queued =>
    intro i hi
    have := h.read_queued i hi
    grind
  case writing_iff =>
    intro i
    have := h.writing_iff i
    grind
  case last_begun =>
    intro w i s hdriver hi hs
    have := h.last_begun w i s hdriver
    grind
  case reading =>
    intro i s hi hs hnot
    have := h.reading i
    grind
  case batch =>
    intro batch i hbatch hi
    have := h.batch batch i hbatch hi
    grind
  case read_after =>
    intro i s w s' hi hnot hw
    have := h.read_after i
    grind
  case runs => exact h.runs
  case one_driver => exact h.one_driver
  case driver_ready => exact h.driver_ready
  case jobs =>
    intro i hi
    have := h.jobs i hi
    grind

/-- A read that is over is known to the driver, which waits for it. -/
theorem Orderly.readIsOver (h : l.Orderly) {kind : Kind}
    (hdriver : kind = .read → l.driver ≠ .absent) : (l.readIsOver kind).Orderly := by
  rw [WorkspaceLock.readIsOver]
  split
  · exact h.wakeDriver (hdriver ‹_›)
  · exact h

/-- There is a driver while a read that has left the queue is not over. -/
theorem Orderly.driver_of_reading (h : l.Orderly) {s : Stage}
    (ht : l.stage? t = some (.read, s)) (hs : s ≠ .done) (hqueue : t ∉ l.reads) :
    l.driver ≠ .absent := by
  obtain ⟨batch, hbatch, -⟩ := h.reading t s ht hs hqueue
  rw [hbatch]
  exact nofun

/-- An action ends: the driver learns it of a write, a job of all others. -/
theorem Orderly.endAction (h : l.Orderly) {k : Kind} (ht : l.stage? t = some (k, .underWay))
    (outcome : Outcome) : (l.endAction t k outcome).Orderly := by
  have hset : (l.setProgress t (.ended outcome)).Orderly := h.alike (alike_setProgress ht)
  dsimp only [WorkspaceLock.endAction]
  split
  · rename_i hk
    rw [hk, h.writing_iff] at ht
    refine hset.wakeDriver ?_
    rw [(turns_setProgress l t _).2.2.2.1, ht]
    exact nofun
  · rename_i hk
    have hnot : t ∉ l.reads := fun hin => by
      rw [h.read_queued t hin] at ht
      cases ht
    exact { hset with
      one_driver := by
        rw [wake, List.count_append, List.count_cons_of_ne (by simp), List.count_nil, Nat.add_zero]
        exact hset.one_driver
      driver_ready := fun hin => hset.driver_ready (by simpa [wake] using hin)
      jobs := fun i hi => by
        rcases List.mem_append.mp hi with hi | hi
        · exact hset.jobs i hi
        · cases List.mem_singleton.mp hi
          exact ⟨hnot, k, .underWay, hk, ((alike_setProgress ht).stage t).trans ht⟩ }

/-! ## Steps -/

/-- What is known of a task that was taken from those that are ready. -/
structure Taken (l : WorkspaceLock) (task : Task) : Prop where
  driver : task = .driver → .driver ∉ l.ready ∧ l.driver ≠ .absent
  job : ∀ t, task = .job t → t ∉ l.reads ∧ ∃ k s, k ≠ .write ∧ l.stage? t = some (k, s)

/-- Taking a task leaves everything in order. -/
theorem Orderly.take (h : l.Orderly) {task : Task} {before after : List Task}
    (hready : l.ready = before ++ task :: after) :
    Orderly { l with ready := before ++ after } ∧
      Taken { l with ready := before ++ after } task := by
  have hsub : ∀ other, other ∈ before ++ after → other ∈ l.ready := by
    intro other
    rw [hready]
    simp only [List.mem_append, List.mem_cons]
    tauto
  have hcount : l.ready.count .driver =
      (before ++ after).count .driver + if task = .driver then 1 else 0 := by
    rw [hready, List.count_append, List.count_append, List.count_cons]
    simp only [beq_iff_eq]
    omega
  have hone := h.one_driver
  refine ⟨{ h with
    one_driver := by
      dsimp only
      omega
    driver_ready := fun hin => h.driver_ready (hsub _ hin)
    jobs := fun t ht => h.jobs t (hsub _ ht) }, ?_, ?_⟩
  · rintro rfl
    rw [if_pos rfl] at hcount
    exact ⟨List.count_eq_zero.mp (by dsimp only; omega), h.driver_ready (by simp [hready])⟩
  · rintro t rfl
    exact h.jobs t (by simp [hready])

/-- A job reports that its action is over. -/
theorem Orderly.overJob (h : l.Orderly) (htask : l.Taken (.job t)) {a : Ticket}
    (hticket : l.ticket? t = some a) (hbefore : a.progress.stage ≠ .done) {p : Progress}
    (hover : p.stage = .done) : ((l.setProgress t p).readIsOver a.kind).Orderly := by
  obtain ⟨hqueue, k, s, hk, hstage⟩ := htask.job t rfl
  have heq := stage?_eq_some hticket
  rw [hstage, Option.some.injEq, Prod.mk.injEq] at heq
  refine (h.setProgress hstage hk hqueue (.inr hover)).readIsOver fun hread => ?_
  rw [(turns_setProgress l t p).2.2.2.1]
  rw [heq.1, hread, heq.2] at hstage
  exact h.driver_of_reading hstage hbefore hqueue

/-- **Running a task keeps the order.** -/
theorem Orderly.effect (h : l.Orderly) {task : Task} (htask : l.Taken task)
    (heffect : l.Effect task l') : l'.Orderly := by
  cases heffect with
  | nothing => exact h
  | startWrite hdriver hqueue hticket hcall =>
    have hwaits := (h.queued_iff _).mp (hqueue ▸ List.mem_cons_self)
    exact h.takeWrite (htask.driver rfl).1 hdriver hqueue (.inl ⟨rfl, rfl⟩) rfl rfl rfl
      (stage?_setProgress hwaits _) (fun task htask => (List.mem_append.mp htask).imp_right
        fun hin => ⟨_, List.mem_singleton.mp hin⟩)
  | refuseWrite hdriver hqueue hcall =>
    have hwaits := (h.queued_iff _).mp (hqueue ▸ List.mem_cons_self)
    exact h.takeWrite (htask.driver rfl).1 hdriver hqueue (.inr ⟨rfl, rfl⟩) rfl rfl rfl
      (stage?_setProgress hwaits _) (fun _ => .inl)
  | startReads hdriver hwrites hreads => exact h.startReads (htask.driver rfl).1 hdriver hwrites
  | stop hdriver hwrites hreads => exact h.stop (htask.driver rfl).1 hdriver
  | endWrite hdriver hticket hended =>
    exact h.endWrite (htask.driver rfl).1 hdriver rfl rfl rfl rfl
      (stage?_setProgress ((h.writing_iff _).mpr hdriver) _) rfl
  | endReads hdriver hover => exact h.endReads (htask.driver rfl).1 hdriver hover
  | awaitReads hdriver hleft => exact h.awaitReads (htask.driver rfl).1 hdriver
  | @callJob t a hticket hwaits hcall =>
    obtain ⟨hqueue, k, s, hk, hstage⟩ := htask.job t rfl
    have hs : s ≠ .done := by
      rw [stage?_eq_some hticket, hwaits] at hstage
      cases hstage
      exact nofun
    exact (h.setProgress hstage hk hqueue (.inl hs)).alike (alike_wake_actions _ [t])
  | @refuseJob t a hticket hwaits hcall =>
    exact h.overJob htask hticket (by simp [hwaits, Progress.stage]) rfl
  | @endJob t a outcome hticket hended =>
    exact h.overJob htask hticket (by simp [hended, Progress.stage]) rfl
  | finish hticket hruns hends =>
    have hstage := stage?_eq_some hticket
    rw [hruns] at hstage
    exact h.endAction hstage _
  | @pass t a act rest log hticket hruns hact hcall =>
    have hstage := stage?_eq_some hticket
    rw [hruns] at hstage
    have hlog : Alike l { l with log := log } := ⟨rfl, rfl, rfl, rfl, fun _ => rfl, rfl, fun _ => id⟩
    have hset := alike_setProgress (l := { l with log := log }) (p := .running rest) hstage
    exact h.alike (hlog.trans (hset.trans (alike_resume_action _ _)))
  | @call t a act rest call hticket hruns hact hcall =>
    have hstage := stage?_serve call (stage?_eq_some hticket)
    rw [hruns] at hstage
    have hset := alike_setProgress (p := .running rest) hstage
    exact (h.serve call).alike (hset.trans (alike_resume_action _ _))
  | block wait hticket hruns hcall =>
    exact h.alike ⟨rfl, rfl, rfl, rfl, fun _ => rfl, rfl, fun _ => id⟩

end WorkspaceLock

end Workbench
