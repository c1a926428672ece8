import Workbench.Proofs.Worker.Lock
/-!
# When the lock has no driver

A lock starts a driver when something comes and none is running, and goes by
what it has noted: `running`. The note is wrong after a write has panicked as
it was called, because the call is made by the driver, which is gone with it.
Until then nobody is forgotten (`Attended`): there is a driver while something
is queued, and the driver as well as every action is ready as soon as there
is something for it to do, or is held up by a gate or a token. After it, what
is queued stays queued.
-/

namespace Workbench

namespace Lock

/-- The task that takes an action further. -/
def Progress.task? (t : Nat) (kind : Kind) : Progress → Option Task
  | waiting => some (.job t)
  | running _ => some (.action t)
  | ended _ => some (if kind = .write then .driver else .job t)
  | _ => none

end Lock

open Lock

namespace WorkspaceLock

variable {l l' : WorkspaceLock} {calls : List Call} {task : Task} {taken : Option Task} {t : Nat}

/-- The kind of a submitted action and what has become of it. -/
def state? (l : WorkspaceLock) (t : Nat) : Option (Kind × Progress) :=
  (l.ticket? t).map fun a => (a.kind, a.progress)

/-- The lock says that a driver is running, and there is none. -/
def Lost (l : WorkspaceLock) : Prop := l.running = true ∧ l.driver = .absent

/-- A write has panicked when it was called. -/
def Refused (l : WorkspaceLock) : Prop := ∃ t, l.state? t = some (.write, .dropped)

/-- A task will be run: it is ready, or is the one that was taken to be run,
or is the action that waits for something. -/
def Due (taken : Option Task) (l : WorkspaceLock) (task : Task) : Prop :=
  task ∈ l.ready ∨ taken = some task ∨ ∃ t wait, task = .action t ∧ (t, wait) ∈ l.blocked

/-- **Nobody is forgotten**, when a task may have been taken. -/
structure Attended (taken : Option Task) (l : WorkspaceLock) : Prop where
  /-- The driver is lost by a write that panics when it is called, and only
  by that. -/
  refused_iff : l.Refused ↔ l.Lost
  /-- The driver takes the next turn when it can. -/
  choosing : l.driver = .choosing → l.Due taken .driver
  /-- It learns that the last read of a batch is over. -/
  reading : ∀ batch, l.driver = .reading batch →
    l.Due taken .driver ∨ ∃ t ∈ batch, l.isOver t = false
  /-- An action that is not queued is taken further by its task. -/
  actions : ∀ t k p task, l.state? t = some (k, p) → p.task? t k = some task →
    t ∈ l.writes ∨ t ∈ l.reads ∨ l.Due taken task

/-! ## The states of actions -/

theorem state?_eq_some {a : Ticket} (h : l.ticket? t = some a) :
    l.state? t = some (a.kind, a.progress) := by
  rw [state?, h]
  rfl

theorem stage?_of_state? {k : Kind} {p : Progress} (h : l.state? t = some (k, p)) :
    l.stage? t = some (k, p.stage) := by
  obtain ⟨a, ha, hstate⟩ := Option.map_eq_some_iff.mp h
  cases hstate
  exact stage?_eq_some ha

theorem isOver_of_state? {k : Kind} {p : Progress} (h : l.state? t = some (k, p)) :
    l.isOver t = p.isOver := by
  obtain ⟨a, ha, hstate⟩ := Option.map_eq_some_iff.mp h
  cases hstate
  rw [isOver, ha, Option.any_some]

theorem isOver_congr (h : l'.state? t = l.state? t) : l'.isOver t = l.isOver t := by
  have hany : ∀ l : WorkspaceLock, l.isOver t = (l.state? t).any (·.2.isOver) := fun l => by
    rw [isOver, state?, Option.any_map]
  rw [hany, hany, h]

theorem state?_congr (h : l'.tickets = l.tickets) (t : Nat) : l'.state? t = l.state? t := by
  rw [state?, state?, ticket?, ticket?, h]

theorem state?_setProgress {k : Kind} {p : Progress} (h : l.state? t = some (k, p)) (q : Progress)
    (i : Nat) : (l.setProgress t q).state? i = if i = t then some (k, q) else l.state? i := by
  obtain ⟨a, ha, hstate⟩ := Option.map_eq_some_iff.mp h
  cases hstate
  rw [state?, state?, ticket?_setProgress]
  by_cases heq : i = t
  · subst heq
    simp [ha]
  · simp [heq, Ne.symm heq]

theorem state?_of_map (f : Nat → Ticket → Ticket)
    (h : ∀ i, l'.ticket? i = (l.ticket? i).map (f i))
    (hf : ∀ i a, (f i a).kind = a.kind ∧ (f i a).progress = a.progress) (t : Nat) :
    l'.state? t = l.state? t := by
  rw [state?, state?, h, Option.map_map]
  congr 1
  funext a
  rw [Function.comp_apply, (hf t a).1, (hf t a).2]

theorem state?_cancelWrite (l : WorkspaceLock) (t : Nat) : l.cancelWrite.state? t = l.state? t :=
  state?_of_map _ (ticket?_cancelWrite l) (fun i a => by split <;> exact ⟨rfl, rfl⟩) t

theorem state?_append (l : WorkspaceLock) (a : Ticket) (i : Nat) :
    state? { l with tickets := l.tickets ++ [a] } i =
      if i = l.tickets.length then some (a.kind, a.progress) else l.state? i := by
  rw [state?, ticket?_append]
  split <;> rfl

/-! ## What is due stays due -/

theorem Due.congr {taken' : Option Task} (hready : ∀ task ∈ l.ready, task ∈ l'.ready)
    (hblocked : ∀ t wait, (t, wait) ∈ l.blocked →
      (t, wait) ∈ l'.blocked ∨ .action t ∈ l'.ready)
    (htaken : taken = some task → l'.Due taken' task) (h : l.Due taken task) :
    l'.Due taken' task := by
  rcases h with h | h | ⟨t, wait, rfl, h⟩
  · exact .inl (hready _ h)
  · exact htaken h
  · rcases hblocked t wait h with h | h
    · exact .inr (.inr ⟨t, wait, rfl, h⟩)
    · exact .inl h

theorem Due.mono (hready : ∀ task ∈ l.ready, task ∈ l'.ready) (hblocked : l'.blocked = l.blocked)
    (h : l.Due taken task) : l'.Due taken task :=
  h.congr hready (fun _ _ hmem => .inl (hblocked ▸ hmem)) fun htaken => .inr (.inl htaken)

/-- What was due apart from the task that was taken is due without it. -/
theorem Due.others {other : Task} (h : l.Due (some task) other) (hne : other ≠ task)
    (hready : ∀ task ∈ l.ready, task ∈ l'.ready) (hblocked : ∀ b ∈ l.blocked, b ∈ l'.blocked) :
    l'.Due none other :=
  h.congr hready (fun _ _ hmem => .inl (hblocked _ hmem)) fun htaken =>
    absurd (Option.some.inj htaken).symm hne

theorem Due.unblock (met : Nat × Wait → Bool) (h : l.Due taken task) :
    (l.unblock met).Due taken task := by
  refine h.congr (fun _ h => List.mem_append_left _ h) (fun t wait h => ?_) fun h => .inr (.inl h)
  cases hmet : met (t, wait) with
  | false => exact .inl (List.mem_filter.mpr ⟨h, by simp [hmet]⟩)
  | true =>
    refine .inr (List.mem_append_right _ (List.mem_map.mpr ⟨(t, wait), ?_, rfl⟩))
    exact List.mem_filter.mpr ⟨h, hmet⟩

/-- What changes neither the turns nor what has become of the actions forgets
nobody. -/
theorem Attended.congr {taken' : Option Task} (h : l.Attended taken)
    (hwrites : l'.writes = l.writes) (hreads : l'.reads = l.reads)
    (hrunning : l'.running = l.running) (hdriver : l'.driver = l.driver)
    (hstate : ∀ t, l'.state? t = l.state? t)
    (hdue : ∀ task, l.Due taken task → l'.Due taken' task) : l'.Attended taken' where
  refused_iff := by
    have hiff := h.refused_iff
    rw [Refused, Lost] at hiff ⊢
    simp only [hstate, hrunning, hdriver]
    exact hiff
  choosing hchoosing := hdue _ (h.choosing (hdriver ▸ hchoosing))
  reading batch hreading := by
    rcases h.reading batch (hdriver ▸ hreading) with hready | ⟨t, ht, hover⟩
    · exact .inl (hdue _ hready)
    · exact .inr ⟨t, ht, (isOver_congr (hstate t)).trans hover⟩
  actions t k p task ht htask := by
    rw [hwrites, hreads]
    exact (h.actions t k p task (hstate t ▸ ht) htask).imp_right (.imp_right (hdue task))

theorem Attended.alike (h : l.Attended taken) (hl : l.Alike l')
    (hstate : ∀ t, l'.state? t = l.state? t)
    (hdue : ∀ task, l.Due taken task → l'.Due taken task) : l'.Attended taken :=
  h.congr hl.writes hl.reads hl.running hl.driver hstate hdue

/-! ## Calls -/

theorem attended_empty : empty.Attended none where
  refused_iff := by simp [Refused, Lost, empty, state?, ticket?]
  choosing h := by cases h
  reading _ h := by cases h
  actions _ _ _ _ h := by simp [empty, state?, ticket?] at h

theorem Attended.cancel (h : l.Attended taken) (t : Nat) : (l.cancel t).Attended taken := by
  refine h.alike (alike_cancel l t) ?_ fun task hdue => ?_
  · exact state?_of_map _ (ticket?_cancel l t) fun i a => by split <;> exact ⟨rfl, rfl⟩
  · exact Due.unblock (l := l.modifyTicket t fun a => { a with cancelled := true }) _ hdue

theorem Attended.cancelWrite (h : l.Attended taken) : l.cancelWrite.Attended taken := by
  rw [WorkspaceLock.cancelWrite]
  cases l.newest with
  | none => exact h
  | some t => exact h.cancel t

theorem Attended.forget (h : l.Attended taken) (label : String) :
    (l.forget label).Attended taken := by
  refine h.alike (alike_forget l label) ?_ fun _ => id
  exact state?_of_map _ (ticket?_forget l label) fun i a => by split <;> exact ⟨rfl, rfl⟩

theorem Attended.openGate (h : l.Attended taken) (gate : String) :
    (l.openGate gate).Attended taken :=
  h.alike (alike_openGate l gate) (fun _ => rfl) fun _ hdue => hdue.unblock _

/-- A driver is started if the lock is not running, and it is the only one. -/
theorem Attended.ensureDriver (h : l.Attended taken) : l.ensureDriver.Attended taken := by
  rw [WorkspaceLock.ensureDriver]
  split
  · exact h
  · rename_i hrun
    have hnot : ¬ l.Refused := fun hrefused => hrun (h.refused_iff.mp hrefused).1
    have hdue : ∀ task, l.Due taken task → Due taken
        { l with running := true, driver := .choosing, ready := l.ready ++ [.driver] } task :=
      fun _ => Due.mono (fun _ hmem => List.mem_append_left _ hmem) rfl
    exact {
      refused_iff := ⟨fun hrefused => absurd hrefused hnot, fun hlost => by cases hlost.2⟩
      choosing := fun _ => .inl (List.mem_append_right _ (List.mem_singleton_self _))
      reading := fun _ hdriver => by cases hdriver
      actions := fun t k p task ht htask =>
        (h.actions t k p task ht htask).imp_right (.imp_right (hdue task)) }

/-- A submitted action is in a queue, or its job is ready. -/
theorem Attended.append (h : l.Attended taken) {a : Ticket} (hwaits : a.progress = .waiting)
    {writes reads : List Nat} {ready : List Task}
    (hw : writes = if a.kind = .write then l.writes ++ [l.tickets.length] else l.writes)
    (hr : reads = if a.kind = .read then l.reads ++ [l.tickets.length] else l.reads)
    (hready : ready = if a.kind = .immediate then l.ready ++ [.job l.tickets.length] else l.ready) :
    Attended taken { l with
      tickets := l.tickets ++ [a], writes := writes, reads := reads, ready := ready } := by
  have hstate : ∀ i, state? { l with
      tickets := l.tickets ++ [a], writes := writes, reads := reads, ready := ready } i =
      if i = l.tickets.length then some (a.kind, .waiting) else l.state? i := by
    intro i
    rw [← hwaits]
    exact state?_append l a i
  have hdue : ∀ task, l.Due taken task → Due taken { l with
      tickets := l.tickets ++ [a], writes := writes, reads := reads, ready := ready } task := by
    have hmem : ∀ task ∈ l.ready, task ∈ ready := by grind
    exact fun _ => Due.mono hmem rfl
  have hold : ∀ t x, l.state? t = some x → t < l.tickets.length := fun t x ht =>
    stage?_lt (stage?_of_state? ht)
  exact {
    refused_iff := by
      have hiff := h.refused_iff
      rw [Refused, Lost] at hiff ⊢
      simp only [hstate]
      rw [← hiff]
      constructor
      · rintro ⟨t, ht⟩
        split at ht
        · simp at ht
        · exact ⟨t, ht⟩
      · rintro ⟨t, ht⟩
        have := hold t _ ht
        exact ⟨t, by rw [if_neg (by omega), ht]⟩
    choosing := fun hdriver => hdue _ (h.choosing hdriver)
    reading := fun batch hdriver => by
      rcases h.reading batch hdriver with hdriver | ⟨t, ht, hover⟩
      · exact .inl (hdue _ hdriver)
      · refine .inr ⟨t, ht, ?_⟩
        by_cases hlt : t = l.tickets.length
        · exact isOver_of_state? (p := .waiting) (by rw [hstate, if_pos hlt])
        · exact (isOver_congr (by rw [hstate, if_neg hlt])).trans hover
    actions := fun t k p task ht htask => by
      rw [hstate] at ht
      by_cases heq : t = l.tickets.length
      · rw [if_pos heq, Option.some.injEq, Prod.mk.injEq] at ht
        obtain ⟨hkind, rfl⟩ := ht
        cases htask
        cases k with
        | write => exact .inl (by simp [hw, hkind, heq])
        | read => exact .inr (.inl (by simp [hr, hkind, heq]))
        | immediate => exact .inr (.inr (.inl (by simp [hready, hkind, heq])))
      · rw [if_neg heq] at ht
        rcases h.actions t k p task ht htask with hmem | hmem | hmem
        · exact .inl (by dsimp only; grind)
        · exact .inr (.inl (by dsimp only; grind))
        · exact .inr (.inr (hdue task hmem)) }

theorem Attended.submit (h : l.Attended taken) (kind : Kind) (label : String)
    (refusal : Option String) (body : List Act) :
    (l.submit kind label refusal body).Attended taken := by
  have happend := h.append (a := ⟨kind, label, refusal, body, false, true, .waiting⟩) rfl rfl rfl rfl
  cases kind with
  | write =>
    refine Attended.ensureDriver ?_
    have hcancel := happend.cancelWrite
    unfold WorkspaceLock.cancelWrite at hcancel ⊢
    dsimp only at hcancel ⊢
    cases hnewest : l.newest with
    | none =>
      rw [hnewest] at hcancel
      exact { hcancel with }
    | some newest =>
      rw [hnewest] at hcancel
      exact { hcancel with }
  | read => exact happend.ensureDriver
  | immediate => exact happend

/-- A call changes nothing about the actions that were submitted before. -/
theorem state?_serve {x : Kind × Progress} (call : Call) (h : l.state? t = some x) :
    (l.serve call).state? t = some x := by
  cases call with
  | submit kind label refusal body =>
    have happend : state? { l with
        tickets := l.tickets ++ [⟨kind, label, refusal, body, false, true, .waiting⟩] } t =
        some x := by
      rw [state?_append, if_neg (Nat.ne_of_lt (stage?_lt (stage?_of_state? (p := x.2) h)))]
      exact h
    cases kind with
    | write =>
      exact (state?_congr tickets_ensureDriver t).trans ((state?_cancelWrite _ t).trans happend)
    | read => exact (state?_congr tickets_ensureDriver t).trans happend
    | immediate => exact happend
  | cancelWrite => exact (state?_cancelWrite l t).trans h
  | cancelToken i =>
    exact (state?_of_map _ (ticket?_cancel l i) (fun i a => by split <;> exact ⟨rfl, rfl⟩) t).trans h
  | forget label =>
    exact (state?_of_map _ (ticket?_forget l label) (fun i a => by split <;> exact ⟨rfl, rfl⟩)
      t).trans h
  | openGate gate => exact h

/-- **A call forgets nobody.** -/
theorem Attended.serve (h : l.Attended taken) (call : Call) : (l.serve call).Attended taken := by
  cases call with
  | submit kind label refusal body => exact h.submit kind label refusal body
  | cancelWrite => exact h.cancelWrite
  | cancelToken t => exact h.cancel t
  | forget label => exact h.forget label
  | openGate gate => exact h.openGate gate

/-! ## Steps of actions and jobs -/

theorem Due.wakeDriver (h : l.Due taken task) : l.wakeDriver.Due taken task := by
  rw [WorkspaceLock.wakeDriver]
  split
  · exact h
  · exact h.mono (fun _ hmem => List.mem_append_left _ hmem) rfl

theorem running_wakeDriver (l : WorkspaceLock) : l.wakeDriver.running = l.running := by
  rw [wakeDriver]
  split <;> rfl

theorem due_wakeDriver (l : WorkspaceLock) : l.wakeDriver.Due taken .driver := by
  rw [WorkspaceLock.wakeDriver]
  split
  · rename_i hready
    exact .inl (List.contains_iff_mem.mp hready)
  · exact .inl (List.mem_append_right _ (List.mem_singleton_self _))

/-- The task of an action takes the action one step further. -/
theorem Attended.advance (h : l.Attended (some task)) {k : Kind} {p q : Progress}
    (ht : l.state? t = some (k, p)) (htask : task = .job t ∨ task = .action t)
    (hwrites : l'.writes = l.writes) (hreads : l'.reads = l.reads)
    (hrunning : l'.running = l.running) (hdriver : l'.driver = l.driver)
    (hstate : ∀ i, l'.state? i = if i = t then some (k, q) else l.state? i)
    (hbefore : p ≠ .dropped) (hafter : k = .write → q ≠ .dropped)
    (hdue : ∀ other, other ≠ task → l.Due (some task) other → l'.Due none other)
    (hself : ∀ other, q.task? t k = some other → l'.Due none other)
    (hover : ∀ batch, q.isOver = true → l.driver = .reading batch → t ∈ batch →
      l'.Due none .driver) : l'.Attended none where
  refused_iff := by
    have hiff := h.refused_iff
    rw [Refused, Lost] at hiff ⊢
    rw [hrunning, hdriver, ← hiff]
    simp only [hstate]
    constructor
    · rintro ⟨i, hi⟩
      grind
    · rintro ⟨i, hi⟩
      refine ⟨i, ?_⟩
      grind
  choosing hchoosing := by
    refine hdue _ ?_ (h.choosing (hdriver ▸ hchoosing))
    rcases htask with rfl | rfl <;> exact nofun
  reading batch hreading := by
    rw [hdriver] at hreading
    rcases h.reading batch hreading with hready | ⟨i, hi, hnot⟩
    · refine .inl (hdue _ ?_ hready)
      rcases htask with rfl | rfl <;> exact nofun
    · by_cases heq : i = t
      · subst heq
        cases hq : q.isOver with
        | true => exact .inl (hover batch hq hreading hi)
        | false =>
          have hi' := hstate i
          rw [if_pos rfl] at hi'
          exact .inr ⟨i, hi, (isOver_of_state? hi').trans hq⟩
      · refine .inr ⟨i, hi, (isOver_congr ?_).trans hnot⟩
        rw [hstate, if_neg heq]
  actions i k' p' other hi hother := by
    rw [hwrites, hreads]
    rw [hstate] at hi
    by_cases heq : i = t
    · subst heq
      rw [if_pos rfl] at hi
      cases hi
      exact .inr (.inr (hself other hother))
    · rw [if_neg heq] at hi
      refine (h.actions i k' p' other hi hother).imp_right (.imp_right (hdue other ?_))
      -- The tasks of other actions are not the one that was taken.
      rintro rfl
      cases p' <;> rcases htask with rfl | rfl <;> simp [Progress.task?] at hother <;> grind

/-! ## Steps of the driver -/

/-- While the driver is at the turn, no write has been given up. -/
theorem Attended.not_refused (h : l.Attended taken) (hdriver : l.driver ≠ .absent) : ¬ l.Refused :=
  fun hrefused => hdriver (h.refused_iff.mp hrefused).2

/-- What is not a write that has ended does not wait for the driver. -/
theorem Attended.others (h : l.Attended (some .driver)) (horderly : l.Orderly)
    (hready : ∀ task ∈ l.ready, task ∈ l'.ready) (hblocked : l'.blocked = l.blocked) {i : Nat}
    {k : Kind} {p : Progress} {other : Task} (hi : l.state? i = some (k, p))
    (hother : p.task? i k = some other) (hnot : l.driver ≠ .writing i) :
    i ∈ l.writes ∨ i ∈ l.reads ∨ l'.Due none other := by
  refine (h.actions i k p other hi hother).imp_right (.imp_right fun hdue => ?_)
  refine hdue.congr hready (fun _ _ hmem => .inl (hblocked ▸ hmem)) fun htaken => ?_
  cases htaken
  cases p with
  | ended outcome =>
    by_cases hk : k = .write
    · subst hk
      exact absurd ((horderly.writing_iff i).mp (stage?_of_state? hi)) hnot
    · simp [Progress.task?, hk] at hother
  | _ => simp [Progress.task?] at hother

theorem Orderly.state?_first (h : l.Orderly) {rest : List Nat} (hqueue : l.writes = t :: rest) :
    l.state? t = some (.write, .waiting) := by
  obtain ⟨a, ha, hwrite, hwaits⟩ := h.exists_first hqueue
  rw [state?_eq_some ha, hwrite, hwaits]

/-- The first write is called, or given up. -/
theorem Attended.takeWrite (h : l.Attended (some .driver)) (horderly : l.Orderly)
    (hdriver : l.driver = .choosing) {rest : List Nat} (hqueue : l.writes = t :: rest)
    (hwrites : l'.writes = rest) (hreads : l'.reads = l.reads) {p : Progress}
    (hstate : ∀ i, l'.state? i = if i = t then some (.write, p) else l.state? i)
    (hready : ∀ task ∈ l.ready, task ∈ l'.ready) (hblocked : l'.blocked = l.blocked)
    (hturn : (∃ body, p = .running body ∧ l'.driver = .writing t ∧ .action t ∈ l'.ready) ∨
      p = .dropped ∧ l'.driver = .absent ∧ l'.running = true) : l'.Attended none where
  refused_iff := by
    have hnot := h.not_refused (by simp [hdriver])
    rcases hturn with ⟨body, rfl, hdriver', -⟩ | ⟨rfl, hdriver', hrunning⟩
    · refine ⟨fun ⟨i, hi⟩ => ?_, fun hlost => ?_⟩
      · rw [hstate] at hi
        split at hi
        · cases hi
        · exact absurd ⟨i, hi⟩ hnot
      · cases hdriver'.symm.trans hlost.2
    · exact ⟨fun _ => ⟨hrunning, hdriver'⟩, fun _ => ⟨t, by rw [hstate, if_pos rfl]⟩⟩
  choosing hchoosing := by
    rcases hturn with ⟨body, -, hdriver', -⟩ | ⟨-, hdriver', -⟩ <;>
      cases hdriver'.symm.trans hchoosing
  reading batch hreading := by
    rcases hturn with ⟨body, -, hdriver', -⟩ | ⟨-, hdriver', -⟩ <;>
      cases hdriver'.symm.trans hreading
  actions i k p' other hi hother := by
    rw [hstate] at hi
    split at hi
    · rename_i heq
      cases hi
      rcases hturn with ⟨body, rfl, -, hmem⟩ | ⟨rfl, -⟩
      · cases hother
        exact .inr (.inr (.inl (heq ▸ hmem)))
      · cases hother
    · rename_i hne
      have hothers := h.others horderly hready hblocked hi hother (by simp [hdriver])
      rw [hwrites, hreads]
      refine hothers.imp_left fun hmem => ?_
      rw [hqueue] at hmem
      exact (List.mem_cons.mp hmem).resolve_left hne

theorem Attended.startReads (h : l.Attended (some .driver)) (horderly : l.Orderly)
    (hdriver : l.driver = .choosing) (hreads : l.reads ≠ []) :
    Attended none (wake { l with reads := [], driver := .reading l.reads } (l.reads.map .job)) where
  refused_iff :=
    ⟨fun hrefused => absurd hrefused (h.not_refused (by simp [hdriver])), fun hlost => by
      cases hlost.2⟩
  choosing hchoosing := by cases hchoosing
  reading batch hreading := by
    cases hreading
    obtain ⟨t, ht⟩ := List.exists_mem_of_ne_nil _ hreads
    refine .inr ⟨t, ht, Bool.eq_false_iff.mpr fun hover => ?_⟩
    cases stage_of_isOver hover (horderly.read_queued t ht)
  actions i k p other hi hother := by
    have hbefore : l.state? i = some (k, p) := hi
    have hready : ∀ task ∈ l.ready, task ∈
        (wake { l with reads := [], driver := .reading l.reads } (l.reads.map .job)).ready :=
      fun _ => List.mem_append_left _
    rcases h.others horderly hready rfl hi hother (by simp [hdriver]) with hmem | hmem | hdue
    · exact .inl hmem
    · refine .inr (.inr (.inl (List.mem_append_right _ ?_)))
      have hwaits := horderly.read_queued i hmem
      rw [stage?_of_state? hbefore, Option.some.injEq, Prod.mk.injEq] at hwaits
      cases p <;> simp [Progress.stage] at hwaits
      cases hother
      exact List.mem_map_of_mem hmem
    · exact .inr (.inr hdue)

/-- The driver has done what the turn asks for, and is ready for the next. -/
theorem Attended.endTurn (h : l.Attended (some .driver)) (horderly : l.Orderly)
    (hdriver : l.driver ≠ .absent) (hdriver' : l'.driver = .choosing)
    (hwrites : l'.writes = l.writes) (hreads : l'.reads = l.reads)
    (hready : l'.ready = .driver :: l.ready) (hblocked : l'.blocked = l.blocked)
    (hstate : ∀ i, l'.state? i = l.state? i ∧ l.driver ≠ .writing i ∨
      ∃ outcome, l'.state? i = some (.write, .resolved outcome)) : l'.Attended none where
  refused_iff := by
    refine ⟨fun ⟨i, hi⟩ => ?_, fun hlost => ?_⟩
    · rcases hstate i with ⟨heq, -⟩ | ⟨outcome, heq⟩
      · exact absurd ⟨i, heq ▸ hi⟩ (h.not_refused hdriver)
      · cases heq.symm.trans hi
    · cases hdriver'.symm.trans hlost.2
  choosing _ := .inl (hready ▸ List.mem_cons_self)
  reading batch hreading := by cases hdriver'.symm.trans hreading
  actions i k p other hi hother := by
    rw [hwrites, hreads]
    rcases hstate i with ⟨heq, hnot⟩ | ⟨outcome, heq⟩
    · exact h.others horderly (fun _ hmem => hready ▸ List.mem_cons_of_mem _ hmem) hblocked
        (heq ▸ hi) hother hnot
    · cases heq.symm.trans hi
      cases hother

theorem Attended.stop (h : l.Attended (some .driver)) (horderly : l.Orderly)
    (hdriver : l.driver = .choosing) :
    Attended none { l with running := false, driver := .absent } where
  refused_iff :=
    ⟨fun hrefused => absurd hrefused (h.not_refused (by simp [hdriver])), fun hlost => by
      cases hlost.1⟩
  choosing hchoosing := by cases hchoosing
  reading _ hreading := by cases hreading
  actions i k p other hi hother :=
    h.others horderly (fun _ => id) rfl hi hother (by simp [hdriver])

theorem Attended.awaitReads (h : l.Attended (some .driver)) (horderly : l.Orderly)
    {batch : List Nat} (hdriver : l.driver = .reading batch)
    (hleft : ∃ t ∈ batch, l.isOver t = false) :
    Attended none { l with driver := .reading (batch.filter (!l.isOver ·)) } where
  refused_iff :=
    ⟨fun hrefused => absurd hrefused (h.not_refused (by simp [hdriver])), fun hlost => by
      cases hlost.2⟩
  choosing hchoosing := by cases hchoosing
  reading batch' hreading := by
    cases hreading
    obtain ⟨t, ht, hover⟩ := hleft
    exact .inr ⟨t, List.mem_filter.mpr ⟨ht, by simp [hover]⟩, hover⟩
  actions i k p other hi hother :=
    h.others horderly (fun _ => id) rfl hi hother (by simp [hdriver])

/-- A task that has nothing to do was not needed. -/
theorem Attended.nothing (h : l.Attended (some task)) (horderly : l.Orderly)
    (hidle : l.Idle task) : l.Attended none := by
  have hdue : ∀ other, other ≠ task → l.Due (some task) other → l.Due none other := by
    intro other hne hdue
    exact hdue.others hne (fun _ => id) fun _ => id
  exact {
    refused_iff := h.refused_iff
    choosing := fun hchoosing => by
      refine hdue _ ?_ (h.choosing hchoosing)
      rintro rfl
      rcases hidle with habsent | ⟨t, hwriting, -⟩
      · cases hchoosing.symm.trans habsent
      · cases hchoosing.symm.trans hwriting
    reading := fun batch hreading => by
      refine (h.reading batch hreading).imp_left (hdue _ ?_)
      rintro rfl
      rcases hidle with habsent | ⟨t, hwriting, -⟩
      · cases hreading.symm.trans habsent
      · cases hreading.symm.trans hwriting
    actions := fun i k p other hi hother => by
      refine (h.actions i k p other hi hother).imp_right (.imp_right (hdue other ?_))
      rintro rfl
      obtain ⟨a, ha, hstate⟩ := Option.map_eq_some_iff.mp hi
      cases hstate
      cases hp : a.progress with
      | waiting =>
        rw [hp] at hother
        cases hother
        exact (hidle a ha).1 hp
      | running rest =>
        rw [hp] at hother
        cases hother
        exact hidle a rest ha hp
      | ended outcome =>
        rw [hp] at hother
        by_cases hk : a.kind = .write
        · simp only [Progress.task?, hk, if_true, Option.some.injEq] at hother
          subst hother
          have hturn : l.driver = .writing i := by
            rw [← horderly.writing_iff, stage?_eq_some ha, hk, hp]
            rfl
          rcases hidle with habsent | ⟨t, hwriting, hnot⟩
          · cases hturn.symm.trans habsent
          · cases hturn.symm.trans hwriting
            exact hnot a outcome ha hp
        · simp only [Progress.task?, hk, if_false, Option.some.injEq] at hother
          subst hother
          exact (hidle a ha).2 outcome hp
      | resolved outcome =>
        rw [hp] at hother
        cases hother
      | dropped =>
        rw [hp] at hother
        cases hother }

/-- What running a task leaves as it was, apart from the state of one action. -/
theorem state?_readIsOver (l : WorkspaceLock) (kind : Kind) (t : Nat) :
    (l.readIsOver kind).state? t = l.state? t :=
  state?_congr (tickets_readIsOver kind) t

theorem Due.readIsOver (h : l.Due taken task) (kind : Kind) :
    (l.readIsOver kind).Due taken task := by
  rw [WorkspaceLock.readIsOver]
  split
  · exact h.wakeDriver
  · exact h

/-- A job reports that its action is over. -/
theorem Attended.overJob (h : l.Attended (some (.job t))) (horderly : l.Orderly)
    (htask : l.Taken (.job t)) {a : Ticket} (hticket : l.ticket? t = some a) {q : Progress}
    (hbefore : a.progress ≠ .dropped) (hover : q.isOver = true) :
    ((l.setProgress t q).readIsOver a.kind).Attended none := by
  obtain ⟨-, k, s, hk, hstage⟩ := htask.job t rfl
  have heq := stage?_eq_some hticket
  rw [hstage, Option.some.injEq, Prod.mk.injEq] at heq
  obtain ⟨hwrites, hreads, hdriver⟩ := turns_readIsOver (l.setProgress t q) a.kind
  refine h.advance (q := q) (state?_eq_some hticket) (.inl rfl) hwrites hreads ?_ hdriver
    (fun i => ?_) hbefore
    (fun hwrite => absurd (heq.1.trans hwrite) hk) (fun other hne hdue => ?_) (fun other hother => ?_)
    (fun batch _ hreading hmem => ?_)
  · rw [readIsOver]
    split
    · exact running_wakeDriver _
    · rfl
  · rw [state?_readIsOver]
    exact state?_setProgress (state?_eq_some hticket) q i
  · exact Due.readIsOver (l := l.setProgress t q) (hdue.others hne (fun _ => id) fun _ => id) _
  · cases q <;> cases hover <;> cases hother
  · -- A read of the batch is over, and the driver is woken.
    obtain ⟨-, s', hread⟩ := horderly.batch batch t hreading hmem
    rw [hstage, Option.some.injEq, Prod.mk.injEq] at hread
    rw [readIsOver, if_pos (heq.1.symm.trans hread.1)]
    exact due_wakeDriver _

theorem running_endAction (l : WorkspaceLock) (t : Nat) (kind : Kind) (outcome : Outcome) :
    (l.endAction t kind outcome).running = l.running := by
  rw [endAction]
  split
  · exact running_wakeDriver _
  · rfl

theorem Due.endAction (h : l.Due taken task) (t : Nat) (kind : Kind) (outcome : Outcome) :
    (l.endAction t kind outcome).Due taken task := by
  rw [WorkspaceLock.endAction]
  split
  · exact Due.wakeDriver h
  · exact h.mono (fun _ hmem => List.mem_append_left _ hmem) rfl

/-- Whoever waits for the end of an action is woken. -/
theorem due_endAction (l : WorkspaceLock) (t : Nat) (kind : Kind) (outcome : Outcome) :
    (l.endAction t kind outcome).Due taken (if kind = .write then .driver else .job t) := by
  rw [endAction]
  split
  · exact due_wakeDriver _
  · exact .inl (List.mem_append_right _ (List.mem_singleton_self _))

/-- An action goes on, and its task is ready for what is left of it. -/
theorem Attended.goOn (h : l.Attended (some task)) {k : Kind} {p : Progress} {rest : List Act}
    (ht : l.state? t = some (k, p)) (htask : task = .job t ∨ task = .action t)
    (hwrites : l'.writes = l.writes) (hreads : l'.reads = l.reads)
    (hrunning : l'.running = l.running) (hdriver : l'.driver = l.driver)
    (hstate : ∀ i, l'.state? i = if i = t then some (k, .running rest) else l.state? i)
    (hbefore : p ≠ .dropped) (hready : ∀ task ∈ l.ready, task ∈ l'.ready)
    (hblocked : l'.blocked = l.blocked) (hself : .action t ∈ l'.ready) : l'.Attended none := by
  refine h.advance ht htask hwrites hreads hrunning hdriver hstate hbefore (fun _ => nofun)
    (fun other hne hdue => ?_) (fun other hother => ?_) (fun _ => nofun)
  · exact hdue.others hne hready fun _ hmem => hblocked ▸ hmem
  · cases hother
    exact .inl hself

/-- The write of a turn is over, and the driver takes the next one. -/
theorem Attended.endWrite (h : l.Attended (some .driver)) (horderly : l.Orderly)
    (hdriver : l.driver = .writing t) {a : Ticket} (hticket : l.ticket? t = some a)
    (outcome : Outcome) (hdriver' : l'.driver = .choosing) (hwrites : l'.writes = l.writes)
    (hreads : l'.reads = l.reads) (hready : l'.ready = .driver :: l.ready)
    (hblocked : l'.blocked = l.blocked)
    (hstate : ∀ i, l'.state? i = (l.setProgress t (.resolved outcome)).state? i) :
    l'.Attended none := by
  refine h.endTurn horderly (by simp [hdriver]) hdriver' hwrites hreads hready hblocked fun i => ?_
  have hturn := (horderly.writing_iff t).mpr hdriver
  rw [stage?_eq_some hticket, Option.some.injEq, Prod.mk.injEq] at hturn
  rw [hstate, state?_setProgress (state?_eq_some hticket), hturn.1]
  by_cases heq : i = t
  · rw [if_pos heq]
    exact .inr ⟨outcome, rfl⟩
  · rw [if_neg heq]
    refine .inl ⟨rfl, fun hwriting => heq ?_⟩
    cases hdriver.symm.trans hwriting
    rfl

/-- An action has ended, and whoever waits for that is woken. -/
theorem Attended.finish (h : l.Attended (some (.action t))) {a : Ticket} {rest : List Act}
    (hticket : l.ticket? t = some a) (hruns : a.progress = .running rest) (outcome : Outcome) :
    (l.endAction t a.kind outcome).Attended none := by
  have hstate := state?_eq_some hticket
  obtain ⟨hwrites, hreads, hdriver⟩ := turns_endAction l t a.kind outcome
  refine h.advance (q := .ended outcome) hstate (.inr rfl) hwrites hreads ?_ hdriver (fun i => ?_)
    (by simp [hruns]) (fun _ => nofun) (fun other hne hdue => ?_) (fun other hother => ?_)
    (fun _ => nofun)
  · exact running_endAction l t a.kind outcome
  · rw [state?_congr (tickets_endAction _ _)]
    exact state?_setProgress hstate _ i
  · exact (hdue.others hne (fun _ => id) fun _ => id).endAction t a.kind outcome
  · cases hother
    exact due_endAction l t a.kind outcome

/-- **Running a task forgets nobody.** -/
theorem Attended.effect (h : l.Attended (some task)) (horderly : l.Orderly) (htask : l.Taken task)
    (heffect : l.Effect task l') : l'.Attended none := by
  cases heffect with
  | nothing hidle => exact h.nothing horderly hidle
  | @startWrite t rest a hdriver hqueue hticket hcall =>
    exact h.takeWrite horderly hdriver hqueue rfl rfl
      (fun i => state?_setProgress (horderly.state?_first hqueue) _ i)
      (fun _ => List.mem_append_left _) rfl
      (.inl ⟨a.body, rfl, rfl, List.mem_append_right _ (List.mem_singleton_self _)⟩)
  | @refuseWrite t rest hdriver hqueue hcall =>
    exact h.takeWrite horderly hdriver hqueue rfl rfl
      (fun i => state?_setProgress (horderly.state?_first hqueue) _ i) (fun _ => id) rfl
      (.inr ⟨rfl, rfl, horderly.runs (by simp [hdriver])⟩)
  | startReads hdriver hwrites hreads => exact h.startReads horderly hdriver hreads
  | stop hdriver hwrites hreads => exact h.stop horderly hdriver
  | endWrite hdriver hticket hended =>
    exact h.endWrite horderly hdriver hticket _ rfl rfl rfl rfl rfl fun _ => rfl
  | endReads hdriver hover =>
    exact h.endTurn horderly (by simp [hdriver]) rfl rfl rfl rfl rfl fun i =>
      .inl ⟨rfl, by simp [hdriver]⟩
  | awaitReads hdriver hleft => exact h.awaitReads horderly hdriver hleft
  | @callJob t a hticket hwaits hcall =>
    have hstate := state?_eq_some hticket
    exact h.goOn hstate (.inl rfl) rfl rfl rfl rfl (fun i => state?_setProgress hstate _ i)
      (by simp [hwaits]) (fun _ => List.mem_append_left _) rfl
      (List.mem_append_right _ (List.mem_singleton_self _))
  | @refuseJob t a hticket hwaits hcall =>
    exact h.overJob horderly htask hticket (by simp [hwaits]) rfl
  | @endJob t a outcome hticket hended =>
    exact h.overJob horderly htask hticket (by simp [hended]) rfl
  | finish hticket hruns hends => exact h.finish hticket hruns _
  | @pass t a act rest log hticket hruns hact hcall =>
    have hstate := state?_eq_some hticket
    exact h.goOn hstate (.inr rfl) rfl rfl rfl rfl
      (fun i => state?_setProgress (l := { l with log := log }) hstate _ i)
      (by simp [hruns]) (fun _ => List.mem_cons_of_mem _) rfl List.mem_cons_self
  | @call t a act rest call hticket hruns hact hcall =>
    have hstate := state?_serve call (state?_eq_some hticket)
    exact (h.serve call).goOn hstate (.inr rfl) rfl rfl rfl rfl
      (fun i => state?_setProgress hstate _ i)
      (by simp [hruns]) (fun _ => List.mem_cons_of_mem _) rfl List.mem_cons_self
  | @block t a act rest wait hticket hruns hcall =>
    refine h.congr rfl rfl rfl rfl (fun _ => rfl) fun other hdue => ?_
    refine Due.congr (l := l) (fun _ => id) (fun _ _ hmem => .inl (List.mem_append_left _ hmem)) ?_
      hdue
    rintro ⟨⟩
    exact .inr (.inr ⟨t, wait, rfl, List.mem_append_right _ (List.mem_singleton_self _)⟩)

/-! ## Runs -/

theorem Attended.step (h : l.Attended none) (horderly : l.Orderly) {place : Nat}
    (hstep : l.step place = some l') : l'.Attended none := by
  obtain ⟨task, before, after, hready, -, heffect⟩ := step_effect hstep
  obtain ⟨htaken, htask⟩ := horderly.take hready
  have htake : Attended (some task) { l with ready := before ++ after } := by
    refine h.congr rfl rfl rfl rfl (fun _ => rfl) fun other hdue => ?_
    rcases hdue with hmem | hmem | hmem
    · rw [hready, List.mem_append, List.mem_cons] at hmem
      rcases hmem with hmem | rfl | hmem
      · exact .inl (List.mem_append_left _ hmem)
      · exact .inr (.inl rfl)
      · exact .inl (List.mem_append_right _ hmem)
    · cases hmem
    · exact .inr (.inr hmem)
  exact htake.effect htaken htask heffect

theorem Run.attended (h : Run calls l) : l.Attended none := by
  induction h with
  | start => exact attended_empty
  | call hrun call ih => exact ih.serve call
  | step hrun hstep ih => exact ih.step hrun.orderly hstep

/-- Something comes in only together with a driver. -/
theorem serve_running (h : l.writes ≠ [] ∨ l.reads ≠ [] → l.running = true) (call : Call) :
    (l.serve call).writes ≠ [] ∨ (l.serve call).reads ≠ [] → (l.serve call).running = true := by
  have hensure : ∀ l' : WorkspaceLock, l'.ensureDriver.running = true := fun l' => by
    rw [ensureDriver]
    split
    · assumption
    · rfl
  cases call with
  | submit kind label refusal body =>
    cases kind with
    | write => exact fun _ => hensure _
    | read => exact fun _ => hensure _
    | immediate => exact h
  | cancelWrite =>
    have halike := alike_cancelWrite l
    rw [serve, halike.writes, halike.reads, halike.running]
    exact h
  | cancelToken t => exact h
  | forget label => exact h
  | openGate gate => exact h

theorem effect_running (h : l.writes ≠ [] ∨ l.reads ≠ [] → l.running = true)
    (heffect : l.Effect task l') : l'.writes ≠ [] ∨ l'.reads ≠ [] → l'.running = true := by
  have hover : ∀ (l₁ : WorkspaceLock) (kind : Kind), (l₁.readIsOver kind).running = l₁.running := by
    intro l₁ kind
    rw [readIsOver]
    split
    · exact running_wakeDriver l₁
    · rfl
  cases heffect with
  | nothing => exact h
  | startWrite hdriver hqueue => exact fun _ => h (.inl (by simp [hqueue]))
  | refuseWrite hdriver hqueue => exact fun _ => h (.inl (by simp [hqueue]))
  | startReads hdriver hwrites hreads => exact fun _ => h (.inr hreads)
  | stop hdriver hwrites hreads => exact fun hqueue => by simp [hwrites, hreads] at hqueue
  | endWrite => exact h
  | endReads => exact h
  | awaitReads => exact h
  | callJob => exact h
  | @refuseJob t a =>
    rw [(turns_readIsOver _ _).1, (turns_readIsOver _ _).2.1, hover]
    exact h
  | @endJob t a outcome =>
    rw [(turns_readIsOver _ _).1, (turns_readIsOver _ _).2.1, hover]
    exact h
  | finish =>
    rw [(turns_endAction _ _ _ _).1, (turns_endAction _ _ _ _).2.1, running_endAction]
    exact h
  | pass => exact h
  | call => exact serve_running h _
  | block => exact h

theorem Run.queued_running (h : Run calls l) :
    l.writes ≠ [] ∨ l.reads ≠ [] → l.running = true := by
  induction h with
  | start => simp [empty]
  | call hrun call ih => exact serve_running ih call
  | @step calls l l' place hrun hstep ih =>
    obtain ⟨task, before, after, -, -, heffect⟩ := step_effect hstep
    exact effect_running (l := { l with ready := before ++ after }) ih heffect

/-! ## The driver -/

/-- **The driver will take the next turn.** -/
structure Driven (l : WorkspaceLock) : Prop where
  /-- There is a driver while something is queued. -/
  present : l.writes ≠ [] ∨ l.reads ≠ [] → l.driver ≠ .absent
  /-- It is ready, or waits for an action of its turn that is ready itself, or
  held up by a gate or its own token. -/
  turn : l.driver ≠ .absent → l.Due none .driver ∨
    ∃ t, (l.driver = .writing t ∨ ∃ batch, l.driver = .reading batch ∧ t ∈ batch) ∧
      (l.Due none (.job t) ∨ l.Due none (.action t))

/-- A lock that is lost stays so, and nothing leaves its queues. -/
def StaysLost (l l' : WorkspaceLock) : Prop :=
  l'.Lost ∧ l.writes ⊆ l'.writes ∧ l.reads ⊆ l'.reads

theorem Attended.turn (h : l.Attended none) (horderly : l.Orderly) (hdriver : l.driver ≠ .absent) :
    l.Due none .driver ∨
      ∃ t, (l.driver = .writing t ∨ ∃ batch, l.driver = .reading batch ∧ t ∈ batch) ∧
        (l.Due none (.job t) ∨ l.Due none (.action t)) := by
  -- An action that is neither queued nor over has a task.
  have hact : ∀ t k p, l.state? t = some (k, p) → t ∉ l.writes → t ∉ l.reads → p.isOver = false →
      l.Due none .driver ∨ l.Due none (.job t) ∨ l.Due none (.action t) := by
    intro t k p ht hwrites hreads hover
    have hdue : ∀ task, p.task? t k = some task → l.Due none task := fun task htask =>
      ((h.actions t k p task ht htask).resolve_left hwrites).resolve_left hreads
    cases p with
    | waiting => exact .inr (.inl (hdue _ rfl))
    | running rest => exact .inr (.inr (hdue _ rfl))
    | ended outcome =>
      by_cases hk : k = .write
      · exact .inl (hdue _ (by simp [Progress.task?, hk]))
      · exact .inr (.inl (hdue _ (by simp [Progress.task?, hk])))
    | resolved outcome => cases hover
    | dropped => cases hover
  cases hturn : l.driver with
  | absent => exact absurd hturn hdriver
  | choosing => exact .inl (h.choosing hturn)
  | writing t =>
    have hstage := (horderly.writing_iff t).mpr hturn
    obtain ⟨a, ha, heq⟩ := Option.map_eq_some_iff.mp hstage
    rw [Prod.mk.injEq] at heq
    have hwrites : t ∉ l.writes := fun hmem => by
      cases hstage.symm.trans ((horderly.queued_iff t).mp hmem)
    have hreads : t ∉ l.reads := fun hmem => by
      cases hstage.symm.trans (horderly.read_queued t hmem)
    have hover : a.progress.isOver = false := by
      cases hp : a.progress <;> simp [hp, Progress.stage] at heq <;> rfl
    refine (hact t _ _ (state?_eq_some ha) hwrites hreads hover).imp_right fun hdue => ?_
    exact ⟨t, .inl rfl, hdue⟩
  | reading batch =>
    rcases h.reading batch hturn with hready | ⟨t, ht, hover⟩
    · exact .inl hready
    · obtain ⟨hreads, s, hstage⟩ := horderly.batch batch t hturn ht
      obtain ⟨a, ha, heq⟩ := Option.map_eq_some_iff.mp hstage
      have hwrites : t ∉ l.writes := fun hmem => by
        cases hstage.symm.trans ((horderly.queued_iff t).mp hmem)
      rw [isOver_of_state? (state?_eq_some ha)] at hover
      refine (hact t _ _ (state?_eq_some ha) hwrites hreads hover).imp_right fun hdue => ?_
      exact ⟨t, .inr ⟨batch, rfl, ht⟩, hdue⟩

/-- A write that was given up is not called again. -/
theorem Onward.refused (h : l.Onward l') (hrefused : l.Refused) : l'.Refused := by
  obtain ⟨t, ht⟩ := hrefused
  obtain ⟨a, ha, hstate⟩ := Option.map_eq_some_iff.mp ht
  rw [Prod.mk.injEq] at hstate
  obtain ⟨b, hb, honward⟩ := h.old t a ha
  refine ⟨t, (state?_eq_some hb).trans ?_⟩
  rcases honward.progress with hsame | hnext
  · rw [hsame, honward.kind, hstate.1, hstate.2]
  · generalize b.progress = p at hnext
    cases hnext <;> simp_all

/-- Nothing is taken from the queues while there is no driver. -/
theorem Follows.staysLost (h : l.Follows l') (hattended : l.Attended none)
    (hattended' : l'.Attended none) (hlost : l.Lost) : l.StaysLost l' := by
  refine ⟨hattended'.refused_iff.mp (h.onward.refused (hattended.refused_iff.mpr hlost)),
    fun t ht => ?_, fun t ht => ?_⟩
  · by_contra hnot
    cases hlost.2.symm.trans (h.inTurn.write t ht hnot).1
  · by_contra hnot
    cases hlost.2.symm.trans (h.inTurn.read t ht hnot).1

/-- **The driver of a lock is lost by a write that panics when it is called,
and only by that.** Until then the driver takes the next turn; after it,
whatever comes next, what is queued stays queued. -/
theorem Run.driven (h : Run calls l) :
    (l.Lost ↔ ∃ t a, l.ticket? t = some a ∧ a.kind = .write ∧ a.refusal ≠ none ∧
      a.progress = .dropped) ∧
    (¬ l.Lost → l.Driven) ∧
    (l.Lost → (∀ call, l.StaysLost (l.serve call)) ∧
      ∀ place l', l.step place = some l' → l.StaysLost l') := by
  have hattended := h.attended
  have horderly := h.orderly
  obtain ⟨hsafe, hcalls, hsteps⟩ := h.safe
  refine ⟨hattended.refused_iff.symm.trans ⟨?_, ?_⟩, fun hlost => ?_, fun hlost => ⟨?_, ?_⟩⟩
  · rintro ⟨t, ht⟩
    obtain ⟨a, ha, hstate⟩ := Option.map_eq_some_iff.mp ht
    rw [Prod.mk.injEq] at hstate
    exact ⟨t, a, ha, hstate.1, hsafe.dropped t a ha hstate.2, hstate.2⟩
  · rintro ⟨t, a, ha, hkind, -, hdropped⟩
    exact ⟨t, by rw [state?_eq_some ha, hkind, hdropped]⟩
  · refine ⟨fun hqueue habsent => ?_, hattended.turn horderly⟩
    exact hlost ⟨h.queued_running hqueue, habsent⟩
  · exact fun call => (hcalls call).1.staysLost hattended (hattended.serve call) hlost
  · intro place l' hstep
    exact (hsteps place l' hstep).1.staysLost hattended (hattended.step horderly hstep) hlost

/-- The first write panics when it is called, and the second waits for good:
no task is left that could start it. -/
theorem driven_until_refused : ∃ calls l, Run calls l ∧ l.writes = [1] ∧ l.ready = [] ∧
    l.blocked = [] ∧ l.Lost ∧ ∀ call, 1 ∈ (l.serve call).writes := by
  have h := (Run.start.call (.submit .write "first" (some "no") [])).call
    (.submit .write "second" none [.finish 1])
  have h' := @Run.step _ _ _ 0 h rfl
  have hlost := h'.driven.1.mpr ⟨0, _, rfl, rfl, nofun, rfl⟩
  exact ⟨_, _, h', rfl, rfl, rfl, hlost, fun call =>
    ((h'.driven.2.2 hlost).1 call).2.1 (List.mem_singleton_self 1)⟩

end WorkspaceLock

end Workbench
