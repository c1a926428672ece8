import Workbench.Proofs.Worker.Turns
/-!
# Actions are started in their turn

What happens between two states of a lock: which actions leave their queue
and which are called (`InTurn`), and that every ticket moves onward. Both are
shown for calls and for running any task of a lock that is in order.
-/

namespace Workbench

open Lock

namespace WorkspaceLock

variable {l l' : WorkspaceLock} {t : Nat} {task : Task}

/-- **What is started between two states** of a lock is started in its turn. -/
structure InTurn (l l' : WorkspaceLock) : Prop where
  /-- A write leaves the queue as the first, between two turns, and when all
  writes before it are over. -/
  write : ∀ t ∈ l.writes, t ∉ l'.writes → l.driver = .choosing ∧ l.writes = t :: l'.writes ∧
    ∀ w s, l.stage? w = some (.write, s) → w < t → s = .done
  /-- A read leaves the queue for the batch of the next turn, between two
  turns, and when all writes are over. -/
  read : ∀ t ∈ l.reads, t ∉ l'.reads → l.driver = .choosing ∧
    (∃ batch, l'.driver = .reading batch ∧ t ∈ batch) ∧
    ∀ w s, l.stage? w = some (.write, s) → s = .done
  /-- A write is called as it leaves the queue, a read in the turn of its
  batch. -/
  call : ∀ t k s, l.stage? t = some (k, .waiting) → l'.stage? t = some (k, s) → s ≠ .waiting →
    (k = .write → t ∈ l.writes ∧ t ∉ l'.writes) ∧
    (k = .read → ∃ batch, l.driver = .reading batch ∧ t ∈ batch)

/-- Nothing is started. -/
theorem InTurn.of_grow (hwrites : l.writes ⊆ l'.writes) (hreads : l.reads ⊆ l'.reads)
    (hstage : ∀ t k, l.stage? t = some (k, .waiting) → l'.stage? t = some (k, .waiting)) :
    l.InTurn l' where
  write _ ht hnot := absurd (hwrites ht) hnot
  read _ ht hnot := absurd (hreads ht) hnot
  call t k s hwaits hafter hs := by
    rw [hstage t k hwaits, Option.some.injEq, Prod.mk.injEq] at hafter
    exact absurd hafter.2.symm hs

theorem Alike.inTurn (h : l.Alike l') : l.InTurn l' :=
  .of_grow (h.writes ▸ List.Subset.refl _) (h.reads ▸ List.Subset.refl _)
    fun t _ ht => (h.stage t).trans ht

theorem turns_ensureDriver (l : WorkspaceLock) :
    l.ensureDriver.writes = l.writes ∧ l.ensureDriver.reads = l.reads := by
  rw [ensureDriver]
  split <;> exact ⟨rfl, rfl⟩

/-- A call starts nothing. -/
theorem serve_grows (l : WorkspaceLock) (call : Call) :
    l.writes ⊆ (l.serve call).writes ∧ l.reads ⊆ (l.serve call).reads := by
  cases call with
  | submit kind label refusal body =>
    cases kind with
    | write =>
      simp only [serve, submit]
      rw [(turns_ensureDriver _).1, (turns_ensureDriver _).2]
      exact ⟨List.subset_append_left _ _, fun _ ht => (alike_cancelWrite _).reads.symm ▸ ht⟩
    | read =>
      simp only [serve, submit]
      rw [(turns_ensureDriver _).1, (turns_ensureDriver _).2]
      exact ⟨List.Subset.refl _, List.subset_append_left _ _⟩
    | immediate => exact ⟨List.Subset.refl _, List.Subset.refl _⟩
  | cancelWrite =>
    exact ⟨(alike_cancelWrite l).writes ▸ List.Subset.refl _,
      (alike_cancelWrite l).reads ▸ List.Subset.refl _⟩
  | cancelToken t => exact ⟨List.Subset.refl _, List.Subset.refl _⟩
  | forget label => exact ⟨List.Subset.refl _, List.Subset.refl _⟩
  | openGate gate => exact ⟨List.Subset.refl _, List.Subset.refl _⟩

theorem inTurn_serve (l : WorkspaceLock) (call : Call) : l.InTurn (l.serve call) :=
  .of_grow (serve_grows l call).1 (serve_grows l call).2 fun _ _ => stage?_serve call

/-- Calling an action that is not a write is in turn, and so is giving it up. -/
theorem Orderly.inTurn_setProgress (h : l.Orderly) (htask : l.Taken (.job t)) {p : Progress} :
    l.InTurn (l.setProgress t p) where
  write _ ht hnot := absurd ht hnot
  read _ ht hnot := absurd ht hnot
  call i k s hwaits hafter hs := by
    obtain ⟨hqueue, k', s', hk, hstage⟩ := htask.job t rfl
    by_cases hi : i = t
    · subst hi
      rw [hwaits] at hstage
      cases hstage
      refine ⟨fun hwrite => absurd hwrite hk, fun hread => ?_⟩
      subst hread
      exact h.reading i .waiting hwaits nofun hqueue
    · rw [stage?_setProgress hstage, if_neg hi, hwaits, Option.some.injEq, Prod.mk.injEq] at hafter
      exact absurd hafter.2.symm hs

/-- The first write leaves the queue in its turn. -/
theorem Orderly.inTurn_takeWrite (h : l.Orderly) (hdriver : l.driver = .choosing)
    {rest : List Nat} (hqueue : l.writes = t :: rest) (hwrites : l'.writes = rest)
    (hreads : l'.reads = l.reads)
    (hstage : ∀ i, i ≠ t → l'.stage? i = l.stage? i) : l.InTurn l' where
  write i hi hnot := by
    rw [hwrites] at hnot ⊢
    rw [hqueue] at hi
    obtain rfl : i = t := (List.mem_cons.mp hi).resolve_right hnot
    exact ⟨hdriver, hqueue, fun w s => h.over_of_before_first hdriver hqueue⟩
  read i hi hnot := absurd (hreads ▸ hi) hnot
  call i k s hwaits hafter hs := by
    by_cases hi : i = t
    · subst hi
      have hsorted := h.sorted
      rw [hqueue, List.pairwise_cons] at hsorted
      have hin : i ∈ l.writes := hqueue ▸ List.mem_cons_self
      have hwrite := (h.queued_iff i).mp hin
      rw [hwaits] at hwrite
      cases hwrite
      refine ⟨fun _ => ⟨hin, fun hmem => ?_⟩, nofun⟩
      exact absurd (hsorted.1 i (hwrites ▸ hmem)) (Nat.lt_irrefl i)
    · rw [hstage i hi, hwaits, Option.some.injEq, Prod.mk.injEq] at hafter
      exact absurd hafter.2.symm hs

/-- The reads leave the queue in their turn. -/
theorem Orderly.inTurn_startReads (h : l.Orderly) (hdriver : l.driver = .choosing)
    (hwrites : l.writes = []) :
    l.InTurn (wake { l with reads := [], driver := .reading l.reads } (l.reads.map .job)) where
  write t ht := by
    rw [hwrites] at ht
    cases ht
  read t ht _ := by
    refine ⟨hdriver, ⟨l.reads, rfl, ht⟩, fun w s hw => h.over_of_choosing hdriver hw fun hs => ?_⟩
    rw [hs, ← h.queued_iff, hwrites] at hw
    cases hw
  call t k s hwaits hafter hs := by
    cases hwaits.symm.trans hafter
    exact absurd rfl hs

/-- What is started by running a task is not changed by what is woken. -/
theorem InTurn.congr {l₁ : WorkspaceLock} (h : l.InTurn l₁) (hl : l'.writes = l₁.writes)
    (hreads : l'.reads = l₁.reads) (hdriver : l'.driver = l₁.driver)
    (hstage : ∀ t, l'.stage? t = l₁.stage? t) : l.InTurn l' where
  write := by simpa only [hl] using h.write
  read := by simpa only [hreads, hdriver] using h.read
  call := by simpa only [hl, hstage] using h.call

theorem turns_wakeDriver (l : WorkspaceLock) : l.wakeDriver.writes = l.writes ∧
    l.wakeDriver.reads = l.reads ∧ l.wakeDriver.driver = l.driver := by
  rw [wakeDriver]
  split <;> exact ⟨rfl, rfl, rfl⟩

theorem turns_readIsOver (l : WorkspaceLock) (kind : Kind) :
    (l.readIsOver kind).writes = l.writes ∧ (l.readIsOver kind).reads = l.reads ∧
      (l.readIsOver kind).driver = l.driver := by
  rw [readIsOver]
  split
  · exact turns_wakeDriver l
  · exact ⟨rfl, rfl, rfl⟩

theorem turns_endAction (l : WorkspaceLock) (t : Nat) (kind : Kind) (outcome : Outcome) :
    (l.endAction t kind outcome).writes = l.writes ∧
      (l.endAction t kind outcome).reads = l.reads ∧
      (l.endAction t kind outcome).driver = l.driver := by
  dsimp only [endAction]
  split
  · exact turns_wakeDriver _
  · exact ⟨rfl, rfl, rfl⟩

/-- **Running a task starts actions only in their turn.** -/
theorem Orderly.effect_inTurn (h : l.Orderly) (htask : l.Taken task) (heffect : l.Effect task l') :
    l.InTurn l' := by
  have hsame : l.Alike l := ⟨rfl, rfl, rfl, rfl, fun _ => rfl, rfl, fun _ => id⟩
  cases heffect with
  | nothing => exact hsame.inTurn
  | startWrite hdriver hqueue hticket hcall =>
    exact h.inTurn_takeWrite hdriver hqueue rfl rfl fun i hi =>
      (stage?_setProgress (h.stage?_first hqueue) _ i).trans (if_neg hi)
  | refuseWrite hdriver hqueue hcall =>
    exact h.inTurn_takeWrite hdriver hqueue rfl rfl fun i hi =>
      (stage?_setProgress (h.stage?_first hqueue) _ i).trans (if_neg hi)
  | startReads hdriver hwrites hreads => exact h.inTurn_startReads hdriver hwrites
  | stop => exact .of_grow (List.Subset.refl _) (List.Subset.refl _) fun _ _ => id
  | @endWrite t a outcome hdriver hticket hended =>
    refine .of_grow (List.Subset.refl _) (List.Subset.refl _) fun i k hwaits => ?_
    have hturn := (h.writing_iff t).mpr hdriver
    refine (stage?_setProgress hturn (.resolved outcome) i).trans ?_
    rw [if_neg ?_, hwaits]
    rintro rfl
    cases hwaits.symm.trans hturn
  | endReads => exact .of_grow (List.Subset.refl _) (List.Subset.refl _) fun _ _ => id
  | awaitReads => exact .of_grow (List.Subset.refl _) (List.Subset.refl _) fun _ _ => id
  | callJob => exact (h.inTurn_setProgress htask).congr rfl rfl rfl fun _ => rfl
  | @refuseJob t a hticket hwaits hcall =>
    obtain ⟨hwrites, hreads, hdriver⟩ := turns_readIsOver (l.setProgress t .dropped) a.kind
    refine (h.inTurn_setProgress htask).congr hwrites hreads hdriver fun i => ?_
    rw [stage?, ticket?, tickets_readIsOver]
    rfl
  | @endJob t a outcome hticket hended =>
    obtain ⟨hwrites, hreads, hdriver⟩ := turns_readIsOver (l.setProgress t (.resolved outcome)) a.kind
    refine (h.inTurn_setProgress htask).congr hwrites hreads hdriver fun i => ?_
    rw [stage?, ticket?, tickets_readIsOver]
    rfl
  | @finish t a rest outcome hticket hruns hends =>
    have hstage := stage?_eq_some hticket
    rw [hruns] at hstage
    have hset := alike_setProgress (p := .ended outcome) hstage
    refine hset.inTurn.congr (turns_endAction _ _ _ _).1 (turns_endAction _ _ _ _).2.1
      (turns_endAction _ _ _ _).2.2 fun i => ?_
    rw [stage?, ticket?, tickets_endAction]
    rfl
  | @pass t a act rest log hticket hruns hact hcall =>
    have hstage := stage?_eq_some hticket
    rw [hruns] at hstage
    have hset := alike_setProgress (l := { l with log := log }) (p := .running rest) hstage
    exact .of_grow (List.Subset.refl _) (List.Subset.refl _) fun i _ hwaits =>
      (hset.stage i).trans hwaits
  | @call t a act rest call hticket hruns hact hcall =>
    have hstage := stage?_serve call (stage?_eq_some hticket)
    rw [hruns] at hstage
    have hset := alike_setProgress (p := .running rest) hstage
    exact (inTurn_serve l call).congr rfl rfl rfl hset.stage
  | block => exact hsame.inTurn.congr rfl rfl rfl fun _ => rfl

/-! ## Tickets -/

/-- **Running a task moves tickets onward**: it takes at most one of them one
step further. -/
theorem Orderly.effect_onward (h : l.Orderly) (heffect : l.Effect task l') : l.Onward l' := by
  have hself := Onward.refl l
  cases heffect with
  | nothing => exact hself
  | startWrite hdriver hqueue hticket hcall =>
    obtain ⟨a, ha, -, hwaits⟩ := h.exists_first hqueue
    cases hticket.symm.trans ha
    exact (hself.setProgress hticket (.called hwaits hcall)).congr rfl
  | refuseWrite hdriver hqueue hcall =>
    obtain ⟨a, ha, -, hwaits⟩ := h.exists_first hqueue
    exact (hself.setProgress ha (.refused hwaits (hcall a ha))).congr rfl
  | startReads => exact hself.congr rfl
  | stop => exact hself.congr rfl
  | endWrite hdriver hticket hended =>
    exact (hself.setProgress hticket (.resolved hended)).congr rfl
  | endReads => exact hself.congr rfl
  | awaitReads => exact hself.congr rfl
  | callJob hticket hwaits hcall =>
    exact (hself.setProgress hticket (.called hwaits hcall)).congr rfl
  | refuseJob hticket hwaits hcall =>
    exact (hself.setProgress hticket (.refused hwaits hcall)).congr (tickets_readIsOver _)
  | endJob hticket hended =>
    exact (hself.setProgress hticket (.resolved hended)).congr (tickets_readIsOver _)
  | finish hticket hruns hends =>
    exact (hself.setProgress hticket (.ended hruns hends)).congr (tickets_endAction _ _)
  | pass log hticket hruns hact hcall =>
    exact (hself.setProgress hticket (.passed hruns hact)).congr rfl
  | call hticket hruns hact hcall =>
    exact ((onward_serve l _).setProgress hticket (.passed hruns hact)).congr rfl
  | block => exact hself.congr rfl

end WorkspaceLock

end Workbench
