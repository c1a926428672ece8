import Workbench.Proofs.Worker.Ticket
/-!
# What a call and a step do to a lock

A lock is called by its clients and by the actions under way, and between
the calls its tasks are run. This file names the calls, lists all that
running one task can do (`Effect`), and shows that tickets only ever move
onward.
-/

namespace Workbench

namespace Lock

/-- What can be asked of a lock. -/
inductive Call where
  | submit (kind : Kind) (label : String) (refusal : Option String) (body : List Act)
  | cancelWrite
  /-- Whoever was given the token of an action cancels it. -/
  | cancelToken (ticket : Nat)
  | forget (label : String)
  | openGate (gate : String)

/-- The action that a call submits. -/
def Call.submission? : Call → Option (Kind × String × Option String × List Act)
  | submit kind label refusal body => some (kind, label, refusal, body)
  | _ => none

/-- The call that an act makes. -/
def Act.call? : Act → Option Call
  | openGate gate => some (.openGate gate)
  | cancelWrite => some .cancelWrite
  | submit kind label refusal body => some (.submit kind label refusal body)
  | _ => none

end Lock

open Lock

namespace WorkspaceLock

variable {l l' : WorkspaceLock}

/-- **Serves a call.** -/
def serve (l : WorkspaceLock) : Call → WorkspaceLock
  | .submit kind label refusal body => l.submit kind label refusal body
  | .cancelWrite => l.cancelWrite
  | .cancelToken t => l.cancel t
  | .forget label => l.forget label
  | .openGate gate => l.openGate gate

/-- The call that running a task makes. -/
def callOf? (l : WorkspaceLock) : Task → Option Call
  | .action t =>
    match (l.ticket? t).map Ticket.progress with
    | some (.running (act :: _)) => act.call?
    | _ => none
  | _ => none

/-- The call that running the task at a place makes. -/
def callAt? (l : WorkspaceLock) (place : Nat) : Option Call := l.ready[place]?.bind l.callOf?

/-! ## The tickets after an operation -/

section

variable {t i : Nat}

theorem ticket?_modifyTicket (l : WorkspaceLock) (t i : Nat) (f : Ticket → Ticket) :
    (l.modifyTicket t f).ticket? i = (l.ticket? i).map fun a => if t = i then f a else a := by
  simp only [ticket?, modifyTicket, List.getElem?_modify]
  rfl

theorem ticket?_setProgress (l : WorkspaceLock) (t i : Nat) (p : Progress) :
    (l.setProgress t p).ticket? i =
      (l.ticket? i).map fun a => if t = i then { a with progress := p } else a :=
  ticket?_modifyTicket l t i _

theorem ticket?_cancel (l : WorkspaceLock) (t i : Nat) : (l.cancel t).ticket? i =
    (l.ticket? i).map fun a => if t = i then { a with cancelled := true } else a :=
  ticket?_modifyTicket l t i _

theorem ticket?_cancelWrite (l : WorkspaceLock) (t : Nat) : l.cancelWrite.ticket? t =
    (l.ticket? t).map fun a => if l.newest = some t then { a with cancelled := true } else a := by
  rw [cancelWrite]
  cases hnewest : l.newest with
  | none => simp
  | some newest => simp [ticket?_cancel]

theorem ticket?_forget (l : WorkspaceLock) (label : String) (i : Nat) :
    (l.forget label).ticket? i =
      (l.ticket? i).map fun a => if a.label = label then { a with awaited := false } else a := by
  simp only [ticket?, forget, List.getElem?_map]

theorem ticket?_append (l : WorkspaceLock) (a : Ticket) (i : Nat) :
    ticket? { l with tickets := l.tickets ++ [a] } i =
      if i = l.tickets.length then some a else l.ticket? i := by
  simp only [ticket?, List.getElem?_append, List.getElem?_singleton]
  split
  · rw [if_neg (by omega)]
  · rename_i h
    split
    · rw [if_pos (by omega)]
    · rw [if_neg (by omega), List.getElem?_eq_none (by omega)]

theorem ticket?_lt {a : Ticket} (h : l.ticket? t = some a) : t < l.tickets.length :=
  (List.getElem?_eq_some_iff.mp h).1

@[simp] theorem ticket?_wake (tasks : List Task) : (l.wake tasks).ticket? i = l.ticket? i := rfl

@[simp] theorem ticket?_resume (task : Task) : (l.resume task).ticket? i = l.ticket? i := rfl

@[simp] theorem ticket?_block (wait : Wait) : (l.block t wait).ticket? i = l.ticket? i := rfl

@[simp] theorem ticket?_openGate (gate : String) : (l.openGate gate).ticket? i = l.ticket? i := rfl

@[simp] theorem tickets_wakeDriver : l.wakeDriver.tickets = l.tickets := by
  rw [wakeDriver]
  split <;> rfl

@[simp] theorem tickets_readIsOver (kind : Kind) : (l.readIsOver kind).tickets = l.tickets := by
  rw [readIsOver]
  split
  · exact tickets_wakeDriver
  · rfl

@[simp] theorem tickets_ensureDriver : l.ensureDriver.tickets = l.tickets := by
  rw [ensureDriver]
  split <;> rfl

@[simp] theorem tickets_endAction (kind : Kind) (outcome : Outcome) :
    (l.endAction t kind outcome).tickets = (l.setProgress t (.ended outcome)).tickets := by
  simp only [endAction]
  split
  · exact tickets_wakeDriver
  · rfl

/-! ## Tickets move onward -/

/-- **Every ticket of the first state has moved onward** in the second, and
what was submitted in between waits. -/
structure Onward (l l' : WorkspaceLock) : Prop where
  old : ∀ t a, l.ticket? t = some a → ∃ b, l'.ticket? t = some b ∧ a.Onward b
  new : ∀ t b, l.ticket? t = none → l'.ticket? t = some b → b.progress = .waiting

theorem Onward.of_map (f : Nat → Ticket → Ticket)
    (h : ∀ i, l'.ticket? i = (l.ticket? i).map (f i)) (hf : ∀ i a, Ticket.Onward a (f i a)) :
    l.Onward l' where
  old i a ha := ⟨f i a, by rw [h, ha, Option.map_some], hf i a⟩
  new i b hnone hb := by
    rw [h, hnone] at hb
    cases hb

theorem Onward.refl (l : WorkspaceLock) : l.Onward l :=
  .of_map (fun _ a => a) (by simp) fun _ => .refl

theorem Onward.congr {l₁ l₂ : WorkspaceLock} (h : l.Onward l₁) (heq : l₂.tickets = l₁.tickets) :
    l.Onward l₂ := by
  have hticket : ∀ i, l₂.ticket? i = l₁.ticket? i := fun i => by rw [ticket?, ticket?, heq]
  exact ⟨fun i a ha => by simpa only [hticket] using h.old i a ha,
    fun i b hnone hb => h.new i b hnone (hticket i ▸ hb)⟩

/-- An action goes one step further, whatever happened to its token before. -/
theorem Onward.setProgress (h : l.Onward l') {a : Ticket} (ha : l.ticket? t = some a) {p : Progress}
    (hnext : a.Next p) : l.Onward (l'.setProgress t p) where
  old i a' ha' := by
    obtain ⟨b, hb, hon⟩ := h.old i a' ha'
    rw [ticket?_setProgress, hb, Option.map_some]
    by_cases hi : t = i
    · subst hi
      cases ha.symm.trans ha'
      rw [if_pos rfl]
      exact ⟨_, rfl, { hon with progress := .inr hnext }⟩
    · rw [if_neg hi]
      exact ⟨b, rfl, hon⟩
  new i b hnone hb := by
    have hi : t ≠ i := by
      rintro rfl
      cases ha.symm.trans hnone
    rw [ticket?_setProgress] at hb
    simp only [if_neg hi, Option.map_id'] at hb
    exact h.new i b hnone hb

theorem onward_forget (l : WorkspaceLock) (label : String) : l.Onward (l.forget label) := by
  refine .of_map _ (ticket?_forget l label) fun i a => ?_
  split
  · exact ⟨rfl, rfl, rfl, rfl, id, .inl rfl⟩
  · exact .refl a

theorem onward_append {a : Ticket} (hwaits : a.progress = .waiting) (f : Nat → Ticket → Ticket)
    (h : ∀ i, l'.ticket? i = (ticket? { l with tickets := l.tickets ++ [a] } i).map (f i))
    (hf : ∀ i a, Ticket.Onward a (f i a) ∧ (f i a).progress = a.progress) : l.Onward l' where
  old i b hb := by
    refine ⟨f i b, ?_, (hf i b).1⟩
    rw [h, ticket?_append, if_neg (Nat.ne_of_lt (ticket?_lt hb)), hb, Option.map_some]
  new i b hnone hb := by
    rw [h, ticket?_append] at hb
    split at hb
    · cases hb
      exact (hf i a).2.trans hwaits
    · rw [hnone] at hb
      cases hb

theorem onward_submit (l : WorkspaceLock) (kind : Kind) (label : String) (refusal : Option String)
    (body : List Act) : l.Onward (l.submit kind label refusal body) := by
  let a : Ticket := ⟨kind, label, refusal, body, false, true, .waiting⟩
  have hself : ∀ l' : WorkspaceLock, l'.tickets = l.tickets ++ [a] → l.Onward l' := fun l' hl =>
    onward_append (a := a) rfl (fun _ a => a) (fun i => by simp [ticket?, hl]) fun _ a =>
      ⟨.refl a, rfl⟩
  cases kind with
  | write =>
    refine (onward_append (a := a) rfl _ (ticket?_cancelWrite _) fun i a => ?_).congr
      tickets_ensureDriver
    exact a.onward_cancelled _
  | read => exact hself _ tickets_ensureDriver
  | immediate => exact hself _ rfl

theorem onward_serve (l : WorkspaceLock) (call : Call) : l.Onward (l.serve call) := by
  cases call with
  | submit kind label refusal body => exact onward_submit l kind label refusal body
  | cancelWrite => exact .of_map _ (ticket?_cancelWrite l) fun i a => (a.onward_cancelled _).1
  | cancelToken t => exact .of_map _ (ticket?_cancel l t) fun i a => (a.onward_cancelled _).1
  | forget label => exact onward_forget l label
  | openGate gate => exact (Onward.refl l).congr rfl

end

/-! ## Running one task -/

/-- A task has nothing to do. -/
def Idle (l : WorkspaceLock) : Task → Prop
  | .driver => l.driver = .absent ∨ ∃ t, l.driver = .writing t ∧
      ∀ a outcome, l.ticket? t = some a → a.progress ≠ .ended outcome
  | .job t => ∀ a, l.ticket? t = some a →
      a.progress ≠ .waiting ∧ ∀ outcome, a.progress ≠ .ended outcome
  | .action t => ∀ a rest, l.ticket? t = some a → a.progress ≠ .running rest

/-- **What running a task does** to a lock that it was taken from. -/
inductive Effect (l : WorkspaceLock) : Task → WorkspaceLock → Prop where
  /-- There is nothing to do. -/
  | nothing {task : Task} (hidle : l.Idle task) : Effect l task l
  /-- The driver calls the first write. -/
  | startWrite {t : Nat} {rest : List Nat} {a : Ticket} (hdriver : l.driver = .choosing)
      (hqueue : l.writes = t :: rest) (hticket : l.ticket? t = some a) (hcall : a.refusal = none) :
      Effect l .driver ({ WorkspaceLock.setProgress { l with writes := rest } t (.running a.body) with
        driver := .writing t }.wake [.action t])
  /-- The first write panics when it is called, and takes the driver with it. -/
  | refuseWrite {t : Nat} {rest : List Nat} (hdriver : l.driver = .choosing) (hqueue : l.writes = t :: rest)
      (hcall : ∀ a, l.ticket? t = some a → a.refusal ≠ none) :
      Effect l .driver { WorkspaceLock.setProgress { l with writes := rest } t .dropped with
        driver := .absent }
  /-- The driver lets all reads go. -/
  | startReads (hdriver : l.driver = .choosing) (hwrites : l.writes = []) (hreads : l.reads ≠ []) :
      Effect l .driver
        (wake { l with reads := [], driver := .reading l.reads } (l.reads.map .job))
  /-- The driver ends. -/
  | stop (hdriver : l.driver = .choosing) (hwrites : l.writes = []) (hreads : l.reads = []) :
      Effect l .driver { l with running := false, driver := .absent }
  /-- The write has ended. -/
  | endWrite {t : Nat} {a : Ticket} {outcome : Outcome} (hdriver : l.driver = .writing t)
      (hticket : l.ticket? t = some a) (hended : a.progress = .ended outcome) :
      Effect l .driver
        ({ l.setProgress t (.resolved outcome) with driver := .choosing }.resume .driver)
  /-- The last read is over. -/
  | endReads {batch : List Nat} (hdriver : l.driver = .reading batch)
      (hover : ∀ t ∈ batch, l.isOver t = true) :
      Effect l .driver (resume { l with driver := .choosing } .driver)
  /-- Some reads are not over. -/
  | awaitReads {batch : List Nat} (hdriver : l.driver = .reading batch)
      (hleft : ∃ t ∈ batch, l.isOver t = false) :
      Effect l .driver { l with driver := .reading (batch.filter (!l.isOver ·)) }
  | callJob {t : Nat} {a : Ticket} (hticket : l.ticket? t = some a) (hwaits : a.progress = .waiting)
      (hcall : a.refusal = none) :
      Effect l (.job t) ((l.setProgress t (.running a.body)).wake [.action t])
  | refuseJob {t : Nat} {a : Ticket} (hticket : l.ticket? t = some a) (hwaits : a.progress = .waiting)
      (hcall : a.refusal ≠ none) :
      Effect l (.job t) ((l.setProgress t .dropped).readIsOver a.kind)
  | endJob {t : Nat} {a : Ticket} {outcome : Outcome} (hticket : l.ticket? t = some a)
      (hended : a.progress = .ended outcome) :
      Effect l (.job t) ((l.setProgress t (.resolved outcome)).readIsOver a.kind)
  /-- An action ends. -/
  | finish {t : Nat} {a : Ticket} {rest : List Act} {outcome : Outcome} (hticket : l.ticket? t = some a)
      (hruns : a.progress = .running rest) (hends : a.outcome? rest = some outcome) :
      Effect l (.action t) (l.endAction t a.kind outcome)
  /-- An action does an act that is nothing to the lock. -/
  | pass {t : Nat} {a : Ticket} {act : Act} {rest : List Act} (log : List Entry)
      (hticket : l.ticket? t = some a) (hruns : a.progress = .running (act :: rest))
      (hact : act.isPassable = true) (hcall : act.call? = none) :
      Effect l (.action t)
        ((WorkspaceLock.setProgress { l with log := log } t (.running rest)).resume (.action t))
  /-- An action calls the lock. -/
  | call {t : Nat} {a : Ticket} {act : Act} {rest : List Act} {call : Call}
      (hticket : l.ticket? t = some a) (hruns : a.progress = .running (act :: rest))
      (hact : act.isPassable = true) (hcall : act.call? = some call) :
      Effect l (.action t) (((l.serve call).setProgress t (.running rest)).resume (.action t))
  /-- An action is held up. -/
  | block {t : Nat} {a : Ticket} {act : Act} {rest : List Act} (wait : Wait)
      (hticket : l.ticket? t = some a) (hruns : a.progress = .running (act :: rest))
      (hcall : act.call? = none) : Effect l (.action t) (l.block t wait)

theorem choose_effect (hdriver : l.driver = .choosing) : Effect l .driver l.choose := by
  unfold choose
  split
  · rename_i t rest _ hw
    dsimp only
    split
    · exact .startWrite hdriver hw ‹_› rfl
    · rename_i hnot
      refine .refuseWrite hdriver hw fun a ha hrefusal => ?_
      obtain ⟨kind, label, refusal, body, cancelled, awaited, progress⟩ := a
      dsimp only at hrefusal
      subst hrefusal
      exact hnot _ _ _ _ _ _ ha
  · exact .stop hdriver ‹_› ‹_›
  · rename_i hnone
    exact .startReads hdriver ‹_› hnone

theorem runDriver_effect (l : WorkspaceLock) : Effect l .driver l.runDriver := by
  rw [runDriver]
  split
  · exact .nothing (.inl ‹_›)
  · exact choose_effect ‹_›
  · rename_i t hdriver
    split
    · rename_i outcome hended
      obtain ⟨a, hticket, hended⟩ := Option.map_eq_some_iff.mp hended
      exact .endWrite hdriver hticket hended
    · rename_i hnot
      refine .nothing (.inr ⟨t, hdriver, fun a outcome hticket hended => hnot outcome ?_⟩)
      rw [hticket, Option.map_some, hended]
  · rename_i batch hdriver
    split
    · rename_i hnone
      refine .endReads hdriver fun t ht => ?_
      simpa using List.filter_eq_nil_iff.mp hnone t ht
    · rename_i hsome
      refine .awaitReads hdriver ?_
      obtain ⟨t, ht⟩ := List.exists_mem_of_ne_nil _ hsome
      obtain ⟨hmem, hover⟩ := List.mem_filter.mp ht
      exact ⟨t, hmem, by simpa using hover⟩

theorem runJob_effect (l : WorkspaceLock) (t : Nat) : Effect l (.job t) (l.runJob t) := by
  rw [runJob]
  split
  · rename_i hnone
    refine .nothing fun a hticket => ?_
    rw [hnone] at hticket
    cases hticket
  · rename_i a hticket
    have hidle : a.progress ≠ .waiting → (∀ outcome, a.progress ≠ .ended outcome) →
        Effect l (.job t) l := fun hcalled hended => .nothing fun b hb => by
      rw [hticket, Option.some.injEq] at hb
      exact hb ▸ ⟨hcalled, hended⟩
    cases hp : a.progress with
    | waiting =>
      cases hcall : a.refusal with
      | none => exact .callJob hticket hp hcall
      | some message => exact .refuseJob hticket hp (by simp [hcall])
    | running rest => exact hidle (by simp [hp]) (by simp [hp])
    | ended outcome => exact .endJob hticket hp
    | resolved outcome => exact hidle (by simp [hp]) (by simp [hp])
    | dropped => exact hidle (by simp [hp]) (by simp [hp])

theorem runAct_effect {t : Nat} {a : Ticket} {act : Act} {rest : List Act}
    (hticket : l.ticket? t = some a)
    (hruns : a.progress = .running (act :: rest)) :
    Effect l (.action t) (l.runAct t a act rest) := by
  cases act with
  | log text => exact .pass (l.log ++ [⟨a.kind, a.label, text⟩]) hticket hruns rfl rfl
  | pass gate =>
    simp only [runAct]
    split
    · exact .pass l.log hticket hruns rfl rfl
    · exact .block _ hticket hruns rfl
  | openGate gate => exact .call hticket hruns rfl rfl
  | check =>
    simp only [runAct]
    split
    · exact .finish hticket hruns (by simpa [Ticket.outcome?, Act.outcome?] using ‹_ ∧ _›)
    · exact .pass l.log hticket hruns rfl rfl
  | awaitCancel =>
    simp only [runAct]
    split
    · exact .block _ hticket hruns rfl
    · exact .pass l.log hticket hruns rfl rfl
  | cancelWrite => exact .call hticket hruns rfl rfl
  | fail cause => exact .finish hticket hruns rfl
  | panic message => exact .finish hticket hruns rfl
  | finish value => exact .finish hticket hruns rfl
  | submit kind label refusal body => exact .call hticket hruns rfl rfl

theorem runAction_effect (l : WorkspaceLock) (t : Nat) :
    Effect l (.action t) (l.runAction t) := by
  rw [runAction]
  split
  · rename_i a hticket
    split
    · exact .finish hticket ‹_› rfl
    · exact runAct_effect hticket ‹_›
    · rename_i hended hidle
      refine .nothing fun b rest hb hruns => ?_
      rw [hticket, Option.some.injEq] at hb
      subst hb
      cases rest with
      | nil => exact hended hruns
      | cons act rest => exact hidle act rest hruns
  · rename_i hnone
    refine .nothing fun b rest hb => ?_
    rw [hnone] at hb
    cases hb

/-- **A step takes a task from those that are ready and runs it.** -/
theorem step_effect {place : Nat} (h : l.step place = some l') : ∃ task before after,
    l.ready = before ++ task :: after ∧ l.ready[place]? = some task ∧
      Effect { l with ready := before ++ after } task l' := by
  rw [step] at h
  split at h
  · cases h
  · rename_i task hplace
    obtain ⟨hlt, htask⟩ := List.getElem?_eq_some_iff.mp hplace
    refine ⟨task, l.ready.take place, l.ready.drop (place + 1), ?_, hplace, ?_⟩
    · rw [← htask, ← List.drop_eq_getElem_cons hlt, List.take_append_drop]
    · rw [← List.eraseIdx_eq_take_drop_succ]
      cases h
      cases task with
      | driver => exact runDriver_effect _
      | job t => exact runJob_effect _ t
      | action t => exact runAction_effect _ t

end WorkspaceLock

end Workbench
