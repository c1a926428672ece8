import Workbench.Grammar.DomainModel
import Workbench.Proofs.Worker.Pool.Effect
/-!
# The capacity of a pool

Each slot of a pool is in one place at any time: it is free, or its worker
is idle, being started or being dropped, or belongs to one request. An event
moves a slot and neither loses nor doubles it (`count_slots_step`). And a
request that waits is not passed by: as long as workers can be started,
nobody waits while a worker is idle or a slot is free (`Prompt.step`).
-/

namespace Workbench

namespace Pool

variable {p : Pool} {r : Nat} {q : Request}

/-- The slot that a request in this phase has. -/
def Phase.slot? : Phase → Option Nat
  | starting slot => some slot
  | phase => phase.worker?.map Worker.slot

/-- The slots that requests have. -/
def slotsOf (requests : List Request) : List Nat := requests.flatMap (·.phase.slot?.toList)

/-- **The slots of a pool**, as the places have them: those that are free,
those of idle workers, of workers that are started or dropped, and those that
requests have. -/
def slots (p : Pool) : List Nat :=
  p.freeSlots ++ p.idle.map Worker.slot ++ p.restarting ++ p.dropping ++ slotsOf p.requests

/-- Whether a thread could not be started. -/
def Event.fails : Event → Bool
  | unstarted _ _ => true
  | unrestarted _ => true
  | _ => false

/-! ## Counting slots -/

/-- How often a slot occurs in a pool. -/
def count (p : Pool) (slot : Nat) : Nat :=
  p.freeSlots.count slot + (p.idle.map Worker.slot).count slot + p.restarting.count slot +
    p.dropping.count slot + (slotsOf p.requests).count slot

theorem count_slots (p : Pool) (slot : Nat) : p.slots.count slot = p.count slot := by
  simp only [slots, count, List.count_append]

/-- What the requests have changes by what one of them has. -/
theorem count_modify {requests : List Request} (f : Request → Request)
    (h : requests[r]? = some q) (slot : Nat) :
    (slotsOf (requests.modify r f)).count slot + q.phase.slot?.toList.count slot =
      (slotsOf requests).count slot + (f q).phase.slot?.toList.count slot := by
  induction requests generalizing r with
  | nil => simp at h
  | cons first rest ih =>
    cases r with
    | zero =>
      obtain rfl : first = q := by simpa using h
      simp only [slotsOf, List.modify_zero_cons, List.flatMap_cons, List.count_append]
      omega
    | succ r =>
      have hrest := ih (r := r) (by simpa using h)
      simp only [slotsOf, List.modify_succ_cons, List.flatMap_cons, List.count_append] at hrest ⊢
      omega

theorem count_concat (requests : List Request) (q : Request) (slot : Nat) :
    (slotsOf (requests ++ [q])).count slot =
      (slotsOf requests).count slot + q.phase.slot?.toList.count slot := by
  simp only [slotsOf, List.flatMap_append, List.flatMap_cons, List.flatMap_nil, List.append_nil,
    List.count_append]

/-- A slot that is taken from a list was there. -/
theorem count_erase_add {l : List Nat} {slot : Nat} (h : slot ∈ l) (other : Nat) :
    (l.erase slot).count other + [slot].count other = l.count other := by
  have hpos : 0 < l.count slot := List.count_pos_iff.mpr h
  rw [List.count_erase, List.count_singleton]
  by_cases hsame : slot = other
  · subst hsame
    simp only [beq_self_eq_true, if_true]
    omega
  · simp [hsame]

/-! ## What requests have -/

theorem Phase.slot?_of_worker? {phase : Phase} {slot : Nat}
    (h : phase.worker?.map Worker.slot = some slot) : phase.slot? = some slot := by
  cases phase <;> first | exact h | cases h

theorem Phase.slot?_of_isOver {phase : Phase} (h : phase.isOver = true) : phase.slot? = none := by
  cases phase <;> first | rfl | cases h

theorem waits_iff : p.waits r = true ↔ ∃ q, p.request? r = some q ∧ q.phase = .waiting := by
  have hwaiting (q : Request) : q.isWaiting = true ↔ q.phase = .waiting := by
    rw [Request.isWaiting]
    cases q.phase <;> simp
  simp only [waits, Option.any_eq_true, hwaiting]

/-- **A request that goes on keeps its slot.** -/
theorem Onward.slot? {phase : Phase} (h : Onward r q phase) : phase.slot? = q.phase.slot? := by
  cases h with
  | ends hnone hstart hover =>
    rw [Phase.slot?_of_isOver hover]
    cases hphase : q.phase with
    | starting slot => exact absurd hphase (hstart slot)
    | _ => simp_all [Phase.slot?, Phase.worker?]
  | started h => rw [h]; rfl
  | taken h => rw [h]; rfl
  | sent h => rw [h]; rfl
  | flagged h => rw [h]; rfl
  | unused h => rw [h]; rfl
  | answered h _ =>
    cases hphase : q.phase <;> simp_all [Phase.atWork?, Phase.slot?, Phase.worker?]

/-- A worker that is handed on is idle, or has been handed to somebody. -/
theorem count_handOn (p : Pool) (w : Worker) (slot : Nat) :
    (p.handOn w).count slot = p.count slot + [w.slot].count slot := by
  obtain ⟨registry, ⟨r, gone, rest, -, hwaits, heq⟩ | ⟨-, heq⟩⟩ := handOn_cases p w
  · -- who waits has no slot yet
    obtain ⟨q, hq, hphase⟩ := waits_iff.mp hwaits
    have hhanded := count_modify (fun request =>
      { request with phase := .handed { w with flagged := false } }) hq slot
    rw [hphase] at hhanded
    simp only [Phase.slot?, Phase.worker?, Option.map_none, Option.map_some, Option.toList_none,
      Option.toList_some, List.count_nil] at hhanded
    rw [heq]
    simp only [count, setPhase]
    omega
  · rw [heq]
    simp only [count, List.map_cons, List.count_cons, List.count_nil]
    omega

/-- What workers do leaves them in their slots. -/
theorem count_atSlot {f : Worker → Worker} (hf : ∀ w, (f w).slot = w.slot) (p : Pool)
    (at_ slot : Nat) : (p.atSlot at_ f).count slot = p.count slot := by
  have hworker (w : Worker) : (if w.slot = at_ then f w else w).slot = w.slot := by
    split
    · exact hf w
    · rfl
  have hphase (phase : Phase) :
      (phase.mapWorker fun w => if w.slot = at_ then f w else w).slot? = phase.slot? := by
    cases phase <;> simp [Phase.mapWorker, Phase.slot?, Phase.worker?, hworker]
  simp only [count, slotsOf, atSlot, List.map_map, List.flatMap_map, Function.comp_def, hworker,
    hphase]

/-- **No event loses a slot or doubles it.** -/
theorem count_step (p : Pool) (e : Event) (slot : Nat) : (p.step e).count slot = p.count slot := by
  have heffect := step_effect p e
  generalize p.step e = p' at heffect
  cases heffect with
  | same => rfl
  | cancelled r =>
    cases hq : p.request? r with
    | none =>
      rw [cancel, List.modify_eq_self (List.getElem?_eq_none_iff.mp hq)]
    | some q =>
      have hsame := count_modify (fun request => { request with cancelled := true }) hq slot
      dsimp only at hsame
      simp only [count, cancel]
      omega
  | refused text entry =>
    simp only [count, count_concat]
    rfl
  | served text entry _ hidle =>
    simp only [count, count_concat, hidle, List.map_cons, List.count_cons, Phase.slot?,
      Phase.worker?, Option.map_some, Option.toList_some, List.count_nil]
    omega
  | starts text entry _ _ hfree =>
    simp only [count, count_concat, hfree, List.count_cons, Phase.slot?, Option.toList_some,
      List.count_nil]
    omega
  | queues text entry =>
    simp only [count, count_concat]
    rfl
  | @goesOn r q phase _ registry generations hq honward =>
    have hgoesOn := count_modify (fun request => { request with phase }) hq slot
    rw [honward.slot?] at hgoesOn
    simp only [count, setPhase]
    omega
  | @givesUp r freed q message hq hphase =>
    have hdone := count_modify (fun request =>
      { request with phase := .done (.error (.unstarted message)) }) hq slot
    simp only [hphase, Phase.slot?, Phase.worker?, Option.map_none, Option.toList_none,
      Option.toList_some, List.count_nil] at hdone
    simp only [count, finish, setPhase, List.count_cons]
    rw [List.count_singleton] at hdone
    omega
  | @drops r freed q phase _ registry hq hworker hover =>
    have hdone := count_modify (fun request => { request with phase }) hq slot
    simp only [Phase.slot?_of_worker? hworker, Phase.slot?_of_isOver hover, Option.toList_none,
      Option.toList_some, List.count_nil] at hdone
    simp only [count, setPhase, List.count_append]
    omega
  | @leaves r q w outcome _ hq hphase =>
    have hdone := count_modify (fun request => { request with phase := .done outcome }) hq slot
    simp only [hphase, Phase.slot?, Phase.worker?, Option.map_none, Option.map_some,
      Option.toList_none, Option.toList_some, List.count_nil] at hdone
    rw [count_handOn]
    simp only [count, finish, setPhase]
    omega
  | @frees freed _ hmem =>
    have hmoved := count_erase_add hmem slot
    simp only [count, List.count_cons]
    rw [List.count_singleton] at hmoved
    omega
  | @replaces freed _ hmem =>
    have hmoved := count_erase_add hmem slot
    simp only [count, List.count_append]
    omega
  | @restarted freed _ registry generations hmem =>
    have hmoved := count_erase_add hmem slot
    rw [count_handOn]
    simp only [count, Worker.fresh]
    omega
  | @unrestarted freed hmem =>
    have hmoved := count_erase_add hmem slot
    simp only [count, List.count_cons]
    rw [List.count_singleton] at hmoved
    omega
  | begins => exact count_atSlot Worker.slot_begin p _ slot
  | answers _ reply => exact count_atSlot (Worker.slot_answer · reply) p _ slot

theorem count_play (p : Pool) (events : List Event) (slot : Nat) :
    (p.play events).count slot = p.count slot := by
  induction events generalizing p with
  | nil => rfl
  | cons e events ih => exact (ih (p.step e)).trans (count_step p e slot)

/-! ## Nobody is passed by -/

/-- **Whoever waits is served at once**: nobody waits in the queue while a
worker is idle or a slot is free. -/
def Prompt (p : Pool) : Prop :=
  (∃ r ∈ p.waiters, p.waits r = true) → p.idle = [] ∧ p.freeSlots = []

/-- Nobody else waits, and nothing else is there to be had. -/
theorem Prompt.of_le {p p' : Pool} (h : Prompt p)
    (hwaits : ∀ r ∈ p'.waiters, p'.waits r = true → r ∈ p.waiters ∧ p.waits r = true)
    (hidle : p.idle = [] → p'.idle = []) (hfree : p.freeSlots = [] → p'.freeSlots = []) :
    Prompt p' := by
  rintro ⟨r, hr, hwaiting⟩
  obtain ⟨hr, hwaiting⟩ := hwaits r hr hwaiting
  obtain ⟨hnone, hnothing⟩ := h ⟨r, hr, hwaiting⟩
  exact ⟨hidle hnone, hfree hnothing⟩

theorem waits_of_modify {r r' : Nat} {f : Request → Request} {registry : WorkerRegistry}
    (hf : ∀ q, (f q).phase = .waiting → q.phase = .waiting)
    (h : ({ p with requests := p.requests.modify r f, registry } : Pool).waits r' = true) :
    p.waits r' = true := by
  obtain ⟨q, hq, hphase⟩ := waits_iff.mp h
  rw [request?, List.getElem?_modify] at hq
  obtain ⟨q', hq', rfl⟩ := Option.map_eq_some_iff.mp hq
  refine waits_iff.mpr ⟨q', hq', ?_⟩
  split at hphase
  · exact hf q' hphase
  · exact hphase

theorem waits_of_setPhase (phase : Phase) {r' : Nat} (hphase : phase ≠ .waiting)
    (h : (p.setPhase r phase).waits r' = true) : p.waits r' = true :=
  waits_of_modify (fun _ h => absurd h hphase) h

theorem waits_of_concat (q : Request) {r' : Nat} {idle : List Worker} {freeSlots : List Nat}
    (hphase : q.phase ≠ .waiting)
    (h : ({ p with idle, freeSlots, requests := p.requests ++ [q] } : Pool).waits r' = true) :
    p.waits r' = true := by
  obtain ⟨q', hq', hwaiting⟩ := waits_iff.mp h
  refine waits_iff.mpr ⟨q', ?_, hwaiting⟩
  rw [request?, List.getElem?_append] at hq'
  split at hq'
  · exact hq'
  · obtain rfl : q' = q := by
      have := List.mem_of_getElem? hq'
      simpa using this
    exact absurd hwaiting hphase

theorem waits_of_atSlot {slot r' : Nat} {f : Worker → Worker}
    (h : (p.atSlot slot f).waits r' = true) : p.waits r' = true := by
  obtain ⟨q, hq, hphase⟩ := waits_iff.mp h
  rw [request?, atSlot, List.getElem?_map] at hq
  obtain ⟨q', hq', rfl⟩ := Option.map_eq_some_iff.mp hq
  refine waits_iff.mpr ⟨q', hq', ?_⟩
  cases hsame : q'.phase <;> simp_all [Phase.mapWorker]

theorem Onward.ne_waiting {phase : Phase} (h : Onward r q phase) : phase ≠ .waiting := by
  cases h with
  | ends _ _ hover =>
    rintro rfl
    cases hover
  | _ => nofun

/-- A worker that is handed on becomes idle only when nobody waits. -/
theorem Prompt.handOn (h : Prompt p) (w : Worker) : Prompt (p.handOn w) := by
  obtain ⟨registry, ⟨r, gone, rest, hqueue, -, heq⟩ | ⟨-, heq⟩⟩ := handOn_cases p w
  · rw [heq]
    refine h.of_le (fun r' hr' hwaits => ⟨?_, ?_⟩) id id
    · rw [hqueue]
      exact List.mem_append_right _ (List.mem_cons_of_mem _ hr')
    · exact waits_of_setPhase (p := { p with waiters := rest, registry })
        (.handed { w with flagged := false }) nofun hwaits
  · rw [heq]
    rintro ⟨r, hr, -⟩
    cases hr

/-- **An event leaves nobody behind**, unless a worker could not be started. -/
theorem Prompt.step (h : Prompt p) {e : Event} (he : e.fails = false) : Prompt (p.step e) := by
  have heffect := step_effect p e
  generalize p.step e = p' at heffect
  cases heffect with
  | same => exact h
  | cancelled r =>
    refine h.of_le (fun r' hr' hwaits => ⟨hr', ?_⟩) id id
    exact waits_of_modify (f := fun q => { q with cancelled := true }) (fun _ h => h) hwaits
  | refused text entry =>
    exact h.of_le (fun r' hr' hwaits =>
      ⟨hr', waits_of_concat ⟨text, entry, true, .done _⟩ nofun hwaits⟩) id id
  | served text entry _ hidle =>
    refine h.of_le (fun r' hr' hwaits =>
      ⟨hr', waits_of_concat ⟨text, entry, false, .held _⟩ nofun hwaits⟩) (fun hnone => ?_) id
    rw [hidle] at hnone
    cases hnone
  | starts text entry _ _ hfree =>
    refine h.of_le (fun r' hr' hwaits =>
      ⟨hr', waits_of_concat ⟨text, entry, false, .starting _⟩ nofun hwaits⟩) id fun hnone => ?_
    rw [hfree] at hnone
    cases hnone
  | queues text entry _ hidle hfree => exact fun _ => ⟨hidle, hfree⟩
  | goesOn _ registry generations hq honward =>
    exact h.of_le
      (fun r' hr' hwaits => ⟨hr', waits_of_setPhase _ honward.ne_waiting hwaits⟩) id id
  | givesUp => cases he
  | @drops _ _ _ phase _ registry hq hworker hover =>
    refine h.of_le (fun r' hr' hwaits => ⟨hr', waits_of_setPhase phase ?_ hwaits⟩) id id
    rintro rfl
    cases hover
  | @leaves r q w outcome _ hq hphase =>
    refine Prompt.handOn (p := p.finish r outcome) (h.of_le (fun r' hr' hwaits => ⟨hr', ?_⟩) id id) w
    exact waits_of_setPhase (.done outcome) nofun hwaits
  | frees _ _ hnone =>
    rintro ⟨r, hr, hwaits⟩
    exact absurd hwaits (List.any_eq_false.mp hnone r hr)
  | replaces => exact h.of_le (fun r' hr' hwaits => ⟨hr', hwaits⟩) id id
  | @restarted slot _ registry generations =>
    exact Prompt.handOn
      (p := { p with restarting := p.restarting.erase slot, registry, generations })
      (h.of_le (fun r' hr' hwaits => ⟨hr', hwaits⟩) id id) _
  | unrestarted => cases he
  | begins =>
    refine h.of_le (fun r' hr' hwaits => ⟨hr', waits_of_atSlot hwaits⟩) (fun hnone => ?_) id
    rw [atSlot, hnone]
    rfl
  | answers =>
    refine h.of_le (fun r' hr' hwaits => ⟨hr', waits_of_atSlot hwaits⟩) (fun hnone => ?_) id
    rw [atSlot, hnone]
    rfl

theorem Prompt.play (h : Prompt p) {events : List Event} (he : ∀ e ∈ events, e.fails = false) :
    Prompt (p.play events) := by
  induction events generalizing p with
  | nil => exact h
  | cons e events ih =>
    exact ih (h.step (he e (by simp))) fun e' he' => he e' (List.mem_cons_of_mem e he')

/-! ## From the start -/

theorem count_ofThreads (g : Grammar) {n : Nat} (hn : 1 ≤ n) (slot : Nat) :
    (ofThreads g n).count slot = (List.range n).count slot := by
  have hmax : max n 1 = n := by omega
  simp [count, ofThreads, slotsOf, hmax]

theorem prompt_ofThreads (g : Grammar) (n : Nat) : Prompt (ofThreads g n) := by
  rintro ⟨r, hr, -⟩
  cases hr

/-- **A pool neither loses capacity nor makes it up.** Whatever happens,
each of its slots is in exactly one place; and as long as threads can be
started, nobody waits while there is an idle worker or a free slot. -/
theorem capacity_kept (g : Grammar) {n : Nat} (hn : 1 ≤ n) (events : List Event) :
    ((ofThreads g n).play events).slots.Perm (List.range n) ∧
    ((∀ e ∈ events, e.fails = false) → Prompt ((ofThreads g n).play events)) := by
  refine ⟨List.perm_iff_count.mpr fun slot => ?_, (prompt_ofThreads g n).play⟩
  rw [count_slots, count_play, count_ofThreads g hn]

/-- A worker crashes on the first of two texts, and is replaced while the
second waits. -/
def crashed : List Event :=
  [.arrive "a" none false, .arrive "b" none false, .started 0, .send 0, .begin 0,
    .answer 0 (.crashed "boom"), .receive 0, .freed 0]

theorem capacity_kept_crashed :
    1 ≤ 1 ∧ (∀ e ∈ crashed, e.fails = false) ∧
    (∃ r ∈ ((ofThreads default 1).play crashed).waiters,
      ((ofThreads default 1).play crashed).waits r = true) ∧
    ((ofThreads default 1).play crashed).slots.Perm (List.range 1) ∧
    ((ofThreads default 1).play crashed).idle = [] ∧
    ((ofThreads default 1).play crashed).freeSlots = [] := by
  have hfails : ∀ e ∈ crashed, e.fails = false := by decide
  have hwaits : ∃ r ∈ ((ofThreads default 1).play crashed).waiters,
      ((ofThreads default 1).play crashed).waits r = true := ⟨1, by decide, by decide⟩
  have hkept := capacity_kept default (Nat.le_refl 1) crashed
  exact ⟨Nat.le_refl 1, hfails, hwaits, hkept.1, hkept.2 hfails hwaits⟩

/-! ## Settling -/

theorem nextOfWorker?_fails {answers : Answers} {w : Worker} {otherwise : Option Event} {e : Event}
    (hother : ∀ e, otherwise = some e → e.fails = false)
    (h : nextOfWorker? answers w otherwise = some e) : e.fails = false := by
  rw [nextOfWorker?] at h
  split at h
  · cases h
    rfl
  · split at h
    · cases h
      rfl
    · exact hother e h
  · exact hother e h

theorem nextOf?_fails {answers : Answers} {e : Event} (h : nextOf? answers r q = some e) :
    e.fails = false := by
  rw [nextOf?] at h
  split at h
  · split at h <;> cases h
    rfl
  · cases h
    rfl
  · split at h <;> cases h <;> rfl
  · cases h
    rfl
  · split at h
    · refine nextOfWorker?_fails (fun e he => ?_) h
      split at he <;> cases he
      rfl
    · cases h
      rfl
  · split at h
    · refine nextOfWorker?_fails (fun e he => ?_) h
      cases he
      rfl
    · cases h
      rfl
  · cases h
    rfl
  · cases h
  · cases h

theorem nextEvent?_fails {answers : Answers} {e : Event} (h : p.nextEvent? answers = some e) :
    e.fails = false := by
  rw [nextEvent?] at h
  split at h
  · cases h
    rfl
  · cases h
    rfl
  · obtain ⟨⟨q, r⟩, -, hnext⟩ := List.exists_of_findSome?_eq_some h
    exact nextOf?_fails hnext

/-- Settling is letting events happen, in which every thread is started. -/
theorem run_eq_play (answers : Answers) (n : Nat) (p : Pool) :
    ∃ events, (∀ e ∈ events, e.fails = false) ∧ run answers n p = p.play events := by
  induction n generalizing p with
  | zero => exact ⟨[], by simp, rfl⟩
  | succ n ih =>
    rw [run]
    split
    · next e hnext =>
      obtain ⟨events, hfails, hrun⟩ := ih (p.step e)
      refine ⟨e :: events, fun e' he' => ?_, hrun⟩
      rcases List.mem_cons.mp he' with rfl | he'
      · exact nextEvent?_fails hnext
      · exact hfails e' he'
    · exact ⟨[], by simp, rfl⟩

/-- **A pool that settles keeps its slots, and serves whom it can.** -/
theorem settle_keeps (p : Pool) (answers : Answers) :
    (p.settle answers).slots.Perm p.slots ∧ (Prompt p → Prompt (p.settle answers)) := by
  obtain ⟨events, hfails, hsettle⟩ := run_eq_play answers _ p
  rw [settle, hsettle]
  refine ⟨List.perm_iff_count.mpr fun slot => ?_, fun h => h.play hfails⟩
  rw [count_slots, count_slots, count_play]

end Pool

end Workbench
