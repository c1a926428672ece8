import Mathlib.Data.List.Induction
import Workbench.Grammar.DomainModel
import Workbench.Proofs.Worker.Pool.Effect
/-!
# Replies reach their requests

Replies do not say which request they are for, and workers go from one
request to the next. What keeps the two together is that a worker changes
hands with empty channels only (`Matched`): one that is idle, or that a
request has not yet sent its job or has already taken its reply, is quiet;
and one at work has the job of its request in exactly one place.
-/

namespace Workbench

namespace Pool

variable {p : Pool} {r : Nat} {q : Request} {w : Worker} {j : Job}

/-- **A worker with nothing to do**: no job is on its way to it, it works on
none, and it has no reply that was not taken. -/
structure Worker.Quiet (w : Worker) : Prop where
  jobs : w.jobs = []
  running : w.running = none
  replies : w.replies = []

/-- A worker has one job, which is on its way to it, or which it works on, or
which it has answered. -/
inductive Worker.Has (job : Job) (w : Worker) : Prop
  | queued : w.jobs = [job] → w.running = none → w.replies = [] → Has job w
  | running : w.jobs = [] → w.running = some job → w.replies = [] → Has job w
  | answered (reply : WorkerReply) : w.jobs = [] → w.running = none →
      w.replies = [(job.request, reply)] → Has job w

/-- The job of a request. -/
def Request.job (r : Nat) (q : Request) : Job := ⟨r, q.text, q.entry⟩

/-- What the channels of a request's worker hold in a phase. -/
structure Phase.Fits (job : Job) (phase : Phase) : Prop where
  quiet : ∀ w, phase.worker? = some w → phase.atWork? = none → w.Quiet
  has : ∀ w, phase.atWork? = some w → w.Has job

/-- **Workers and requests fit together.** -/
structure Matched (p : Pool) : Prop where
  idle : ∀ w ∈ p.idle, w.Quiet
  fits : ∀ r q, p.request? r = some q → q.phase.Fits (q.job r)

/-- The reply that a request takes next. -/
def reply? (p : Pool) (r : Nat) : Option WorkerReply :=
  (p.request? r).bind fun q => q.phase.atWork?.bind fun w => w.replies.head?.map Prod.snd

/-! ## Workers -/

theorem Worker.Quiet.fresh (slot : Nat) : (Worker.fresh slot).Quiet := ⟨rfl, rfl, rfl⟩

theorem Worker.Quiet.flag (h : w.Quiet) (flagged : Bool) : Worker.Quiet { w with flagged } :=
  ⟨h.jobs, h.running, h.replies⟩

theorem Worker.Quiet.begin (h : w.Quiet) : w.begin.Quiet := by
  rw [Worker.begin, h.jobs]
  exact h

theorem Worker.Quiet.answer (h : w.Quiet) (reply : WorkerReply) : (w.answer reply).Quiet := by
  rw [Worker.answer, h.running]
  exact h

/-- A job that is sent to a quiet worker is the only one it has. -/
theorem Worker.Quiet.send (h : w.Quiet) (job : Job) :
    Worker.Has job { w with jobs := w.jobs ++ [job] } :=
  .queued (by rw [h.jobs]; rfl) h.running h.replies

theorem Worker.Has.flag (h : w.Has j) (flagged : Bool) : Worker.Has j { w with flagged } := by
  cases h with
  | queued hjobs hrunning hreplies => exact .queued hjobs hrunning hreplies
  | running hjobs hrunning hreplies => exact .running hjobs hrunning hreplies
  | answered reply hjobs hrunning hreplies => exact .answered reply hjobs hrunning hreplies

theorem Worker.Has.begin (h : w.Has j) : w.begin.Has j := by
  rw [Worker.begin]
  cases h with
  | queued hjobs hrunning hreplies =>
    rw [hjobs, hrunning]
    exact .running rfl rfl hreplies
  | running hjobs hrunning hreplies =>
    rw [hjobs]
    exact .running hjobs hrunning hreplies
  | answered reply hjobs hrunning hreplies =>
    rw [hjobs]
    exact .answered reply hjobs hrunning hreplies

theorem Worker.Has.answer (h : w.Has j) (reply : WorkerReply) : (w.answer reply).Has j := by
  rw [Worker.answer]
  cases h with
  | queued hjobs hrunning hreplies =>
    rw [hrunning]
    exact .queued hjobs hrunning hreplies
  | running hjobs hrunning hreplies =>
    rw [hrunning]
    exact .answered reply hjobs rfl (by rw [hreplies]; rfl)
  | answered reply' hjobs hrunning hreplies =>
    rw [hrunning]
    exact .answered reply' hjobs hrunning hreplies

theorem Worker.replies_begin (w : Worker) : w.begin.replies = w.replies := by
  rw [Worker.begin]
  split <;> rfl

/-- A reply was there before, or answers the job that the worker works on. -/
theorem Worker.Has.replies_answer (h : w.Has j) {given reply : WorkerReply}
    (hreply : (w.answer given).replies = [(j.request, reply)]) :
    w.replies = [(j.request, reply)] ∨ given = reply ∧ w.running = some j := by
  rw [Worker.answer] at hreply
  cases h with
  | queued _ hrunning hnone =>
    rw [hrunning, hnone] at hreply
    cases hreply
  | running _ hrunning hnone =>
    rw [hrunning, hnone] at hreply
    cases hreply
    exact .inr ⟨rfl, hrunning⟩
  | answered _ _ hrunning _ =>
    rw [hrunning] at hreply
    exact .inl hreply

/-- Whose reply was taken has nothing left to do. -/
theorem Worker.Has.taken {answer : Nat × WorkerReply} {replies : List (Nat × WorkerReply)}
    (h : w.Has j) (hreplies : w.replies = answer :: replies) :
    Worker.Quiet { w with replies } := by
  cases h with
  | queued _ _ hnone => rw [hnone] at hreplies; cases hreplies
  | running _ _ hnone => rw [hnone] at hreplies; cases hreplies
  | answered reply hjobs hrunning hone =>
    rw [hone] at hreplies
    cases hreplies
    exact ⟨hjobs, hrunning, rfl⟩

/-! ## Phases -/

theorem Phase.Fits.of_none {phase : Phase} (h : phase.worker? = none) : phase.Fits j where
  quiet w hw := by rw [h] at hw; cases hw
  has w hw := by cases phase <;> first | (cases h; done) | cases hw

theorem Phase.Fits.of_quiet {phase : Phase} (hphase : phase.worker? = some w)
    (hwork : phase.atWork? = none) (hw : w.Quiet) : phase.Fits j where
  quiet w' hw' _ := by
    rw [hphase] at hw'
    cases hw'
    exact hw
  has w' hw' := by rw [hwork] at hw'; cases hw'

theorem Phase.Fits.of_has {phase : Phase} (hphase : phase.atWork? = some w) (hw : w.Has j) :
    phase.Fits j where
  quiet w' _ hwork := by rw [hphase] at hwork; cases hwork
  has w' hw' := by
    rw [hphase] at hw'
    cases hw'
    exact hw

theorem Phase.worker?_of_isOver {phase : Phase} (h : phase.isOver = true) :
    phase.worker? = none := by
  cases phase <;> first | rfl | cases h

theorem Phase.atWork?_of_isOver {phase : Phase} (h : phase.isOver = true) :
    phase.atWork? = none := by
  cases phase <;> first | rfl | cases h

/-- **A request that goes on fits its worker again.** -/
theorem Onward.fits {phase : Phase} (h : Onward r q phase) (hq : q.phase.Fits (q.job r)) :
    phase.Fits (q.job r) := by
  cases h with
  | ends _ _ hover => exact .of_none (Phase.worker?_of_isOver hover)
  | started => exact .of_quiet rfl rfl (.fresh _)
  | taken h =>
    rw [h] at hq
    exact .of_quiet rfl rfl (hq.quiet _ rfl rfl)
  | sent h =>
    rw [h] at hq
    exact .of_has rfl ((hq.quiet _ rfl rfl).send _)
  | flagged h =>
    rw [h] at hq
    exact .of_has rfl ((hq.has _ rfl).flag true)
  | unused h =>
    rw [h] at hq
    exact .of_quiet rfl rfl (hq.quiet _ rfl rfl)
  | answered hwork hreplies => exact .of_quiet rfl rfl ((hq.has _ hwork).taken hreplies)

/-- A request that goes on with a reply has had the same worker with that
reply before. -/
theorem Onward.replies_before {phase : Phase} (h : Onward r q phase)
    (hq : q.phase.Fits (q.job r)) (hwork : phase.atWork? = some w) (hreply : w.replies ≠ []) :
    ∃ w', q.phase.atWork? = some w' ∧ w'.slot = w.slot ∧ w'.replies = w.replies := by
  cases h with
  | ends _ _ hover => cases (Phase.atWork?_of_isOver hover).symm.trans hwork
  | sent hphase =>
    -- the job is sent to a worker that has no reply yet
    cases hwork
    rw [hphase] at hq
    exact absurd (hq.quiet _ rfl rfl).replies hreply
  | @flagged w' hphase =>
    cases hwork
    exact ⟨w', by rw [hphase]; rfl, rfl, rfl⟩
  | _ => cases hwork

theorem Phase.Fits.mapWorker {phase : Phase} {f : Worker → Worker} (h : phase.Fits j)
    (hquiet : ∀ w, w.Quiet → (f w).Quiet) (hhas : ∀ w, w.Has j → (f w).Has j) :
    (phase.mapWorker f).Fits j := by
  cases phase with
  | handed w => exact .of_quiet rfl rfl (hquiet w (h.quiet w rfl rfl))
  | held w => exact .of_quiet rfl rfl (hquiet w (h.quiet w rfl rfl))
  | leaving w outcome => exact .of_quiet rfl rfl (hquiet w (h.quiet w rfl rfl))
  | parsing w => exact .of_has rfl (hhas w (h.has w rfl))
  | ending w => exact .of_has rfl (hhas w (h.has w rfl))
  | waiting => exact .of_none rfl
  | starting slot => exact .of_none rfl
  | done outcome => exact .of_none rfl
  | dropped => exact .of_none rfl

/-! ## Pools -/

/-- What becomes of the requests if one of them changes. -/
theorem getElem?_modify_cases {requests : List Request} {f : Request → Request} {r' : Nat}
    (h : (requests.modify r f)[r']? = some q) :
    (r' = r ∧ ∃ q', requests[r]? = some q' ∧ q = f q') ∨ requests[r']? = some q := by
  rw [List.getElem?_modify] at h
  obtain ⟨q', hq', rfl⟩ := Option.map_eq_some_iff.mp h
  split
  · next hsame =>
    subst hsame
    exact .inl ⟨rfl, q', hq', rfl⟩
  · exact .inr hq'

theorem getElem?_concat_cases {requests : List Request} {q' : Request} {r' : Nat}
    (h : (requests ++ [q'])[r']? = some q) : q = q' ∨ requests[r']? = some q := by
  rw [List.getElem?_append] at h
  split at h
  · exact .inr h
  · exact .inl (by simpa using List.mem_of_getElem? h)

/-- A request gets another phase, which fits its job. -/
theorem Matched.setPhase {phase : Phase} (h : Matched p)
    (hphase : ∀ q, p.request? r = some q → phase.Fits (q.job r)) : Matched (p.setPhase r phase) where
  idle := h.idle
  fits r' q hq := by
    obtain ⟨rfl, q', hq', rfl⟩ | hq := getElem?_modify_cases hq
    · exact hphase q' hq'
    · exact h.fits r' q hq

theorem Matched.congr (h : Matched p) (p' : Pool) (hidle : p'.idle = p.idle)
    (hrequests : p'.requests = p.requests) : Matched p' where
  idle := hidle ▸ h.idle
  fits r q hq := h.fits r q (by rw [request?, ← hrequests]; exact hq)

/-- A request arrives. -/
theorem Matched.join (h : Matched p) (idle : List Worker) (hidle : ∀ w ∈ idle, w ∈ p.idle)
    (hfits : ∀ j, q.phase.Fits j) :
    Matched { p with idle, requests := p.requests ++ [q] } where
  idle w hw := h.idle w (hidle w hw)
  fits r q' hq' := by
    obtain rfl | hq' := getElem?_concat_cases hq'
    · exact hfits _
    · exact h.fits r q' hq'

theorem Matched.handOn (h : Matched p) (hw : w.Quiet) : Matched (p.handOn w) := by
  obtain ⟨registry, ⟨r, gone, rest, -, -, heq⟩ | ⟨-, heq⟩⟩ := handOn_cases p w
  · rw [heq]
    exact (h.congr { p with waiters := rest, registry } rfl rfl).setPhase
      fun q _ => .of_quiet rfl rfl (hw.flag false)
  · rw [heq]
    refine ⟨fun w' hw' => ?_, h.fits⟩
    rcases List.mem_cons.mp hw' with rfl | hw'
    · exact hw.flag false
    · exact h.idle w' hw'

theorem Matched.atSlot {f : Worker → Worker} (h : Matched p) (slot : Nat)
    (hquiet : ∀ w, w.Quiet → (f w).Quiet) (hhas : ∀ w j, w.Has j → (f w).Has j) :
    Matched (p.atSlot slot f) where
  idle w hw := by
    obtain ⟨w', hw', rfl⟩ := List.mem_map.mp hw
    split
    · exact hquiet w' (h.idle w' hw')
    · exact h.idle w' hw'
  fits r q hq := by
    rw [request?, Pool.atSlot, List.getElem?_map] at hq
    obtain ⟨q', hq', rfl⟩ := Option.map_eq_some_iff.mp hq
    refine (h.fits r q' hq').mapWorker (fun w hw => ?_) (fun w hw => ?_)
    · split
      · exact hquiet w hw
      · exact hw
    · split
      · exact hhas w _ hw
      · exact hw

/-- **No event mixes workers and requests up.** -/
theorem Matched.step (h : Matched p) (e : Event) : Matched (p.step e) := by
  have heffect := step_effect p e
  generalize p.step e = p' at heffect
  cases heffect with
  | same => exact h
  | cancelled r =>
    refine ⟨h.idle, fun r' q hq => ?_⟩
    obtain ⟨rfl, q', hq', rfl⟩ | hq := getElem?_modify_cases hq
    · exact h.fits r' q' hq'
    · exact h.fits r' q hq
  | refused => exact h.join _ (fun w hw => hw) fun _ => .of_none rfl
  | served text entry _ hidle =>
    have hquiet := h.idle _ (by rw [hidle]; exact List.mem_cons_self)
    refine h.join _ (fun w hw => ?_) fun _ => .of_quiet rfl rfl hquiet
    rw [hidle]
    exact List.mem_cons_of_mem _ hw
  | starts =>
    exact (h.join p.idle (fun w hw => hw) fun _ => .of_none rfl).congr _ rfl rfl
  | queues =>
    exact (h.join p.idle (fun w hw => hw) fun _ => .of_none rfl).congr _ rfl rfl
  | goesOn _ registry generations hq honward =>
    refine (h.setPhase fun q' hq' => ?_).congr _ rfl rfl
    rw [hq] at hq'
    cases hq'
    exact honward.fits (h.fits _ _ hq)
  | givesUp => exact (h.setPhase fun _ _ => .of_none rfl).congr _ rfl rfl
  | drops _ registry hq hworker hover =>
    exact (h.setPhase fun _ _ => .of_none (Phase.worker?_of_isOver hover)).congr _ rfl rfl
  | leaves _ hq hphase =>
    refine Matched.handOn (h.setPhase fun _ _ => .of_none rfl) ?_
    have hfits := h.fits _ _ hq
    rw [hphase] at hfits
    exact hfits.quiet _ rfl rfl
  | frees => exact h.congr _ rfl rfl
  | replaces => exact h.congr _ rfl rfl
  | restarted => exact Matched.handOn (h.congr _ rfl rfl) (.fresh _)
  | unrestarted => exact h.congr _ rfl rfl
  | begins slot => exact h.atSlot slot (fun _ hw => hw.begin) fun _ _ hw => hw.begin
  | answers slot reply =>
    exact h.atSlot slot (fun _ hw => hw.answer reply) fun _ _ hw => hw.answer reply

theorem matched_ofThreads (g : Grammar) (n : Nat) : Matched (ofThreads g n) where
  idle _ hw := by cases hw
  fits _ _ hq := by cases hq

theorem Matched.play (h : Matched p) (events : List Event) : Matched (p.play events) := by
  induction events generalizing p with
  | nil => exact h
  | cons e events ih => exact ih (h.step e)

/-! ## Where a reply comes from -/

/-- Nobody who is handed a worker is at work yet. -/
theorem request?_of_handOn {w' : Worker} (h : (p.handOn w).request? r = some q)
    (hwork : q.phase.atWork? = some w') : p.request? r = some q := by
  obtain ⟨registry, ⟨r', gone, rest, -, -, heq⟩ | ⟨-, heq⟩⟩ := handOn_cases p w
  · rw [heq] at h
    obtain ⟨rfl, q', -, rfl⟩ | h := getElem?_modify_cases h
    · cases hwork
    · exact h
  · rw [heq] at h
    exact h

theorem request?_of_setPhase {r' : Nat} {phase : Phase} (hphase : phase.atWork? = none)
    (h : (p.setPhase r phase).request? r' = some q) (hwork : q.phase.atWork? = some w) :
    p.request? r' = some q := by
  obtain ⟨rfl, q', -, rfl⟩ | h := getElem?_modify_cases h
  · rw [hphase] at hwork
    cases hwork
  · exact h

theorem request?_of_concat {q' : Request} {r' : Nat} (hphase : q'.phase.atWork? = none)
    (h : (p.requests ++ [q'])[r']? = some q) (hwork : q.phase.atWork? = some w) :
    p.request? r' = some q := by
  obtain rfl | h := getElem?_concat_cases h
  · rw [hphase] at hwork
    cases hwork
  · exact h

/-- A worker at work before and after an event of its own. -/
theorem request?_of_atSlot {f : Worker → Worker} {slot : Nat}
    (h : (p.atSlot slot f).request? r = some q) (hwork : q.phase.atWork? = some w) :
    ∃ q' w', p.request? r = some q' ∧ q'.phase.atWork? = some w' ∧ q'.job r = q.job r ∧
      w = if w'.slot = slot then f w' else w' := by
  rw [request?, atSlot, List.getElem?_map] at h
  obtain ⟨q', hq', rfl⟩ := Option.map_eq_some_iff.mp h
  dsimp only at hwork
  cases hphase : q'.phase with
  | parsing w' =>
    rw [hphase] at hwork
    cases hwork
    exact ⟨q', w', hq', by rw [hphase]; rfl, rfl, rfl⟩
  | ending w' =>
    rw [hphase] at hwork
    cases hwork
    exact ⟨q', w', hq', by rw [hphase]; rfl, rfl, rfl⟩
  | _ =>
    rw [hphase] at hwork
    cases hwork

/-- **A reply was there before, or is the answer just given**, by a worker
that has worked for the same request all the time. -/
theorem Matched.reply_step (h : Matched p) {e : Event} {reply : WorkerReply}
    (hq : (p.step e).request? r = some q) (hwork : q.phase.atWork? = some w)
    (hreply : w.replies = [(r, reply)]) :
    ∃ q' w', p.request? r = some q' ∧ q'.phase.atWork? = some w' ∧ w'.slot = w.slot ∧
      q'.job r = q.job r ∧
      (w'.replies = [(r, reply)] ∨ e = .answer w.slot reply ∧ w'.running = some (q.job r)) := by
  have heffect := step_effect p e
  generalize p.step e = p' at heffect hq
  -- most events leave the request and its worker as they are
  have hsame (hq : p.request? r = some q) : ∃ q' w', p.request? r = some q' ∧
      q'.phase.atWork? = some w' ∧ w'.slot = w.slot ∧ q'.job r = q.job r ∧
      (w'.replies = [(r, reply)] ∨ e = .answer w.slot reply ∧ w'.running = some (q.job r)) :=
    ⟨q, w, hq, hwork, rfl, rfl, .inl hreply⟩
  cases heffect with
  | same => exact hsame hq
  | cancelled r' =>
    obtain ⟨rfl, q', hq', rfl⟩ | hq := getElem?_modify_cases hq
    · exact ⟨q', w, hq', hwork, rfl, rfl, .inl hreply⟩
    · exact hsame hq
  | refused => exact hsame (request?_of_concat rfl hq hwork)
  | served => exact hsame (request?_of_concat rfl hq hwork)
  | starts => exact hsame (request?_of_concat rfl hq hwork)
  | queues => exact hsame (request?_of_concat rfl hq hwork)
  | goesOn _ registry generations hq' honward =>
    obtain ⟨rfl, q', hq'', rfl⟩ | hq := getElem?_modify_cases hq
    · obtain rfl := Option.some.inj (hq'.symm.trans hq'')
      obtain ⟨w', hwork', hslot, hreplies⟩ :=
        honward.replies_before (h.fits _ _ hq') hwork (by simp [hreply])
      exact ⟨_, w', hq', hwork', hslot, rfl, .inl (hreplies.trans hreply)⟩
    · exact hsame hq
  | givesUp => exact hsame (request?_of_setPhase rfl hq hwork)
  | drops _ _ _ _ hover =>
    exact hsame (request?_of_setPhase (Phase.atWork?_of_isOver hover) hq hwork)
  | leaves => exact hsame (request?_of_setPhase rfl (request?_of_handOn hq hwork) hwork)
  | frees => exact hsame hq
  | replaces => exact hsame hq
  | @restarted slot _ registry generations =>
    exact hsame (request?_of_handOn
      (p := { p with restarting := p.restarting.erase slot, registry, generations }) hq hwork)
  | unrestarted => exact hsame hq
  | begins slot =>
    obtain ⟨q', w', hq', hwork', hjob, rfl⟩ := request?_of_atSlot hq hwork
    have hslot : w'.slot = (if w'.slot = slot then w'.begin else w').slot := by
      rw [apply_ite Worker.slot, Worker.slot_begin, ite_self]
    have hreplies : (if w'.slot = slot then w'.begin else w').replies = w'.replies := by
      rw [apply_ite Worker.replies, Worker.replies_begin, ite_self]
    exact ⟨q', w', hq', hwork', hslot, hjob, .inl (hreplies.symm.trans hreply)⟩
  | answers slot given =>
    obtain ⟨q', w', hq', hwork', hjob, rfl⟩ := request?_of_atSlot hq hwork
    by_cases hslot : w'.slot = slot
    · rw [if_pos hslot] at hreply ⊢
      refine ⟨q', w', hq', hwork', (w'.slot_answer given).symm, hjob, ?_⟩
      refine (((h.fits r q' hq').has w' hwork').replies_answer hreply).imp_right ?_
      rintro ⟨rfl, hrunning⟩
      exact ⟨by rw [Worker.slot_answer, hslot], hjob ▸ hrunning⟩
    · rw [if_neg hslot] at hreply ⊢
      exact ⟨q', w', hq', hwork', rfl, hjob, .inl hreply⟩

theorem play_concat (p : Pool) (events : List Event) (e : Event) :
    p.play (events ++ [e]) = (p.play events).step e := by
  simp only [play, List.foldl_append, List.foldl_cons, List.foldl_nil]

/-- **The history of a reply**: it was given by the worker of the request
while it worked on the request's own job. -/
theorem Matched.reply_given (h : Matched p) (hfresh : p.requests = []) {events : List Event}
    {reply : WorkerReply} (hq : (p.play events).request? r = some q)
    (hwork : q.phase.atWork? = some w) (hreply : w.replies = [(r, reply)]) :
    ∃ before after, events = before ++ .answer w.slot reply :: after ∧
      ∃ q' w', (p.play before).request? r = some q' ∧ q'.phase.atWork? = some w' ∧
        w'.slot = w.slot ∧ w'.running = some (q.job r) := by
  induction events using List.reverseRecOn generalizing q w with
  | nil =>
    rw [Pool.play, List.foldl_nil, request?, hfresh] at hq
    cases hq
  | append_singleton events e ih =>
    rw [play_concat] at hq
    obtain ⟨q', w', hq', hwork', hslot, hjob, hbefore | ⟨rfl, hrunning⟩⟩ :=
      (h.play events).reply_step hq hwork hreply
    · obtain ⟨before, after, rfl, hgiven⟩ := ih hq' hwork' hbefore
      rw [hslot, hjob] at hgiven
      exact ⟨before, after ++ [e], by simp [hslot], hgiven⟩
    · exact ⟨events, [], rfl, q', w', hq', hwork', hslot, hrunning⟩

/-- **No reply goes to the wrong request.** Whatever happens in a pool, a
worker that is idle is quiet, and so is one that a request has but that does
not have its job; and the reply that a request takes next was given by the
worker it has, which worked on the request's own job then. -/
theorem replies_own (g : Grammar) (n : Nat) (events : List Event) :
    (∀ w ∈ ((ofThreads g n).play events).idle, w.Quiet) ∧
    (∀ r q w, ((ofThreads g n).play events).request? r = some q → q.phase.worker? = some w →
      q.phase.atWork? = none → w.Quiet) ∧
    ∀ r reply, ((ofThreads g n).play events).reply? r = some reply →
      ∃ q w before after, ((ofThreads g n).play events).request? r = some q ∧
        q.phase.atWork? = some w ∧ w.jobs = [] ∧ w.running = none ∧ w.replies = [(r, reply)] ∧
        events = before ++ .answer w.slot reply :: after ∧
        ∃ q' w', ((ofThreads g n).play before).request? r = some q' ∧
          q'.phase.atWork? = some w' ∧ w'.slot = w.slot ∧
          w'.running = some ⟨r, q.text, q.entry⟩ := by
  have hstart := matched_ofThreads g n
  have hmatched := hstart.play events
  refine ⟨hmatched.idle, fun r q w hq => (hmatched.fits r q hq).quiet w, fun r reply hreply => ?_⟩
  obtain ⟨q, hq, hreply⟩ := Option.bind_eq_some_iff.mp hreply
  obtain ⟨w, hwork, hreply⟩ := Option.bind_eq_some_iff.mp hreply
  cases (hmatched.fits r q hq).has w hwork with
  | queued _ _ hnone => rw [hnone] at hreply; cases hreply
  | running _ _ hnone => rw [hnone] at hreply; cases hreply
  | answered reply' hjobs hrunning hone =>
    obtain rfl : reply' = reply := by
      rw [hone] at hreply
      exact Option.some.inj hreply
    obtain ⟨before, after, hevents, hgiven⟩ := hstart.reply_given rfl hq hwork hone
    exact ⟨q, w, before, after, hq, hwork, hjobs, hrunning, hone, hevents, hgiven⟩

/-- A request is cancelled while its worker answers; the worker then goes to
another, which it answers too. -/
def answeredTwice : List Event :=
  [.arrive "a" none false, .arrive "b" none false, .started 0, .send 0, .begin 0, .cancel 0,
    .notice 0, .answer 0 .cancelled, .receive 0, .leave 0, .take 1, .send 1, .begin 0,
    .answer 0 (.invalidEntry "b")]

theorem replies_own_answeredTwice :
    ((ofThreads default 1).play answeredTwice).reply? 1 = some (.invalidEntry "b") ∧
    ∃ before after, answeredTwice = before ++ .answer 0 (.invalidEntry "b") :: after ∧
      ∃ q w, ((ofThreads default 1).play before).request? 1 = some q ∧
        q.phase.atWork? = some w ∧ w.running = some ⟨1, "b", none⟩ := by
  have hreply : ((ofThreads default 1).play answeredTwice).reply? 1 = some (.invalidEntry "b") := by
    rfl
  obtain ⟨q, w, before, after, hq, hwork, -, -, -, hevents, q', w', hq', hwork', -, hrunning⟩ :=
    (replies_own default 1 answeredTwice).2.2 1 _ hreply
  cases hq
  cases hwork
  exact ⟨hreply, before, after, hevents, q', w', hq', hwork', hrunning⟩

end Pool

end Workbench
