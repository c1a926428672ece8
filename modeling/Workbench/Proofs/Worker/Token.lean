import Workbench.Proofs.Worker.Effect
/-!
# Which tokens are cancelled

A write has a token of its own, and the next write cancels it. What the
tokens are like is known from the calls alone, in the order they came: no
step that is not a call changes a token (`step_marks`).
-/

namespace Workbench

namespace Lock

/-- What was submitted with a ticket. -/
def Ticket.submission (a : Ticket) : Kind × String × Option String × List Act :=
  (a.kind, a.label, a.refusal, a.body)

/-- A ticket apart from how far its action has come. -/
def Ticket.mark (a : Ticket) : Ticket := { a with awaited := true, progress := .waiting }

/-- The number of actions that calls submit. -/
def submissions (calls : List Call) : Nat := (calls.filterMap Call.submission?).length

/-- The calls after the one that submitted an action. -/
def callsAfter : List Call → Nat → List Call
  | [], _ => []
  | call :: rest, t =>
    match call.submission?, t with
    | none, t => callsAfter rest t
    | some _, 0 => rest
    | some _, t + 1 => callsAfter rest t

/-- An act that ends its action makes no call. -/
theorem Act.call?_eq_none {a : Ticket} {act : Act} {outcome : Outcome}
    (h : act.outcome? a = some outcome) : act.call? = none := by
  cases act <;> first | rfl | cases h

/-- Whether a call takes from the newest write the right to go on. -/
def Call.Cancels (call : Call) (t : Nat) : Prop := call = .cancelWrite ∨ call = .cancelToken t

theorem callsAfter_append_of_lt (calls : List Call) (call : Call) {t : Nat}
    (h : t < submissions calls) : callsAfter (calls ++ [call]) t = callsAfter calls t ++ [call] := by
  induction calls generalizing t with
  | nil => exact absurd h (Nat.not_lt_zero t)
  | cons first rest ih =>
    rw [submissions, List.filterMap_cons] at h
    cases hfirst : first.submission? with
    | none =>
      rw [hfirst] at h
      simp only [List.cons_append, callsAfter, hfirst]
      exact ih h
    | some submission =>
      rw [hfirst, List.length_cons] at h
      cases t with
      | zero => simp only [List.cons_append, callsAfter, hfirst]
      | succ t =>
        simp only [List.cons_append, callsAfter, hfirst]
        exact ih (Nat.succ_lt_succ_iff.mp h)

theorem callsAfter_append_self (calls : List Call) {call : Call} (h : call.submission?.isSome) :
    callsAfter (calls ++ [call]) (submissions calls) = [] := by
  obtain ⟨submission, hcall⟩ := Option.isSome_iff_exists.mp h
  induction calls with
  | nil => simp [callsAfter, submissions, hcall]
  | cons first rest ih =>
    cases hfirst : first.submission? with
    | none =>
      rw [submissions, List.filterMap_cons_none hfirst]
      simp only [List.cons_append, callsAfter, hfirst]
      exact ih
    | some submission =>
      rw [submissions, List.filterMap_cons_some hfirst, List.length_cons]
      simp only [List.cons_append, callsAfter, hfirst]
      exact ih

end Lock

open Lock

/-- **What the calls so far make of the tokens.** -/
structure Tokens (calls : List Call) (newest : Option Nat) (marks : List Ticket) : Prop where
  submitted : marks.map Ticket.submission = calls.filterMap Call.submission?
  newest_write : ∀ t, newest = some t → ∃ a, marks[t]? = some a ∧ a.kind = .write
  /-- The newest write came last. -/
  newest_last : ∀ w a, marks[w]? = some a → a.kind = .write → ∃ t, newest = some t ∧ w ≤ t
  older : ∀ w a, marks[w]? = some a → a.kind = .write → newest ≠ some w → a.cancelled = true
  newest_cancelled : ∀ t a, newest = some t → marks[t]? = some a →
    (a.cancelled = true ↔ ∃ call ∈ callsAfter calls t, call.Cancels t)

namespace Tokens

variable {calls : List Call} {newest : Option Nat} {marks marks' : List Ticket}

theorem empty : Tokens [] none [] where
  submitted := rfl
  newest_write _ := nofun
  newest_last _ _ := by simp
  older _ _ := by simp
  newest_cancelled _ _ := nofun

theorem length_eq (h : Tokens calls newest marks) : marks.length = submissions calls := by
  rw [submissions, ← h.submitted, List.length_map]

/-- **A call that submits nothing** cancels the tokens it is meant to cancel. -/
theorem append (h : Tokens calls newest marks) {call : Call} (hcall : call.submission? = none)
    (cancelled : Nat → Bool)
    (hmarks : ∀ t, marks'[t]? =
      marks[t]?.map fun a : Ticket => { a with cancelled := a.cancelled || cancelled t })
    (hnewest : ∀ t, newest = some t → (cancelled t = true ↔ call.Cancels t)) :
    Tokens (calls ++ [call]) newest marks' := by
  -- a ticket is what it was, apart from its token
  have hof : ∀ {t a'}, marks'[t]? = some a' → ∃ a : Ticket, marks[t]? = some a ∧
      a' = { a with cancelled := a.cancelled || cancelled t } := by
    intro t a' ha
    rw [hmarks] at ha
    obtain ⟨a, ha, heq⟩ := Option.map_eq_some_iff.mp ha
    exact ⟨a, ha, heq.symm⟩
  constructor
  case submitted =>
    rw [List.filterMap_append, List.filterMap_cons_none hcall, List.filterMap_nil, List.append_nil,
      ← h.submitted]
    refine List.ext_getElem? fun t => ?_
    rw [List.getElem?_map, List.getElem?_map, hmarks, Option.map_map]
    rfl
  case newest_write =>
    intro t ht
    obtain ⟨a, ha, hwrite⟩ := h.newest_write t ht
    refine ⟨_, by rw [hmarks, ha, Option.map_some], ?_⟩
    exact hwrite
  case newest_last =>
    intro w a' ha' hwrite
    obtain ⟨a, ha, rfl⟩ := hof ha'
    exact h.newest_last w a ha hwrite
  case older =>
    intro w a' ha' hwrite hne
    obtain ⟨a, ha, rfl⟩ := hof ha'
    exact Bool.or_eq_true_iff.mpr (.inl (h.older w a ha hwrite hne))
  case newest_cancelled =>
    intro t a' ht ha'
    obtain ⟨a, ha, rfl⟩ := hof ha'
    have hlt : t < submissions calls := h.length_eq ▸ (List.getElem?_eq_some_iff.mp ha).1
    rw [callsAfter_append_of_lt calls call hlt, Bool.or_eq_true_iff, h.newest_cancelled t a ht ha,
      hnewest t ht]
    simp only [List.mem_append, List.mem_singleton, or_and_right, exists_or, exists_eq_left]

/-- A new ticket is a new submission, and the others stay as they are. -/
theorem map_submission_concat {ticket : Ticket} {f : Nat → Ticket → Ticket}
    (hmarks : ∀ t, marks'[t]? = if t = marks.length then some ticket else marks[t]?.map (f t))
    (hf : ∀ t a, (f t a).submission = a.submission) :
    marks'.map Ticket.submission = marks.map Ticket.submission ++ [ticket.submission] := by
  refine List.ext_getElem? fun t => ?_
  rw [List.getElem?_map, hmarks]
  rcases Nat.lt_trichotomy t marks.length with hlt | rfl | hgt
  · rw [if_neg (Nat.ne_of_lt hlt), List.getElem?_append_left (by rwa [List.length_map]),
      List.getElem?_map, Option.map_map]
    congr 1
    funext a
    exact hf t a
  · rw [if_pos rfl, ← List.length_map (f := Ticket.submission), List.getElem?_concat_length]
    rfl
  · rw [if_neg (Nat.ne_of_gt hgt), List.getElem?_eq_none (Nat.le_of_lt hgt),
      List.getElem?_eq_none (by simp; omega)]
    rfl

/-- **A call that submits an action** adds its ticket. A write becomes the
newest, and the token of the one before it is cancelled. -/
theorem submit (h : Tokens calls newest marks) {kind : Kind} {label : String}
    {refusal : Option String} {body : List Act} {newest' : Option Nat}
    (hnewest : newest' = if kind = .write then some marks.length else newest)
    (hmarks : ∀ t, marks'[t]? = if t = marks.length then
        some ⟨kind, label, refusal, body, false, true, .waiting⟩
      else marks[t]?.map fun a : Ticket =>
        { a with cancelled := a.cancelled || decide (kind = .write ∧ newest = some t) }) :
    Tokens (calls ++ [.submit kind label refusal body]) newest' marks' := by
  have hold : ∀ {t a'}, marks'[t]? = some a' → t ≠ marks.length → ∃ a : Ticket, marks[t]? = some a ∧
      a' = { a with cancelled := a.cancelled || decide (kind = .write ∧ newest = some t) } := by
    intro t a' ha hne
    rw [hmarks, if_neg hne] at ha
    obtain ⟨a, ha, heq⟩ := Option.map_eq_some_iff.mp ha
    exact ⟨a, ha, heq.symm⟩
  have hnew : ∀ {a'}, marks'[marks.length]? = some a' →
      a' = ⟨kind, label, refusal, body, false, true, .waiting⟩ := by
    intro a' ha
    rw [hmarks, if_pos rfl] at ha
    exact (Option.some.inj ha).symm
  have hlt : ∀ {t a}, marks[t]? = some a → t < marks.length := fun ha =>
    (List.getElem?_eq_some_iff.mp ha).1
  constructor
  case submitted =>
    rw [List.filterMap_append, ← h.submitted, map_submission_concat hmarks fun _ _ => rfl]
    rfl
  case newest_write =>
    intro t ht
    rw [hnewest] at ht
    split at ht
    · rename_i hwrite
      cases ht
      exact ⟨_, by rw [hmarks, if_pos rfl], hwrite⟩
    · obtain ⟨a, ha, hwrite⟩ := h.newest_write t ht
      refine ⟨_, by rw [hmarks, if_neg (Nat.ne_of_lt (hlt ha)), ha, Option.map_some], ?_⟩
      exact hwrite
  case newest_last =>
    intro w a' ha' hwrite
    by_cases hw : w = marks.length
    · subst hw
      cases hnew ha'
      exact ⟨_, hnewest.trans (if_pos hwrite), Nat.le_refl _⟩
    · obtain ⟨a, ha, rfl⟩ := hold ha' hw
      obtain ⟨t, ht, hle⟩ := h.newest_last w a ha hwrite
      rw [hnewest]
      split
      · exact ⟨_, rfl, Nat.le_of_lt (hlt ha)⟩
      · exact ⟨t, ht, hle⟩
  case older =>
    intro w a' ha' hwrite hne
    by_cases hw : w = marks.length
    · subst hw
      cases hnew ha'
      exact absurd (hnewest.trans (if_pos hwrite)) hne
    · obtain ⟨a, ha, rfl⟩ := hold ha' hw
      by_cases hlast : newest = some w
      · rw [hlast] at hnewest
        split at hnewest
        · simp [*]
        · exact absurd hnewest hne
      · exact Bool.or_eq_true_iff.mpr (.inl (h.older w a ha hwrite hlast))
  case newest_cancelled =>
    intro t a' ht ha'
    rw [hnewest] at ht
    split at ht
    · cases ht
      cases hnew ha'
      -- no call has come after the new write
      rw [h.length_eq, callsAfter_append_self calls rfl]
      simp
    · rename_i hkind
      have htlt : t < marks.length := by
        obtain ⟨b, hb, -⟩ := h.newest_write t ht
        exact hlt hb
      obtain ⟨a, ha, rfl⟩ := hold ha' (Nat.ne_of_lt htlt)
      rw [h.length_eq] at htlt
      rw [callsAfter_append_of_lt calls _ htlt]
      have hold := h.newest_cancelled t a ht ha
      simpa [hkind, Call.Cancels] using hold

end Tokens

namespace WorkspaceLock

variable {l l' : WorkspaceLock} {t : Nat} {task : Task} {calls : List Call}

/-- The tickets apart from how far their actions have come. -/
def marks (l : WorkspaceLock) : List Ticket := l.tickets.map Ticket.mark

theorem getElem?_marks (l : WorkspaceLock) (t : Nat) :
    l.marks[t]? = (l.ticket? t).map Ticket.mark := by
  rw [marks, List.getElem?_map]
  rfl

theorem length_marks (l : WorkspaceLock) : l.marks.length = l.tickets.length := List.length_map _

theorem marks_congr (h : l'.tickets = l.tickets) : l'.marks = l.marks := by rw [marks, marks, h]

@[simp] theorem marks_setProgress (l : WorkspaceLock) (t : Nat) (p : Progress) :
    (l.setProgress t p).marks = l.marks := by
  refine List.ext_getElem? fun i => ?_
  rw [getElem?_marks, getElem?_marks, ticket?_setProgress, Option.map_map]
  congr 1
  funext a
  dsimp only [Function.comp_apply]
  split <;> rfl

@[simp] theorem newest_cancelWrite (l : WorkspaceLock) : l.cancelWrite.newest = l.newest := by
  rw [cancelWrite]
  split <;> rfl

@[simp] theorem newest_ensureDriver (l : WorkspaceLock) : l.ensureDriver.newest = l.newest := by
  rw [ensureDriver]
  split <;> rfl

@[simp] theorem newest_wakeDriver (l : WorkspaceLock) : l.wakeDriver.newest = l.newest := by
  rw [wakeDriver]
  split <;> rfl

@[simp] theorem newest_readIsOver (l : WorkspaceLock) (kind : Kind) :
    (l.readIsOver kind).newest = l.newest := by
  rw [readIsOver]
  split
  · exact newest_wakeDriver l
  · rfl

@[simp] theorem newest_endAction (l : WorkspaceLock) (kind : Kind) (outcome : Outcome) :
    (l.endAction t kind outcome).newest = l.newest := by
  dsimp only [endAction]
  split
  · exact newest_wakeDriver _
  · rfl

/-- The tickets after a submission: the new one, and those before it, the
newest write of which a new write cancels. -/
theorem ticket?_submit (l : WorkspaceLock) (kind : Kind) (label : String)
    (refusal : Option String) (body : List Act) (hnewest : l.newest ≠ some l.tickets.length) (t : Nat) :
    (l.submit kind label refusal body).ticket? t = if t = l.tickets.length then
        some ⟨kind, label, refusal, body, false, true, .waiting⟩
      else (l.ticket? t).map fun a =>
        { a with cancelled := a.cancelled || decide (kind = .write ∧ l.newest = some t) } := by
  have happend := ticket?_append l ⟨kind, label, refusal, body, false, true, .waiting⟩ t
  cases kind with
  | write =>
    dsimp only [submit]
    rw [ticket?, tickets_ensureDriver]
    refine (ticket?_cancelWrite _ t).trans ?_
    rw [happend]
    by_cases ht : t = l.tickets.length
    · rw [if_pos ht, if_pos ht, Option.map_some, if_neg (ht ▸ hnewest)]
    · rw [if_neg ht, if_neg ht]
      congr 1
      funext a
      by_cases ha : l.newest = some t <;> simp [ha]
  | read =>
    dsimp only [submit]
    rw [ticket?, tickets_ensureDriver]
    refine happend.trans ?_
    simp
  | immediate =>
    refine happend.trans ?_
    simp

theorem newest_submit (l : WorkspaceLock) (kind : Kind) (label : String)
    (refusal : Option String) (body : List Act) : (l.submit kind label refusal body).newest =
      if kind = .write then some l.tickets.length else l.newest := by
  cases kind with
  | write => exact newest_ensureDriver _
  | read => exact newest_ensureDriver _
  | immediate => rfl

/-- **A call changes the tokens as it is meant to**, and nothing else of the
tickets but for how far their actions have come. -/
theorem serve_tokens (h : Tokens calls l.newest l.marks) (call : Call) :
    Tokens (calls ++ [call]) (l.serve call).newest (l.serve call).marks := by
  cases call with
  | submit kind label refusal body =>
    have hnewest : l.newest ≠ some l.tickets.length := by
      intro heq
      obtain ⟨a, ha, -⟩ := h.newest_write _ heq
      rw [← length_marks, List.getElem?_eq_none (Nat.le_refl _)] at ha
      cases ha
    refine h.submit ?_ fun t => ?_
    · rw [length_marks]
      exact newest_submit l kind label refusal body
    · rw [getElem?_marks, getElem?_marks, length_marks, serve, ticket?_submit l _ _ _ _ hnewest]
      split
      · rfl
      · rw [Option.map_map, Option.map_map]
        rfl
  | cancelWrite =>
    rw [serve, newest_cancelWrite]
    refine h.append rfl (fun t => l.newest = some t) (fun t => ?_) fun t ht => ?_
    · rw [getElem?_marks, getElem?_marks, ticket?_cancelWrite, Option.map_map, Option.map_map]
      congr 1
      funext a
      dsimp only [Function.comp_apply]
      split <;> simp [Ticket.mark, *]
    · simp [ht, Call.Cancels]
  | cancelToken t' =>
    refine h.append rfl (fun t => t' = t) (fun t => ?_) fun t ht => ?_
    · rw [getElem?_marks, getElem?_marks, serve, ticket?_cancel, Option.map_map, Option.map_map]
      congr 1
      funext a
      dsimp only [Function.comp_apply]
      split <;> simp [Ticket.mark, *]
    · simp [Call.Cancels]
  | forget label =>
    refine h.append rfl (fun _ => false) (fun t => ?_) fun t ht => by simp [Call.Cancels]
    rw [getElem?_marks, getElem?_marks, serve, ticket?_forget, Option.map_map, Option.map_map]
    congr 1
    funext a
    dsimp only [Function.comp_apply]
    split <;> simp [Ticket.mark]
  | openGate gate =>
    refine h.append rfl (fun _ => false) (fun t => ?_) fun t ht => by simp [Call.Cancels]
    have hsame : (l.serve (.openGate gate)).marks = l.marks := marks_congr rfl
    simp [hsame]

theorem callOf?_eq {a : Ticket} {act : Act} {rest : List Act} (hticket : l.ticket? t = some a)
    (hruns : a.progress = .running (act :: rest)) : l.callOf? (.action t) = act.call? := by
  simp only [callOf?, hticket, Option.map_some, hruns]

/-- **Running a task changes the tokens as the call it makes does**, and not
at all if it makes none. -/
theorem effect_tokens (h : Tokens calls l.newest l.marks) (heffect : l.Effect task l') :
    Tokens (calls ++ (l.callOf? task).toList) l'.newest l'.marks := by
  have hsame : ∀ {l' : WorkspaceLock}, l.callOf? task = none → l'.newest = l.newest →
      l'.marks = l.marks → Tokens (calls ++ (l.callOf? task).toList) l'.newest l'.marks := by
    intro l' hcall hnewest hmarks
    rw [hcall, Option.toList_none, List.append_nil, hnewest, hmarks]
    exact h
  have hset := marks_setProgress l
  cases heffect with
  | nothing hidle =>
    refine hsame ?_ rfl rfl
    cases task with
    | driver => rfl
    | job t => rfl
    | action t =>
      simp only [callOf?]
      split
      · rename_i act rest hruns
        obtain ⟨a, ha, hruns⟩ := Option.map_eq_some_iff.mp hruns
        exact absurd hruns (hidle a (act :: rest) ha)
      · rfl
  | @startWrite t rest a => exact hsame rfl rfl (hset t (.running a.body))
  | @refuseWrite t => exact hsame rfl rfl (hset t .dropped)
  | startReads => exact hsame rfl rfl rfl
  | stop => exact hsame rfl rfl rfl
  | @endWrite t a outcome => exact hsame rfl rfl (hset t (.resolved outcome))
  | endReads => exact hsame rfl rfl rfl
  | awaitReads => exact hsame rfl rfl rfl
  | @callJob t a => exact hsame rfl rfl (hset t (.running a.body))
  | @refuseJob t a =>
    exact hsame rfl (newest_readIsOver _ _)
      ((marks_congr (tickets_readIsOver _)).trans (hset t .dropped))
  | @endJob t a outcome =>
    exact hsame rfl (newest_readIsOver _ _)
      ((marks_congr (tickets_readIsOver _)).trans (hset t (.resolved outcome)))
  | @finish t a rest outcome hticket hruns hends =>
    refine hsame ?_ (newest_endAction _ _ _)
      ((marks_congr (tickets_endAction _ _)).trans (hset t (.ended outcome)))
    cases rest with
    | nil => simp only [callOf?, hticket, Option.map_some, hruns]
    | cons act rest => exact (callOf?_eq hticket hruns).trans (Act.call?_eq_none hends)
  | @pass t a act rest log hticket hruns hact hcall =>
    exact hsame ((callOf?_eq hticket hruns).trans hcall) rfl (hset t (.running rest))
  | @call t a act rest call hticket hruns hact hcall =>
    rw [callOf?_eq hticket hruns, hcall, Option.toList_some]
    have hserve := serve_tokens h call
    rw [← marks_setProgress (l.serve call) t (.running rest)] at hserve
    exact hserve
  | @block t a act rest wait hticket hruns hcall =>
    exact hsame ((callOf?_eq hticket hruns).trans hcall) rfl rfl

end WorkspaceLock

end Workbench
