import Workbench.Worker.Lock.Run
/-!
# What becomes of a submitted action

An action waits, is called, does one act after the other and ends; then its
caller learns how it ended. This file says which way a ticket can move and which
outcomes its action can have, and that a ticket which moves that way goes on
to tell the truth about its action.
-/

namespace Workbench

namespace Lock

/-- The part of its life that an action is in. -/
inductive Stage where
  /-- It was not called. -/
  | waiting
  /-- It was called, and its caller does not know yet how it ended. -/
  | underWay
  /-- Nothing more happens to it. -/
  | done
deriving DecidableEq, Repr

def Progress.stage : Progress → Stage
  | waiting => .waiting
  | running _ => .underWay
  | ended _ => .underWay
  | resolved _ => .done
  | dropped => .done

theorem Progress.isOver_iff {p : Progress} : p.isOver = true ↔ p.stage = .done := by
  cases p <;> simp [isOver, stage]

/-! ## How an action ends -/

/-- Whether an action can go on after an act. -/
def Act.isPassable : Act → Bool
  | fail _ => false
  | panic _ => false
  | finish _ => false
  | _ => true

/-- How an act ends its action, if it does. -/
def Act.outcome? (ticket : Ticket) : Act → Option Outcome
  | fail cause => some (.failed cause)
  | panic message => some (.panicked message)
  | finish value => some (.ok value)
  | check => if ticket.kind = .write ∧ ticket.cancelled then some (.failed .cancelled) else none
  | _ => none

/-- How an action ends that has these acts left, if it ends now. -/
def Ticket.outcome? (ticket : Ticket) : List Act → Option Outcome
  | [] => some (.ok 0)
  | act :: _ => act.outcome? ticket

/-- The acts left of an action when those before them could be passed. -/
def Ticket.Leaves (ticket : Ticket) (rest : List Act) : Prop :=
  ∃ passed, ticket.body = passed ++ rest ∧ ∀ act ∈ passed, act.isPassable = true

/-- **An outcome that the action of a ticket can have**: its acts lead to it. -/
def Ticket.CanEnd (ticket : Ticket) (outcome : Outcome) : Prop :=
  ∃ rest, ticket.Leaves rest ∧ ticket.outcome? rest = some outcome

/-- What a ticket says about its action is true of the action. -/
def Ticket.Sound (ticket : Ticket) : Prop :=
  match ticket.progress with
  | .waiting => True
  | .running rest => ticket.Leaves rest
  | .ended outcome => ticket.CanEnd outcome
  | .resolved outcome => ticket.CanEnd outcome
  | .dropped => ticket.refusal ≠ none

/-- What comes next for the action of a ticket. -/
inductive Ticket.Next (ticket : Ticket) : Progress → Prop where
  | called (hwaits : ticket.progress = .waiting) (hcall : ticket.refusal = none) :
      ticket.Next (.running ticket.body)
  | refused (hwaits : ticket.progress = .waiting) (hcall : ticket.refusal ≠ none) :
      ticket.Next .dropped
  | passed {act : Act} {rest : List Act} (hruns : ticket.progress = .running (act :: rest))
      (hact : act.isPassable = true) : ticket.Next (.running rest)
  | ended {rest : List Act} {outcome : Outcome} (hruns : ticket.progress = .running rest)
      (hends : ticket.outcome? rest = some outcome) : ticket.Next (.ended outcome)
  | resolved {outcome : Outcome} (hended : ticket.progress = .ended outcome) :
      ticket.Next (.resolved outcome)

/-- **One ticket before and after a step**: what was submitted stays, a token
stays cancelled, and the action goes one step further or none. -/
structure Ticket.Onward (a b : Ticket) : Prop where
  kind : b.kind = a.kind
  label : b.label = a.label
  refusal : b.refusal = a.refusal
  body : b.body = a.body
  cancelled : a.cancelled = true → b.cancelled = true
  progress : b.progress = a.progress ∨ a.Next b.progress

namespace Ticket

variable {a b : Ticket} {rest : List Act} {outcome : Outcome}

theorem Onward.refl (a : Ticket) : a.Onward a := ⟨rfl, rfl, rfl, rfl, id, .inl rfl⟩

/-- Cancelling a token moves its ticket onward, not its action. -/
theorem onward_cancelled (a : Ticket) (p : Prop) [Decidable p] :
    a.Onward (if p then { a with cancelled := true } else a) ∧
      (if p then { a with cancelled := true } else a).progress = a.progress := by
  split
  · exact ⟨⟨rfl, rfl, rfl, rfl, fun _ => rfl, .inl rfl⟩, rfl⟩
  · exact ⟨.refl a, rfl⟩

/-- Cancelling a token takes no end from its action that it could have had. -/
theorem Onward.outcome? (h : a.Onward b) (ha : a.outcome? rest = some outcome) :
    b.outcome? rest = some outcome := by
  cases rest with
  | nil => exact ha
  | cons act rest =>
    cases act with
    | check =>
      simp only [Ticket.outcome?, Act.outcome?, Option.ite_none_right_eq_some] at ha ⊢
      exact ⟨⟨h.kind.trans ha.1.1, h.cancelled ha.1.2⟩, ha.2⟩
    | _ => exact ha

theorem Onward.leaves (h : a.Onward b) (ha : a.Leaves rest) : b.Leaves rest := by
  rw [Leaves, h.body]
  exact ha

theorem Onward.canEnd (h : a.Onward b) (ha : a.CanEnd outcome) : b.CanEnd outcome := by
  obtain ⟨rest, hrest, hends⟩ := ha
  exact ⟨rest, h.leaves hrest, h.outcome? hends⟩

theorem Leaves.tail {act : Act} (h : a.Leaves (act :: rest)) (hact : act.isPassable = true) :
    a.Leaves rest := by
  obtain ⟨passed, hbody, hpassed⟩ := h
  refine ⟨passed ++ [act], by rw [hbody, List.append_assoc, List.singleton_append], ?_⟩
  intro act' hmem
  rcases List.mem_append.mp hmem with hmem | hmem
  · exact hpassed act' hmem
  · rw [List.mem_singleton.mp hmem]
    exact hact

/-- **A ticket that moves onward goes on to tell the truth.** -/
theorem Onward.sound (h : a.Onward b) (ha : a.Sound) : b.Sound := by
  rcases h.progress with heq | hnext
  · unfold Sound at ha ⊢
    rw [heq]
    cases hp : a.progress with
    | waiting => trivial
    | running rest =>
      rw [hp] at ha
      exact h.leaves ha
    | ended outcome =>
      rw [hp] at ha
      exact h.canEnd ha
    | resolved outcome =>
      rw [hp] at ha
      exact h.canEnd ha
    | dropped =>
      rw [hp] at ha
      rw [h.refusal]
      exact ha
  · unfold Sound at ha ⊢
    generalize b.progress = p at hnext
    cases hnext with
    | called hwaits hcall => exact ⟨[], h.body, by simp⟩
    | refused hwaits hcall =>
      rw [h.refusal]
      exact hcall
    | passed hruns hact =>
      rw [hruns] at ha
      exact h.leaves (ha.tail hact)
    | ended hruns hends =>
      rw [hruns] at ha
      exact h.canEnd ⟨_, ha, hends⟩
    | resolved hended =>
      rw [hended] at ha
      exact h.canEnd ha

end Ticket

end Lock

end Workbench
