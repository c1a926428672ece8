import Workbench.Proofs.Parse.Choice
/-!
# Going back is exact

A mark holds little: three sizes, the number of children of one composite
and the properties of one node. It is enough, since all that runs after it
is taken only grows the tree (`Grown`), at any depth of calls and attempts.
Whatever the outcome, going back leaves no trace but what was noted on the
way.
-/

namespace Workbench

namespace Parse

variable {src : Source} {s s' : State}

/-- The state with what another has noted: the furthest failure, how many
elements were interpreted, and the interrupt that is left. -/
def State.noting (s s' : State) : State :=
  { s with furthest := s'.furthest, steps := s'.steps, interrupt := s'.interrupt }

/-- Calls that give nothing have gone back already. -/
theorem callRule_none {depth : ℕ} {id : ElementId} {index : ℕ}
    (h : callRule src depth id index s = .ok (none, s')) : s' = s.noting s' := by
  rcases callRule_ok h with ⟨-, rfl⟩ | ⟨_, _, _, _, -, -, -, -, ⟨_, -, -, hnode, -⟩ | ⟨-, rfl⟩⟩
  · rfl
  · cases hnode
  · rfl

/-- **Going back is exact.** Whether an element matches or not, and whether
it gives a value or not, going back to the mark from before gives the state
from before, but for what was noted; a call that gives nothing leaves it
so by itself. -/
theorem restore_exact (src : Source) (depth : ℕ) (s : State) :
    (∀ e b s', element src (callRule src depth) e s = .ok (b, s') →
      s'.restore s.mark = s.noting s') ∧
    (∀ e a s', assigned src (callRule src depth) e s = .ok (a, s') →
      s'.restore s.mark = s.noting s') ∧
    ∀ id index s', callRule src depth id index s = .ok (none, s') → s' = s.noting s' := by
  refine ⟨?_, ?_, ?_⟩
  · intro e b s' h
    exact restore_mark (Grown.element h)
  · intro e a s' h
    exact restore_mark (Grown.assigned (keptBy_callRule src depth) h)
  · intro id index s' h
    exact callRule_none h

/-! ## A match that fails late -/

namespace Halfway

open Transfer.Overwritten (grammar)

/-- The text of one item, where two are expected. -/
def source : Source := sourceOf grammar "x" [⟨.keyword "x", 0, ['x']⟩]

/-- The state in which the model is begun. -/
def start : State := State.start source grammar.rules[0] .never

/-- The state in which the second item is missed: the first is in the tree. -/
def missed : State :=
  { start with
    pos := 1
    ast := #[
      ⟨"Model", none, none, none, some ⟨0⟩, ⟨[("item", .node ⟨1⟩)]⟩⟩,
      ⟨"Item", some ⟨0⟩, some "item", none, some ⟨1⟩, ⟨[]⟩⟩]
    cst := #[
      ⟨.root "x" #[⟨1⟩], none, ⟨0⟩, some ⟨0⟩, some ⟨0⟩, false⟩,
      ⟨.composite #[⟨2⟩], some ⟨0⟩, ⟨0⟩, some ⟨1⟩, some ⟨3⟩, false⟩,
      ⟨.leaf "x" 0 1 ⟨⟨0, 0⟩, ⟨0, 1⟩⟩, some ⟨1⟩, ⟨0⟩, some ⟨1⟩, some ⟨7⟩, false⟩]
    furthest := ⟨1, ["'x'"]⟩
    steps := 7 }

theorem element_body : element source (callRule source 2) grammar.rules[0].body start =
    .ok (false, missed) := by
  decide +kernel

end Halfway

/-- An item that is in the tree when the next one is missed is taken back. The
next one leaves nothing to take back, as a value or as a call. -/
theorem restore_exact_halfway :
    (element Halfway.source (callRule Halfway.source 2)
        Transfer.Overwritten.grammar.rules[0].body Halfway.start = .ok (false, Halfway.missed) ∧
      Halfway.missed.restore Halfway.start.mark = Halfway.start.noting Halfway.missed ∧
      Halfway.missed.ast ≠ Halfway.start.ast) ∧
    (∃ s', assigned Halfway.source (callRule Halfway.source 2) (.call ⟨5⟩ 1) Halfway.missed =
        .ok (none, s') ∧
      s'.restore Halfway.missed.mark = Halfway.missed.noting s') ∧
    ∃ s', callRule Halfway.source 2 ⟨5⟩ 1 Halfway.missed = .ok (none, s') ∧
      s' = Halfway.missed.noting s' := by
  have hvalue : assigned Halfway.source (callRule Halfway.source 2) (.call ⟨5⟩ 1) Halfway.missed =
      .ok (none, { Halfway.missed with steps := 9 }) := by
    decide
  have hcall : callRule Halfway.source 2 ⟨5⟩ 1 Halfway.missed =
      .ok (none, { Halfway.missed with steps := 8 }) := by
    decide
  have hstart := restore_exact Halfway.source 2 Halfway.start
  have hmissed := restore_exact Halfway.source 2 Halfway.missed
  exact ⟨⟨Halfway.element_body, hstart.1 _ _ _ Halfway.element_body, by decide⟩,
    ⟨_, hvalue, hmissed.2.1 _ _ _ hvalue⟩, ⟨_, hcall, hmissed.2.2 _ _ _ hcall⟩⟩

end Parse

end Workbench
