/-!
# Interrupts

A long computation asks from time to time whether it should stop. All it
can see is how many of its questions are answered "go on" before the first
"stop": an interrupt is that number, or none if it never fires. Once fired
it stays fired.
-/

namespace Workbench

/-- How many checks pass before every later one fails; absent if none ever
fails. -/
structure Interrupt where
  passes : Option Nat
deriving DecidableEq, Repr, Inhabited

namespace Interrupt

/-- The interrupt that never fires. -/
def never : Interrupt := ⟨none⟩

/-- The interrupt that lets `n` checks pass. -/
def after (n : Nat) : Interrupt := ⟨some n⟩

/-- The interrupt that has fired. -/
def fired : Interrupt := after 0

/-- Whether the next check fails. -/
def hasFired (i : Interrupt) : Bool := i.passes == some 0

/-- Whether some check will fail, if there are enough of them. -/
def firesAtLast (i : Interrupt) : Bool := i.passes.isSome

/-- **One check**: the interrupt that is left, or nothing if it fired. -/
def check (i : Interrupt) : Option Interrupt :=
  match i.passes with
  | none => some i
  | some 0 => none
  | some (n + 1) => some ⟨some n⟩

@[simp] theorem check_never : never.check = some never := rfl

@[simp] theorem check_fired : fired.check = none := rfl

@[simp] theorem check_after_succ (n : Nat) : (after (n + 1)).check = some (after n) := rfl

end Interrupt

/-- The text of a cancelled operation. -/
def cancelledMessage : String := "operation cancelled"

end Workbench
