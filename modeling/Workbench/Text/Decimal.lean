/-!
# Bounded decimal numbers

Readers for decimal numbers of 64-bit width. A number is an optional sign
and one or more ASCII digits; a number outside the width is refused, as is
any other character. Leading zeros are fine.
-/

namespace Workbench

namespace Text

/-- The value of one or more ASCII digits. -/
def readDigits? (cs : List Char) : Option Nat :=
  if cs.isEmpty || !cs.all Char.isDigit then none
  else some (cs.foldl (fun n c => 10 * n + (c.toNat - '0'.toNat)) 0)

/-- An unsigned number of 64 bits, with an optional `+`. -/
def readUnsigned? (s : String) : Option Nat :=
  let digits := match s.toList with
    | '+' :: cs => cs
    | cs => cs
  (readDigits? digits).filter (· < UInt64.size)

/-- The first number too large for 64 bits with a sign. -/
def int64Bound : Nat := 0x8000000000000000

/-- A signed number of 64 bits, with an optional sign. -/
def readSigned? (s : String) : Option Int :=
  match s.toList with
  | '-' :: cs => ((readDigits? cs).filter (· ≤ int64Bound)).map fun n => -(Int.ofNat n)
  | '+' :: cs => ((readDigits? cs).filter (· < int64Bound)).map Int.ofNat
  | cs => ((readDigits? cs).filter (· < int64Bound)).map Int.ofNat

/-- The digits of a number are read back. -/
theorem readDigits?_toDigits (n : Nat) : readDigits? (Nat.toDigits 10 n) = some n := by
  have hdigits : (Nat.toDigits 10 n).all Char.isDigit = true := by
    rw [List.all_eq_true]
    exact fun c hc => Nat.isDigit_of_mem_toDigits (by decide) (by decide) hc
  have hvalue : (Nat.toDigits 10 n).foldl (fun n c => 10 * n + (c.toNat - '0'.toNat)) 0 = n :=
    Nat.ofDigitChars_toDigits (by decide) (by decide)
  rw [readDigits?, hdigits, hvalue]
  simp [Nat.toDigits_ne_nil]

/-- **A number that fits is read back from what is printed.** -/
theorem readUnsigned?_repr {n : Nat} (h : n < UInt64.size) : readUnsigned? n.repr = some n := by
  have hsign : ∀ cs, n.repr.toList ≠ '+' :: cs := by
    intro cs hcs
    have hplus : '+' ∈ Nat.toDigits 10 n := by
      rw [← Nat.toList_repr, hcs]
      exact List.mem_cons_self
    exact absurd (Nat.isDigit_of_mem_toDigits (by decide) (by decide) hplus) (by decide)
  have hread : readUnsigned? n.repr = (readDigits? n.repr.toList).filter (· < UInt64.size) := by
    unfold readUnsigned?
    split
    next cs hcs => exact absurd hcs (hsign cs)
    next => rfl
  rw [hread, Nat.toList_repr, readDigits?_toDigits, Option.filter_some, if_pos (by simpa using h)]

end Text

end Workbench
