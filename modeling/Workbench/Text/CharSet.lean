import Workbench.Text.Ranges
/-!
# Sets of characters

A set of characters is its increasing list of inclusive code-point ranges
that neither overlap nor touch, so equal sets have equal lists. Union merges
two lists and joins what meets; the other operations follow from it and the
complement.
-/

namespace Workbench

/-- A set of characters, as increasing ranges of code points. -/
structure CharSet where
  ranges : List (Nat × Nat)
deriving DecidableEq, Repr, Inhabited

namespace CharSet

/-- No character. -/
def none : CharSet := ⟨[]⟩

/-- Every character. -/
def all : CharSet := ⟨[(0, 0x10FFFF)]⟩

/-- The characters from `lo` to `hi`, both included. -/
def range (lo hi : Char) : CharSet := ⟨[(lo.toNat, hi.toNat)]⟩

/-- The set of one character. -/
def single (c : Char) : CharSet := range c c

/-- **The characters of a set.** -/
def contains (s : CharSet) (c : Char) : Bool := Text.inRanges s.ranges c.toNat

/-- Whether no character is in the set. -/
def isEmpty (s : CharSet) : Bool := s.ranges.isEmpty

/-- Whether all characters of the set are below 128. -/
def isAscii (s : CharSet) : Bool := s.ranges.all (·.2 < 128)

/-- The only character of the set, if it has exactly one. -/
def onlyMember? (s : CharSet) : Option Char :=
  match s.ranges with
  | [(lo, hi)] => if lo = hi then some (Char.ofNat lo) else Option.none
  | _ => Option.none

/-- Puts a range in front of ranges that start no earlier, joining those it
meets. -/
def join (lo hi : Nat) : List (Nat × Nat) → List (Nat × Nat)
  | [] => [(lo, hi)]
  | (lo', hi') :: rest =>
    if lo' ≤ hi + 1 then join lo (max hi hi') rest else (lo, hi) :: join lo' hi' rest

/-- The set of ranges whose starts do not decrease. -/
def ofSorted : List (Nat × Nat) → CharSet
  | [] => none
  | (lo, hi) :: rest => ⟨join lo hi rest⟩

/-- The set of ranges in any order. -/
def ofRanges (ranges : List (Nat × Nat)) : CharSet :=
  ofSorted (ranges.mergeSort fun a b => a.1 ≤ b.1)

/-- The set of some code points in any order. -/
def ofPoints (points : List Nat) : CharSet := ofRanges (points.map fun n => (n, n))

/-- The set written as hexadecimal ranges. -/
def ofHex (text : String) : CharSet := ofSorted (Text.readRanges text)

/-- Puts a range among others whose starts do not decrease, with `rest` done
to those behind it. -/
def mergeOne (r : Nat × Nat) (rest : List (Nat × Nat) → List (Nat × Nat)) :
    List (Nat × Nat) → List (Nat × Nat)
  | [] => r :: rest []
  | r' :: rs => if r.1 ≤ r'.1 then r :: rest (r' :: rs) else r' :: mergeOne r rest rs

/-- Two lists of ranges as one, by where they start. -/
def merge : List (Nat × Nat) → List (Nat × Nat) → List (Nat × Nat)
  | [], rs => rs
  | r :: rs, rs' => mergeOne r (merge rs) rs'

/-- The characters of either set. -/
def union (a b : CharSet) : CharSet := ofSorted (merge a.ranges b.ranges)

/-- The code points from `n` on that lie in none of the increasing ranges. -/
def gaps (n : Nat) : List (Nat × Nat) → List (Nat × Nat)
  | [] => if n ≤ 0x10FFFF then [(n, 0x10FFFF)] else []
  | (lo, hi) :: rest => if n < lo then (n, lo - 1) :: gaps (hi + 1) rest else gaps (hi + 1) rest

/-- The characters outside the set. -/
def complement (s : CharSet) : CharSet := ⟨gaps 0 s.ranges⟩

/-- The characters of both sets. -/
def inter (a b : CharSet) : CharSet := (a.complement.union b.complement).complement

/-- The characters of `a` that are not in `b`. -/
def diff (a b : CharSet) : CharSet := a.inter b.complement

/-- The characters of exactly one of the two sets. -/
def symmDiff (a b : CharSet) : CharSet := (a.union b).diff (a.inter b)

/-- The characters of any of the sets. -/
def unions (sets : List CharSet) : CharSet := sets.foldl union none

@[simp] theorem contains_single (c d : Char) : (single c).contains d = decide (c = d) := by
  have h : c = d ↔ c.toNat = d.toNat := ⟨congrArg _, fun h => Char.toNat_inj.1 h⟩
  by_cases hlt : d.toNat < c.toNat
  · simp [single, range, contains, Text.inRanges, hlt, h, Nat.ne_of_gt hlt]
  · simp only [single, range, contains, Text.inRanges, hlt, if_false, Bool.or_false, h]
    exact decide_eq_decide.2
      ⟨fun h' => Nat.le_antisymm (Nat.not_lt.1 hlt) h', fun h' => Nat.le_of_eq h'.symm⟩

@[simp] theorem contains_none (c : Char) : none.contains c = false := rfl

end CharSet

end Workbench
