import Workbench.Text.Hex
/-!
# Sorted code-point ranges

Character classes are given by a list of inclusive code-point ranges in
increasing order. Membership stops at the first range that starts past the
character, so the classes that begin with ASCII answer ASCII at once. Tables
are written as hexadecimal ranges with blanks between them.
-/

namespace Workbench

namespace Text

/-- Whether `n` lies in one of the increasing inclusive ranges. -/
def inRanges : List (Nat × Nat) → Nat → Bool
  | [], _ => false
  | (lo, hi) :: rest, n => if n < lo then false else n ≤ hi || inRanges rest n

/-- Whether the ranges are non-empty, disjoint and increasing. -/
def increasing : List (Nat × Nat) → Bool
  | [] => true
  | [(lo, hi)] => lo ≤ hi
  | (lo, hi) :: (lo', hi') :: rest => lo ≤ hi && hi < lo' && increasing ((lo', hi') :: rest)

/-- Ranges written in hexadecimal, such as `41-5A 61-7A AA`: `lo` is the
start of the current range once its hyphen is passed, `n` the number being
read. -/
def readRangesFrom (lo n : Option Nat) : List Char → List (Nat × Nat)
  | [] => (n.map fun n => (lo.getD n, n)).toList
  | c :: cs =>
    match hexDigit? c with
    | some d => readRangesFrom lo (some (16 * n.getD 0 + d)) cs
    | none =>
      if c = '-' then readRangesFrom n none cs
      else (n.map fun n => (lo.getD n, n)).toList ++ readRangesFrom none none cs

/-- The ranges a table is written as. -/
def readRanges (text : String) : List (Nat × Nat) := readRangesFrom none none text.toList

end Text

end Workbench
