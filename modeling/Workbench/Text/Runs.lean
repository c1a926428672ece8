import Workbench.Text.Hex
import Workbench.Text.Split
/-!
# Runs of code points

What code points stand for is tabled by runs. A run names the code points it
is about and what the first of them stands for; each of the others stands for
the code point as far behind that. A run is written as `41-5A>61`, with
`100-12E/2>101` for every second code point and `FB01>66.69` for one that
stands for several.
-/

namespace Workbench

namespace Text

/-- A run: every `step`-th code point from `lo` to `hi`, and what `lo` stands
for. -/
structure Run where
  lo : Nat
  hi : Nat
  step : Nat
  image : List Nat
deriving DecidableEq, Repr, Inhabited

namespace Run

/-- Whether a code point is in a run. -/
def covers (r : Run) (n : Nat) : Bool := r.lo ≤ n && n ≤ r.hi && (n - r.lo) % r.step == 0

/-- What a code point of a run stands for. -/
def imageOf (r : Run) (n : Nat) : List Nat := r.image.map (· + (n - r.lo))

/-- **What a code point stands for** by increasing runs. -/
def lookup? (n : Nat) : List Run → Option (List Nat)
  | [] => none
  | r :: rest =>
    if n < r.lo then none else if r.covers n then some (r.imageOf n) else lookup? n rest

/-- The code points of a run. -/
def members (r : Run) : List Nat :=
  (List.range ((r.hi - r.lo) / r.step + 1)).map fun i => r.lo + r.step * i

/-! ## Written runs -/

/-- The value of hexadecimal digits. -/
def hexNumber (cs : List Char) : Nat := cs.foldl (fun n c => 16 * n + (hexDigit? c).getD 0) 0

/-- The run a word stands for. -/
def ofWord (word : List Char) : Run :=
  let (source, image) := word.span (· != '>')
  let (range, step) := source.span (· != '/')
  let (lo, hi) := range.span (· != '-')
  { lo := hexNumber lo
    hi := hexNumber (if hi.isEmpty then lo else hi.drop 1)
    step := if step.isEmpty then 1 else hexNumber (step.drop 1)
    image := (splitAt '.' (image.drop 1)).map hexNumber }

/-- The words of a text, parted by blanks and line breaks; `word` is the one
being read, backwards. -/
def wordsFrom (word : List Char) : List Char → List (List Char)
  | [] => if word.isEmpty then [] else [word.reverse]
  | c :: cs =>
    if c == ' ' || c == '\n' then
      if word.isEmpty then wordsFrom [] cs else word.reverse :: wordsFrom [] cs
    else wordsFrom (c :: word) cs

/-- The runs a table is written as. -/
def ofText (text : String) : List Run := (wordsFrom [] text.toList).map ofWord

end Run

end Text

end Workbench
