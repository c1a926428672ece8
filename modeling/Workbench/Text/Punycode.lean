/-!
# Letters of domains in ASCII

A label with letters beyond ASCII is written with its ASCII characters first
and then, after a hyphen, where the others stand: each step to the next place
and letter is one number, written in digits to the base 36 whose thresholds
follow a bias. Reading a written label gives the letters back.
-/

namespace Workbench

namespace Text

namespace Punycode

/-- The character of a digit. -/
def digitChar (d : Nat) : Char :=
  if d < 26 then Char.ofNat ('a'.toNat + d) else Char.ofNat ('0'.toNat + (d - 26))

/-- The value of a digit. -/
def digitValue? (c : Char) : Option Nat :=
  if 'a' ≤ c ∧ c ≤ 'z' then some (c.toNat - 'a'.toNat)
  else if 'A' ≤ c ∧ c ≤ 'Z' then some (c.toNat - 'A'.toNat)
  else if '0' ≤ c ∧ c ≤ '9' then some (c.toNat - '0'.toNat + 26)
  else none

/-- The threshold of the digit at place `k`. -/
def threshold (k bias : Nat) : Nat :=
  if k ≤ bias then 1 else if bias + 26 ≤ k then 26 else k - bias

/-- Scales a step down until it is small; `k` counts the scalings. -/
def scale : Nat → Nat → Nat → Nat
  | 0, k, delta => k + 36 * delta / (delta + 38)
  | fuel + 1, k, delta =>
    if 455 < delta then scale fuel (k + 36) (delta / 35) else k + 36 * delta / (delta + 38)

/-- The bias after a step, by how many characters there are with it. -/
def adapt (delta count : Nat) (first : Bool) : Nat :=
  let delta := if first then delta / 700 else delta / 2
  scale delta 0 (delta + delta / count)

/-- The digits of a number. -/
def digits (bias : Nat) : Nat → Nat → Nat → List Char
  | 0, _, _ => []
  | fuel + 1, k, q =>
    let t := threshold k bias
    if q < t then [digitChar q]
    else digitChar (t + (q - t) % (36 - t)) :: digits bias fuel (k + 36) ((q - t) / (36 - t))

/-- What has been written: the number of characters passed so far, the step
since the last letter and the bias. -/
structure Progress where
  passed : Nat
  delta : Nat
  bias : Nat
  written : List Char

/-- Writes the places of one letter among the letters of a label. -/
def writeLetter (label : List Nat) (start letter : Nat) (p : Progress) : Progress :=
  label.foldl (fun p n =>
    if n < letter then { p with delta := p.delta + 1 }
    else if n = letter then
      ⟨p.passed + 1, 0, adapt p.delta (p.passed + 1) (p.passed = start),
        p.written ++ digits p.bias (p.delta + 2) 36 p.delta⟩
    else p) p

/-- The letters of a label beyond ASCII, each once and in increasing order. -/
def letters (label : List Nat) : List Nat :=
  ((label.filter (128 ≤ ·)).mergeSort (· ≤ ·)).eraseDups

/-- **A label in ASCII.** -/
def encode (label : List Char) : List Char :=
  let points := label.map Char.toNat
  let basic := label.filter (·.toNat < 128)
  let start := basic.length
  let (p, _) := (letters points).foldl (fun (p, lowest) letter =>
    let p := { p with delta := p.delta + (letter - lowest) * (p.passed + 1) }
    let p := writeLetter points start letter p
    ({ p with delta := p.delta + 1 }, letter + 1)) ((⟨start, 0, 72, []⟩ : Progress), 128)
  (if basic.isEmpty then [] else basic ++ ['-']) ++ p.written

/-- A number at the start of digits, and the rest; `weight` is what the digit
at place `k` counts. A digit that counts more than 32 bits hold is refused. -/
def readNumber? (bias : Nat) : Nat → Nat → Nat → List Char → Option (Nat × List Char)
  | _, _, _, [] => none
  | k, weight, value, c :: cs =>
    (digitValue? c).bind fun d =>
      let t := threshold k bias
      let value := value + d * weight
      if d < t then some (value, cs)
      else if weight * (36 - t) < UInt32.size then
        readNumber? bias (k + 36) (weight * (36 - t)) value cs
      else none

/-- Reads the letters beyond ASCII into the label. -/
def decodeFrom? : Nat → Nat → Nat → Nat → List Nat → List Char → Option (List Nat)
  | _, _, _, _, label, [] => some label
  | 0, _, _, _, _, _ => none
  | fuel + 1, n, i, bias, label, cs =>
    (readNumber? bias 36 1 0 cs).bind fun (step, rest) =>
      let count := label.length + 1
      let place := i + step
      let n := n + place / count
      if n.isValidChar then
        let (before, after) := label.splitAt (place % count)
        decodeFrom? fuel n (place % count + 1) (adapt step count (i = 0)) (before ++ n :: after)
          rest
      else none

/-- **The label an ASCII text stands for.** -/
def decode? (cs : List Char) : Option (List Char) :=
  let digits := (cs.reverse.takeWhile (· != '-')).reverse
  let basic := (cs.take (cs.length - digits.length)).dropLast
  if cs.any (128 ≤ ·.toNat) then none
  else
    (decodeFrom? (digits.length + 1) 128 0 72 (basic.map Char.toNat) digits).map
      (·.map Char.ofNat)

end Punycode

end Text

end Workbench
