import Workbench.Text.Hex
/-!
# Scalars without quotes

Words that stand for numbers, truth values and points in time. An underscore
of a number stands between two digits or behind its sign, and no number has
superfluous zeros in front. A whole number is well formed before its digits
are looked at: `0x` and `1_a` are words for whole numbers that have no value,
and only who asks for the value refuses them. A point in time is a day, a
time of day, or both with a `T` or a blank between them and perhaps an offset
after them; seconds may be left out, and the days of a month are counted.
-/

namespace Workbench

namespace Toml

/-! ## Numbers -/

/-- The value of digits of a base. -/
def digitsValue? (base : Nat) : List Char → Option Nat
  | [] => none
  | cs => cs.foldlM (fun n c => ((Text.hexDigit? c).filter (· < base)).map (base * n + ·)) 0

/-- The base that a mark after a leading zero stands for. -/
def markedBase? : Char → Option Nat
  | 'x' => some 16
  | 'o' => some 8
  | 'b' => some 2
  | _ => none

/-- The rest after a sign. -/
def unsigned : List Char → List Char
  | '+' :: cs => cs
  | '-' :: cs => cs
  | cs => cs

/-- Whether the characters on both sides of every underscore are digits. An
underscore in front needs one on its right only. -/
def separates (isDigit : Char → Bool) : List Char → Bool
  | [] => true
  | ['_'] => false
  | '_' :: c :: cs => isDigit c && separates isDigit (c :: cs)
  | c :: '_' :: cs => isDigit c && separates isDigit ('_' :: cs)
  | _ :: cs => separates isDigit cs

/-- Whether the underscores of a decimal word stand where they may. -/
def isSpaced (isDigit : Char → Bool) (word : List Char) : Bool :=
  word.head? != some '_' && separates isDigit (unsigned word)

/-- Whether a character is a digit of one of the bases. -/
def isAnyDigit (c : Char) : Bool := (Text.hexDigit? c).isSome

/-- Whether the digits of another base than ten, after their mark, are well
formed; there may be none. -/
def isMarked (base : Nat) (cs : List Char) : Bool :=
  cs.all (fun c => c == '_' || (Text.hexDigit? c).any (· < base)) &&
    cs.head? != some '_' && separates isAnyDigit cs

/-- Whether a decimal word without its sign is a whole number: digits, or
digits that an underscore follows. -/
def isWholeDecimal (value : List Char) : Bool :=
  match value.dropWhile Char.isDigit with
  | [] => !value.isEmpty && (value == ['0'] || value.head? != some '0')
  | '_' :: rest =>
    value.head? != some '0' && rest.all fun c => c != '.' && c != 'e' && c != 'E' && c != ' '
  | _ => false

/-- Whether a word is a whole number. -/
def isWhole (word : List Char) : Bool :=
  match word with
  | '0' :: c :: cs =>
    match markedBase? c with
    | some base => isMarked base cs
    | none => false
  | _ => isWholeDecimal (unsigned word) && isSpaced isAnyDigit word

/-- The value of a whole number, if its digits are those of its base. -/
def wholeValue? (word : List Char) : Option Int :=
  match word.filter (· != '_') with
  | '0' :: c :: cs => (markedBase? c).bind fun base => (digitsValue? base cs).map Int.ofNat
  | '+' :: cs => (digitsValue? 10 cs).map Int.ofNat
  | '-' :: cs => (digitsValue? 10 cs).map fun n => -Int.ofNat n
  | cs => (digitsValue? 10 cs).map Int.ofNat

/-- Digits and underscores at the start, and the rest. -/
def digitRun (cs : List Char) : List Char × List Char := cs.span fun c => c.isDigit || c == '_'

/-- Whether a run of digits and underscores has a digit. -/
def hasDigit (run : List Char) : Bool := run.any Char.isDigit

/-- Whether the digits before the point of a fraction are well formed: there
is one, and no zero stands in front of others. -/
def isMantissa (run : List Char) : Bool :=
  hasDigit run && (run.head? != some '0' || run.countP Char.isDigit == 1)

/-- Whether a text is the exponent of a fraction, or nothing. -/
def isExponent : List Char → Bool
  | [] => true
  | c :: cs =>
    let (run, rest) := digitRun (unsigned cs)
    (c == 'e' || c == 'E') && hasDigit run && rest.isEmpty

/-- Whether a word is a fraction: a number with decimals, an exponent or
both, or one of the two words for what is no number. -/
def isFraction (word : List Char) : Bool :=
  let cs := unsigned word
  let (whole, rest) := digitRun cs
  String.ofList cs == "inf" || String.ofList cs == "nan" ||
    (isMantissa whole && isSpaced Char.isDigit word &&
      match rest with
      | [] => false
      | '.' :: rest =>
        let (decimals, rest) := digitRun rest
        hasDigit decimals && isExponent rest
      | rest => isExponent rest)

/-! ## Points in time -/

/-- A number of exactly `n` decimal digits, and the rest. -/
def fixed? (n : Nat) (cs : List Char) : Option (Nat × List Char) :=
  let digits := cs.take n
  if digits.length = n ∧ digits.all Char.isDigit then
    some (digits.foldl (fun v c => 10 * v + (c.toNat - '0'.toNat)) 0, cs.drop n)
  else none

/-- The rest after a character that must come next. -/
def expect? (c : Char) : List Char → Option (List Char)
  | d :: cs => if d = c then some cs else none
  | [] => none

/-- The number of days of a month. -/
def daysOf (year month : Nat) : Nat :=
  if month = 2 then
    if year % 4 = 0 ∧ (year % 100 ≠ 0 ∨ year % 400 = 0) then 29 else 28
  else if month = 4 ∨ month = 6 ∨ month = 9 ∨ month = 11 then 30
  else 31

/-- The rest after a day. -/
def day? (cs : List Char) : Option (List Char) := do
  let (year, cs) ← fixed? 4 cs
  let (month, cs) ← fixed? 2 (← expect? '-' cs)
  let (day, cs) ← fixed? 2 (← expect? '-' cs)
  if 1 ≤ month ∧ month ≤ 12 ∧ 1 ≤ day ∧ day ≤ daysOf year month then some cs else none

/-- The rest after an hour and a minute. -/
def minuteOfDay? (cs : List Char) : Option (List Char) := do
  let (hour, cs) ← fixed? 2 cs
  let (minute, cs) ← fixed? 2 (← expect? ':' cs)
  if hour ≤ 23 ∧ minute ≤ 59 then some cs else none

/-- The rest after a time of day. A minute may have a 61st second. -/
def timeOfDay? (cs : List Char) : Option (List Char) := do
  match ← minuteOfDay? cs with
  | ':' :: cs =>
    let (second, cs) ← fixed? 2 cs
    if second ≤ 60 then
      match cs with
      | '.' :: cs => if cs.head?.any Char.isDigit then some (cs.dropWhile Char.isDigit) else none
      | cs => some cs
    else none
  | cs => some cs

/-- Whether a text is an offset, or nothing. -/
def isOffset : List Char → Bool
  | [] => true
  | ['Z'] => true
  | ['z'] => true
  | '+' :: cs => minuteOfDay? cs == some []
  | '-' :: cs => minuteOfDay? cs == some []
  | _ => false

/-- Whether a word is a point in time. -/
def isMoment (word : List Char) : Bool :=
  match day? word with
  | some [] => true
  | some (c :: cs) =>
    (c == 'T' || c == 't' || c == ' ') && (timeOfDay? cs).any isOffset
  | none => timeOfDay? word == some []

/-! ## Words -/

/-- Whether a word is a scalar that is no whole number. -/
def isOther (word : List Char) : Bool :=
  String.ofList word == "true" || String.ofList word == "false" || isFraction word || isMoment word

end Toml

end Workbench
