/-!
# Bytes in hexadecimal

Two digits to a byte, the higher one first. Digits are written in lower
case and read in either.
-/

namespace Workbench

namespace Text

/-- The two digits of a byte. -/
def hexPair (b : UInt8) : List Char :=
  [Nat.digitChar (b.toNat / 16), Nat.digitChar (b.toNat % 16)]

/-- **Bytes as digits.** -/
def toHex (bytes : List UInt8) : String := String.ofList (bytes.flatMap hexPair)

/-- The value of a digit. -/
def hexDigit? (c : Char) : Option Nat :=
  if '0' ≤ c ∧ c ≤ '9' then some (c.toNat - '0'.toNat)
  else if 'a' ≤ c ∧ c ≤ 'f' then some (c.toNat - 'a'.toNat + 10)
  else if 'A' ≤ c ∧ c ≤ 'F' then some (c.toNat - 'A'.toNat + 10)
  else none

/-- Why digits are no bytes. -/
inductive HexError where
  /-- A digit stands alone at the end. -/
  | odd
  /-- Some character is no digit. -/
  | noDigit
deriving DecidableEq, Repr, Inhabited

/-- The text of the defect. -/
def HexError.message : HexError → String
  | odd => "odd hex"
  | noDigit => "bad hex"

/-- The bytes of pairs of digits. -/
def hexBytes? : List Char → Option (List UInt8)
  | a :: b :: rest => do
    let high ← hexDigit? a
    let low ← hexDigit? b
    return UInt8.ofNat (16 * high + low) :: (← hexBytes? rest)
  | _ => some []

/-- **The bytes that digits stand for.** An odd number of characters is
found before a character that is no digit. -/
def ofHex (s : String) : Except HexError (List UInt8) :=
  if s.length % 2 = 1 then .error .odd
  else match hexBytes? s.toList with
    | some bytes => .ok bytes
    | none => .error .noDigit

end Text

end Workbench
