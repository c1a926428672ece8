import Workbench.Text.Hex
/-!
# Escapes

A character that may not stand in some part of a uri is written as its bytes,
each as `%` and two digits. Which characters these are depends on the part;
controls and what is not ASCII are among them everywhere.
-/

namespace Workbench

namespace Uri

/-- The parts of a uri that differ in what they escape. -/
inductive Part where
  /-- A path without segments, or a host. -/
  | plain
  | query
  /-- A query in which an apostrophe ends a value. -/
  | strictQuery
  | fragment
  | path
  /-- A segment in which no character has a meaning. -/
  | segment
  | user
deriving DecidableEq, Repr, Inhabited

/-- Signs that both a query and a fragment escape. -/
def tailSigns : List Char := [' ', '"', '<', '>']

/-- Signs that a path escapes. -/
def pathSigns : List Char := tailSigns ++ ['`', '#', '?', '\x7b', '\x7d']

/-- The signs that a part escapes. -/
def Part.signs : Part → List Char
  | plain => []
  | query => tailSigns
  | strictQuery => tailSigns ++ ['\'']
  | fragment => tailSigns ++ ['`']
  | path => pathSigns
  | segment => pathSigns ++ ['%', '/', '\\']
  | user => pathSigns ++ ['/', ':', ';', '=', '@', '[', '\\', ']', '^', '|']

/-- Whether a part escapes a character. -/
def Part.escapes (part : Part) (c : Char) : Bool :=
  c.toNat < 0x20 || 0x7F ≤ c.toNat || part.signs.contains c

/-- A byte as `%` and two digits. -/
def escapeByte (b : UInt8) : List Char := '%' :: (Text.hexPair b).map Char.toUpper

/-- **A character as it stands in a part.** -/
def escape (part : Part) (c : Char) : List Char :=
  if part.escapes c then (String.singleton c).toUTF8.toList.flatMap escapeByte else [c]

/-- **The bytes of a text** in which `%` and two digits stand for a byte. -/
def unescape : List Char → List UInt8
  | [] => []
  | '%' :: a :: b :: cs =>
    match Text.hexDigit? a, Text.hexDigit? b with
    | some high, some low => UInt8.ofNat (16 * high + low) :: unescape cs
    | _, _ => 0x25 :: unescape (a :: b :: cs)
  | c :: cs => (String.singleton c).toUTF8.toList ++ unescape cs

/-- The text of bytes, if they are one. -/
def textOf? (bytes : List UInt8) : Option (List Char) :=
  (String.fromUTF8? ⟨bytes.toArray⟩).map String.toList

end Uri

end Workbench
