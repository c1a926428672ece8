/-!
# Plain data

Data without a type of its own, for tools that only pass it on or show it:
lists, and records whose fields have names.
-/

namespace Workbench

/-- A piece of plain data. -/
inductive Data where
  | null
  | bool (b : Bool)
  | int (i : Int)
  /-- A number with a decimal point: its digits, and how many of them come
  after the point. -/
  | decimal (digits : Int) (places : Nat)
  | str (s : String)
  | list (items : List Data)
  | record (fields : List (String × Data))
deriving Repr, Inhabited

namespace Data

/-- Whether a number without a point is kept digit by digit: it has 64 bits,
with a sign or without. -/
def isWhole (i : Int) : Bool := -0x8000000000000000 ≤ i && i < 0x10000000000000000

/-- A number that is not negative. -/
def nat (n : Nat) : Data := int n

/-- The field of a record. -/
def field? : Data → String → Option Data
  | record fields, name => fields.lookup name
  | _, _ => none

/-- The only field of a record, with its name. -/
def only? : Data → Option (String × Data)
  | record [field] => some field
  | _ => none

/-- The name of something that has no parts: as a text, or as a field without
a value. -/
def bareName? : Data → Option String
  | str name => some name
  | record [(name, null)] => some name
  | _ => none

/-- A record, which may be given as the list of its fields. -/
def asRecord (names : List String) : Data → Data
  | list items => if items.length = names.length then record (names.zip items) else null
  | d => d

/-- A text. -/
def str? : Data → Option String
  | str s => some s
  | _ => none

/-- A text, or the empty one for anything else. -/
def textOrEmpty (d : Data) : String := d.str?.getD ""

/-- The items of a list; anything else has none. -/
def items : Data → List Data
  | list items => items
  | _ => []

/-- The text at a place of a list, or the empty one. -/
def textAt (d : Data) (i : Nat) : String := ((d.items[i]?).map textOrEmpty).getD ""

/-- Whether something is the truth value true. -/
def isTrue : Data → Bool
  | bool b => b
  | _ => false

/-- A number of 64 bits. -/
def int? : Data → Option Int
  | int i => if -0x8000000000000000 ≤ i ∧ i < 0x8000000000000000 then some i else none
  | _ => none

/-- A number from zero on, below a bound. -/
def natBelow? (bound : Nat) : Data → Option Nat
  | int (.ofNat n) => if n < bound then some n else none
  | _ => none

/-- A list of things that can all be read. -/
def list? {α : Type} (read : Data → Option α) : Data → Option (List α)
  | list items => items.mapM read
  | _ => none

/-- A thing that may be left out or be null. -/
def optional? {α : Type} (read : Data → Option α) : Option Data → Option (Option α)
  | none => some none
  | some null => some none
  | some d => (read d).map some

end Data

end Workbench
