import Workbench.Text.Bytes
/-!
# Lines and characters

A position is a line and a character within it, both counted from zero;
characters are Unicode scalar values. `locate` turns a byte offset into a
position by walking the text once: a line break opens the next line, an
offset past the end stands at the end, and an offset inside a character
counts the bytes of its line instead.
-/

namespace Workbench

/-- A line and a character within it, from zero. -/
structure Position where
  line : Nat
  character : Nat
deriving DecidableEq, Repr, Inhabited

namespace Position

/-- Positions are ordered by line, then by character. -/
instance : LE Position :=
  ⟨fun a b => a.line < b.line ∨ a.line = b.line ∧ a.character ≤ b.character⟩

instance : LT Position :=
  ⟨fun a b => a.line < b.line ∨ a.line = b.line ∧ a.character < b.character⟩

instance (a b : Position) : Decidable (a ≤ b) :=
  inferInstanceAs (Decidable (a.line < b.line ∨ a.line = b.line ∧ a.character ≤ b.character))

instance (a b : Position) : Decidable (a < b) :=
  inferInstanceAs (Decidable (a.line < b.line ∨ a.line = b.line ∧ a.character < b.character))

/-- The earlier of two positions. -/
def min (a b : Position) : Position := if a ≤ b then a else b

/-- The later of two positions. -/
def max (a b : Position) : Position := if a ≤ b then b else a

/-- How two positions compare. -/
def compare (a b : Position) : Ordering :=
  if a < b then .lt else if a = b then .eq else .gt

end Position

/-- The stretch of text between two positions, the end excluded. -/
structure Range where
  start : Position
  stop : Position
deriving DecidableEq, Repr, Inhabited

namespace Range

/-- The range of no length at a position. -/
def point (p : Position) : Range := ⟨p, p⟩

/-- The range of no length at the start of the text. -/
def origin : Range := point ⟨0, 0⟩

/-- The smallest range that contains both. -/
def cover (a b : Range) : Range := ⟨a.start.min b.start, a.stop.max b.stop⟩

/-- Ranges are shown one-based: `line:character-line:character`. -/
def render (r : Range) : String :=
  toString (r.start.line + 1) ++ ":" ++ toString (r.start.character + 1) ++ "-" ++
    toString (r.stop.line + 1) ++ ":" ++ toString (r.stop.character + 1)

end Range

namespace Text

/-- The number of lines: one more than there are line breaks. -/
def lineCount (cs : List Char) : Nat := cs.count '\n' + 1

/-- The position `n` bytes further on, from line `line` of which `bytes`
bytes and `chars` characters have been passed. -/
def locateFrom (line bytes chars : Nat) : List Char → Nat → Position
  | [], _ => ⟨line, chars⟩
  | c :: cs, n =>
    if n = 0 then ⟨line, chars⟩
    else if n < c.utf8Size then ⟨line, bytes + n⟩
    else if c = '\n' then locateFrom (line + 1) 0 0 cs (n - c.utf8Size)
    else locateFrom line (bytes + c.utf8Size) (chars + 1) cs (n - c.utf8Size)

/-- **The position of a byte offset.** -/
def locate (cs : List Char) (offset : Nat) : Position := locateFrom 0 0 0 cs offset

/-- The range of the span of `length` bytes at `offset`. -/
def rangeAt (cs : List Char) (offset length : Nat) : Range :=
  ⟨locate cs offset, locate cs (offset + length)⟩

end Text

end Workbench
