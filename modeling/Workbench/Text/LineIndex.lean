import Workbench.Text.Position
/-!
# Where lines start

`Text.locate` finds a position by walking the text from its start. Who asks
for many positions of one text notes once where its lines start: the line of
an offset is the last one that starts no later, and its character is what
stands between the two. An offset inside a character cannot be cut at, and
has the bytes of its line counted instead.
-/

namespace Workbench

open Text

/-- The offsets right behind the line breaks of a text that starts at an
offset. -/
def Text.behindBreaks (offset : Nat) : List Char → List Nat
  | [] => []
  | c :: cs =>
    if c = '\n' then (offset + 1) :: behindBreaks (offset + 1) cs
    else behindBreaks (offset + c.utf8Size) cs

/-- **The table of the lines of a text**: where they start, in bytes. -/
structure LineIndex where
  starts : List Nat
deriving DecidableEq, Repr, Inhabited

namespace LineIndex

/-- The table of a text. The first line starts with it, every other one behind
a line break. -/
def ofText (text : List Char) : LineIndex := ⟨0 :: behindBreaks 0 text⟩

/-- **The position of a byte offset**, by the table of the text. An offset past
the end counts as the end. Lines and characters are kept in 32 bits. -/
def position (x : LineIndex) (text : List Char) (offset : Nat) : Position :=
  let offset := min offset (byteLength text)
  let line := x.starts.findIdx (offset < ·) - 1
  let start := x.starts.getD line 0
  let character := ((slice? text start offset).map List.length).getD (offset - start)
  ⟨line % UInt32.size, character % UInt32.size⟩

/-- The range of the span of `length` bytes at `offset`. A span lies in a text, so
that its end, `offset + length`, is less than `2 ^ 63` and fits a machine word. -/
def range (x : LineIndex) (text : List Char) (offset length : Nat) : Range :=
  ⟨x.position text offset, x.position text (offset + length)⟩

end LineIndex

end Workbench
