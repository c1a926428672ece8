import Workbench.Text.CharSet
/-!
# Byte ranges of character ranges

The characters of a range are the texts of a few rows of byte ranges: a row
allows at every position all bytes of its range, independently of the
others. Rows come in increasing order and skip the surrogates.
-/

namespace Workbench

namespace Text

/-- The number of code points that share all but the last `k` bytes. -/
def blockSize : Nat → Nat
  | 0 => 1
  | k + 1 => 64 * blockSize k

/-- The numbers from `lo` to `hi` as rows of ranges of digits to the base 64,
the leading digit first and `k` digits after it. -/
def digitRows : Nat → Nat → Nat → List (List (Nat × Nat))
  | 0, lo, hi => [[(lo, hi)]]
  | k + 1, lo, hi =>
    let block := blockSize (k + 1)
    let first := lo / block
    let last := hi / block
    let led (d : Nat) (rows : List (List (Nat × Nat))) := rows.map ((d, d) :: ·)
    if first = last then led first (digitRows k (lo % block) (hi % block))
    else
      let opens := lo % block ≠ 0
      let closes := hi % block ≠ block - 1
      let start := if opens then first + 1 else first
      let stop := if closes then last else last + 1
      (if opens then led first (digitRows k (lo % block) (block - 1)) else [])
        ++ (if start < stop then [(start, stop - 1) :: List.replicate (k + 1) (0, 63)] else [])
        ++ (if closes then led last (digitRows k 0 (hi % block)) else [])

/-- The code points whose texts have the same number of bytes: the first and
the last, the bytes after the leading one, and what the leading byte adds. -/
def byteForms : List (Nat × Nat × Nat × Nat) :=
  [(0, 0x7F, 0, 0), (0x80, 0x7FF, 1, 0xC0), (0x800, 0xD7FF, 2, 0xE0), (0xE000, 0xFFFF, 2, 0xE0),
   (0x10000, 0x10FFFF, 3, 0xF0)]

/-- The rows of bytes of digits: the leading byte is marked by the number of
bytes, each of the others as a continuation. -/
def markRow (mark : Nat) : List (Nat × Nat) → List (Nat × Nat)
  | [] => []
  | (lo, hi) :: rest => (mark + lo, mark + hi) :: rest.map fun r => (0x80 + r.1, 0x80 + r.2)

/-- The rows of the code points from `lo` to `hi`. -/
def byteRowsOf (lo hi : Nat) : List (List (Nat × Nat)) :=
  byteForms.flatMap fun (first, last, k, mark) =>
    let lo := max lo first
    let hi := min hi last
    if lo ≤ hi then (digitRows k lo hi).map (markRow mark) else []

end Text

/-- **The rows of byte ranges of a set**, in increasing order. -/
def CharSet.byteRows (s : CharSet) : List (List (Nat × Nat)) :=
  s.ranges.flatMap fun r => Text.byteRowsOf r.1 r.2

end Workbench
