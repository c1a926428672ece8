import Workbench.Uri.Domain
/-!
# Hosts

A host is a name or the number of a machine, in four bytes or in eight
groups of sixteen bits. Numbers are brought into one form: four bytes are
written in decimal, and the longest run of groups that are zero is left out.
-/

namespace Workbench

namespace Uri

/-! ## Four bytes -/

/-- The value of digits of a base. -/
def digitsValue? (base : Nat) (cs : List Char) : Option Nat :=
  cs.foldlM (fun n c => ((Text.hexDigit? c).filter (· < base)).map (base * n + ·)) 0

/-- A part of a number with dots: hexadecimal after `0x`, octal after `0`. -/
def part? : List Char → Option Nat
  | [] => none
  | '0' :: 'x' :: cs => digitsValue? 16 cs
  | '0' :: 'X' :: cs => digitsValue? 16 cs
  | '0' :: c :: cs => digitsValue? 8 (c :: cs)
  | cs => digitsValue? 10 cs

/-- The parts between dots; a dot at the end says nothing. -/
def dotted (cs : List Char) : List (List Char) :=
  let parts := Text.splitAt '.' cs
  if parts.length > 1 && parts.getLast? == some [] then parts.dropLast else parts

/-- Whether the last part of a name makes it a number. -/
def endsInNumber (cs : List Char) : Bool :=
  match (dotted cs).getLast? with
  | none => false
  | some [] => false
  | some last => last.all Char.isDigit || (part? last).isSome

/-- The number of a machine in at most four parts; the last part fills the
bytes that are left. -/
def machine? (cs : List Char) : Option Nat := do
  let numbers ← (dotted cs).mapM part?
  match numbers.reverse with
  | [] => none
  | last :: before =>
    let room := [4294967296, 16777216, 65536, 256]
    let size ← room[before.length]?
    if last < size && before.all (· ≤ 255) then
      let weights := [16777216, 65536, 256]
      return (before.reverse.zip weights).foldl (fun n (part, weight) => n + part * weight) last
    else none

/-- A number of four bytes in decimal. -/
def machineText (n : Nat) : String :=
  ".".intercalate ([16777216, 65536, 256, 1].map fun w => toString (n / w % 256))

/-! ## Eight groups -/

/-- Groups read so far, and where the run of zeros that was left out
belongs. -/
structure Groups where
  done : List Nat
  gap : Option Nat
deriving DecidableEq, Repr, Inhabited

/-- Up to four digits of a group, and the rest. -/
def takeGroup (cs : List Char) : List Char × List Char :=
  let digits := (cs.take 4).takeWhile fun c => (Text.hexDigit? c).isSome
  (digits, cs.drop digits.length)

/-- A decimal byte without superfluous zeros. -/
def byte? (cs : List Char) : Option Nat :=
  if cs.isEmpty || !cs.all Char.isDigit || (cs.length > 1 && cs.head? == some '0') then none
  else (digitsValue? 10 cs).filter (· ≤ 255)

/-- The two groups that four bytes with dots stand for. -/
def bytesGroups? (cs : List Char) : Option (List Nat) :=
  match (Text.splitAt '.' cs).mapM byte? with
  | some [a, b, c, d] => some [256 * a + b, 256 * c + d]
  | _ => none

/-- Reads groups with colons between them. -/
def groupsFrom? : Nat → Groups → List Char → Option Groups
  | _, g, [] => some g
  | 0, _, _ => none
  | fuel + 1, g, cs =>
    if g.done.length ≥ 8 then none
    else
      match cs with
      | ':' :: rest =>
        if g.gap.isSome then none
        else groupsFrom? fuel ⟨g.done ++ [0], some (g.done.length + 1)⟩ rest
      | cs =>
        let (digits, rest) := takeGroup cs
        (digitsValue? 16 digits).bind fun value =>
          match rest with
          | [] => some ⟨g.done ++ [value], g.gap⟩
          | '.' :: _ =>
            if digits.isEmpty || g.done.length > 6 then none
            else (bytesGroups? cs).map fun groups => ⟨g.done ++ groups, g.gap⟩
          | ':' :: rest =>
            if rest.isEmpty then none else groupsFrom? fuel ⟨g.done ++ [value], g.gap⟩ rest
          | _ => none

/-- The eight groups of a number. -/
def groups? (cs : List Char) : Option (List Nat) := do
  let g ← match cs with
    | ':' :: ':' :: rest => groupsFrom? (rest.length + 1) ⟨[0], some 1⟩ rest
    | ':' :: _ => none
    | [] => none
    | [_] => none
    | cs => groupsFrom? (cs.length + 1) ⟨[], none⟩ cs
  match g.gap with
  | some gap =>
    let (before, after) := g.done.splitAt gap
    return before ++ List.replicate (8 - g.done.length) 0 ++ after
  | none => if g.done.length = 8 then some g.done else none

/-- The longest run of zeros: where it starts and how long it is. -/
def longestZeros (groups : List Nat) : Nat × Nat :=
  let runAt (i : Nat) : Nat := ((groups.drop i).takeWhile (· == 0)).length
  (List.range groups.length).foldl (fun best i => if best.2 < runAt i then (i, runAt i) else best)
    (0, 0)

/-- Eight groups as text; a run of two or more zeros is left out. -/
def groupsText (groups : List Nat) : String :=
  let text (gs : List Nat) : String :=
    ":".intercalate (gs.map fun g => String.ofList (Nat.toDigits 16 g))
  let (start, length) := longestZeros groups
  if length < 2 then text groups
  else text (groups.take start) ++ "::" ++ text (groups.drop (start + length))

/-! ## Hosts -/

/-- The number in brackets. -/
def bracketed? (cs : List Char) : Option String :=
  match cs with
  | '[' :: rest =>
    if rest.getLast? == some ']' then
      (groups? rest.dropLast).map fun groups => "[" ++ groupsText groups ++ "]"
    else none
  | _ => none

/-- The characters that no host may hold. -/
def isForbidden (c : Char) : Bool :=
  c.toNat = 0 || "\t\n\r #/:<>?@[\\]^|".toList.contains c

/-- **The host of a domain scheme**: a number or a domain. -/
def domainHost? (cs : List Char) : Option String :=
  if cs.head? == some '[' then bracketed? cs
  else
    (domain? cs).bind fun name =>
      if name.isEmpty then none
      else if endsInNumber name then (machine? name).map machineText
      else some (String.ofList name)

/-- **The host of another scheme**: a number in brackets, or any name without
forbidden characters. -/
def plainHost? (cs : List Char) : Option String :=
  if cs.head? == some '[' then bracketed? cs
  else if cs.any isForbidden then none
  else some (String.ofList (cs.flatMap (escape .plain)))

end Uri

end Workbench
