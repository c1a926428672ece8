/-!
# Byte offsets into text

Offsets count the bytes of the UTF-8 form, while text is read character by
character. This file measures characters in bytes and cuts text at byte
offsets; a cut inside a character is refused.
-/

namespace Workbench

namespace Text

/-- The number of bytes the characters take. -/
def byteLength : List Char → Nat
  | [] => 0
  | c :: cs => c.utf8Size + byteLength cs

@[simp] theorem byteLength_nil : byteLength [] = 0 := rfl

@[simp] theorem byteLength_cons (c : Char) (cs : List Char) :
    byteLength (c :: cs) = c.utf8Size + byteLength cs := rfl

/-- Lengths in bytes add up. -/
@[simp] theorem byteLength_append (l m : List Char) :
    byteLength (l ++ m) = byteLength l + byteLength m := by
  induction l with
  | nil => simp
  | cons c cs ih => simp [ih, Nat.add_assoc]

/-- The characters before and after the byte offset `n`, if a character ends
there. -/
def splitBytes? : List Char → Nat → Option (List Char × List Char)
  | cs, 0 => some ([], cs)
  | [], _ + 1 => none
  | c :: cs, n + 1 =>
    if c.utf8Size ≤ n + 1 then
      (splitBytes? cs (n + 1 - c.utf8Size)).map fun (taken, rest) => (c :: taken, rest)
    else none

/-- **A split loses nothing**, and the first part has the length asked for. -/
theorem splitBytes?_eq_some {cs taken rest : List Char} {n : Nat}
    (h : splitBytes? cs n = some (taken, rest)) : cs = taken ++ rest ∧ byteLength taken = n := by
  fun_induction splitBytes? cs n generalizing taken rest with
  | case1 cs => simp_all
  | case2 n => simp at h
  | case3 c cs n hle ih =>
    obtain ⟨⟨t, r⟩, hs, heq⟩ := Option.map_eq_some_iff.1 h
    obtain ⟨rfl, rfl⟩ := Prod.mk.inj heq
    obtain ⟨hcs, hlen⟩ := ih hs
    refine ⟨by simp [← hcs], ?_⟩
    simp only [byteLength_cons, hlen]
    omega
  | case4 c cs n hle => simp at h

/-- The characters between two byte offsets, if both are character
boundaries in order. -/
def slice? (cs : List Char) (start stop : Nat) : Option (List Char) :=
  if start ≤ stop then
    (splitBytes? cs start).bind fun (_, rest) =>
      (splitBytes? rest (stop - start)).map Prod.fst
  else none

end Text

end Workbench
