import Workbench.Proofs.Lexeme
import Workbench.Text.LineIndex
import Mathlib.Data.List.DropRight
/-!
# Lines and characters in front of an offset

A byte offset falls between two characters, within one, or past the end
(`Place`). Between two characters the position counts the line breaks in
front and the characters of the last line in front; within a character it
counts the bytes of that line (`locate_between`, `locate_within`). The table
of line starts gives the same (`LineIndex.position_eq`): the lines that start
no later than the offset are those of the text in front of it.
-/

namespace Workbench

namespace Text

variable {text front rest : List Char} {c : Char} {k n : ℕ}

/-- The text in front of its last line. -/
def aboveLast (front : List Char) : List Char := front.rdropWhile (· != '\n')

/-- The last line of a text. -/
def lastLine (front : List Char) : List Char := front.rtakeWhile (· != '\n')

theorem aboveLast_append_lastLine (front : List Char) : aboveLast front ++ lastLine front = front :=
  List.rdropWhile_append_rtakeWhile

theorem lastLine_break (front : List Char) : lastLine (front ++ ['\n']) = [] :=
  List.rtakeWhile_concat_neg _ _ _ (by simp)

theorem lastLine_concat (front : List Char) (h : c ≠ '\n') :
    lastLine (front ++ [c]) = lastLine front ++ [c] :=
  List.rtakeWhile_concat_pos _ _ _ (by simpa using h)

theorem not_mem_lastLine (front : List Char) : '\n' ∉ lastLine front := by
  intro hmem
  have hnot := List.mem_rtakeWhile_imp hmem
  simp at hnot

/-- What is above the last line ends with a line break. -/
theorem aboveLast_cases (front : List Char) :
    aboveLast front = [] ∨ ∃ init, aboveLast front = init ++ ['\n'] := by
  by_cases h : aboveLast front = []
  · exact .inl h
  · have hlast := List.rdropWhile_last_not _ front h
    refine .inr ⟨(aboveLast front).dropLast, ?_⟩
    rw [bne_iff_ne, ne_eq, not_not] at hlast
    conv_lhs => rw [← List.dropLast_append_getLast h]
    rw [← hlast]
    rfl

theorem count_aboveLast (front : List Char) : (aboveLast front).count '\n' = front.count '\n' := by
  conv_rhs => rw [← aboveLast_append_lastLine front]
  rw [List.count_append, List.count_eq_zero_of_not_mem (not_mem_lastLine front), Nat.add_zero]

/-- A character has at least one byte. -/
theorem length_le_byteLength (cs : List Char) : cs.length ≤ byteLength cs := by
  induction cs with
  | nil => exact Nat.le_refl 0
  | cons c cs ih =>
    have hpos := c.utf8Size_pos
    rw [List.length_cons, byteLength_cons]
    omega

theorem byteLength_lastLine_le (front : List Char) :
    byteLength (lastLine front) ≤ byteLength front := by
  conv_rhs => rw [← aboveLast_append_lastLine front]
  rw [byteLength_append]
  omega

/-! ## Where an offset falls -/

/-- **Where a byte offset falls** in a text. -/
inductive Place (text : List Char) : ℕ → Prop
  /-- Between two characters, or at either end. -/
  | between (front rest : List Char) : text = front ++ rest → Place text (byteLength front)
  /-- Within a character. -/
  | within (front : List Char) (c : Char) (rest : List Char) (k : ℕ) : text = front ++ c :: rest →
      0 < k → k < c.utf8Size → Place text (byteLength front + k)
  /-- Past the end. -/
  | beyond (k : ℕ) : 0 < k → Place text (byteLength text + k)

/-- The same place behind one more character. -/
theorem Place.cons (h : Place text n) (c : Char) : Place (c :: text) (c.utf8Size + n) := by
  cases h with
  | between front rest htext => exact .between (c :: front) rest (by rw [htext, List.cons_append])
  | within front d rest k htext hpos hlt =>
    rw [← Nat.add_assoc, ← byteLength_cons]
    exact .within (c :: front) d rest k (by rw [htext, List.cons_append]) hpos hlt
  | beyond k hpos =>
    rw [← Nat.add_assoc, ← byteLength_cons]
    exact .beyond k hpos

/-- **Every offset falls somewhere.** -/
theorem place (text : List Char) (n : ℕ) : Place text n := by
  induction text generalizing n with
  | nil =>
    rcases Nat.eq_zero_or_pos n with rfl | hpos
    · exact .between [] [] rfl
    · rw [← Nat.zero_add n]
      exact .beyond n hpos
  | cons c text ih =>
    rcases Nat.eq_zero_or_pos n with rfl | hpos
    · exact .between [] (c :: text) rfl
    · rcases Nat.lt_or_ge n c.utf8Size with hlt | hge
      · rw [← Nat.zero_add n]
        exact .within [] c text n rfl hpos hlt
      · rw [← Nat.add_sub_cancel' hge]
        exact (ih _).cons c

/-! ## Walking to an offset -/

/-- **The walk goes on behind a text** with its lines, and the bytes and the
characters of its last one, passed. -/
theorem locate_append_add (front tail : List Char) (n : ℕ) :
    locate (front ++ tail) (byteLength front + n) = locateFrom (front.count '\n')
      (byteLength (lastLine front)) (lastLine front).length tail n := by
  induction front using List.reverseRecOn generalizing tail n with
  | nil =>
    rw [List.nil_append, byteLength_nil, Nat.zero_add]
    rfl
  | append_singleton front c ih =>
    have hpos := c.utf8Size_pos
    rw [List.append_assoc, List.singleton_append, byteLength_append, Nat.add_assoc, ih, locateFrom,
      byteLength_cons, byteLength_nil, Nat.add_zero, if_neg (by omega), if_neg (by omega),
      Nat.add_sub_cancel_left, List.count_append]
    by_cases hc : c = '\n'
    · subst hc
      rw [if_pos rfl, lastLine_break]
      rfl
    · rw [if_neg hc, lastLine_concat front hc, byteLength_append, List.length_append,
        List.count_singleton, beq_false_of_ne hc]
      rfl

/-- **Between two characters** the lines and characters in front are counted. -/
theorem locate_between (front rest : List Char) :
    locate (front ++ rest) (byteLength front) = ⟨front.count '\n', (lastLine front).length⟩ := by
  rw [← Nat.add_zero (byteLength front), locate_append_add]
  cases rest <;> rfl

/-- **Within a character** the bytes of the line are counted. -/
theorem locate_within (front : List Char) (rest : List Char) (hpos : 0 < k) (hlt : k < c.utf8Size) :
    locate (front ++ c :: rest) (byteLength front + k) =
      ⟨front.count '\n', byteLength (lastLine front) + k⟩ := by
  rw [locate_append_add, locateFrom, if_neg (by omega), if_pos hlt]

/-- **Past the end** is the end. -/
theorem locate_beyond (text : List Char) (k : ℕ) :
    locate text (byteLength text + k) = locate text (byteLength text) := by
  have hwalk := locate_append_add text []
  rw [List.append_nil] at hwalk
  rw [hwalk k]
  exact (hwalk 0).symm

/-! ## Line starts -/

theorem behindBreaks_append (offset : ℕ) (front tail : List Char) :
    behindBreaks offset (front ++ tail) =
      behindBreaks offset front ++ behindBreaks (offset + byteLength front) tail := by
  induction front generalizing offset with
  | nil => rfl
  | cons c front ih =>
    rw [List.cons_append, behindBreaks, behindBreaks, byteLength_cons]
    by_cases hc : c = '\n'
    · subst hc
      rw [if_pos rfl, if_pos rfl, ih, List.cons_append, ← Nat.add_assoc]
      rfl
    · rw [if_neg hc, if_neg hc, ih, Nat.add_assoc]

theorem length_behindBreaks (offset : ℕ) (cs : List Char) :
    (behindBreaks offset cs).length = cs.count '\n' := by
  induction cs generalizing offset with
  | nil => rfl
  | cons c cs ih =>
    rw [behindBreaks, List.count_cons]
    by_cases hc : c = '\n'
    · rw [if_pos hc, List.length_cons, ih, beq_iff_eq.mpr hc]
      rfl
    · rw [if_neg hc, ih, beq_false_of_ne hc]
      rfl

/-- A line starts behind its text's start, and not past its end. -/
theorem bounds_of_mem_behindBreaks {offset start : ℕ} {cs : List Char}
    (h : start ∈ behindBreaks offset cs) : offset < start ∧ start ≤ offset + byteLength cs := by
  induction cs generalizing offset with
  | nil => cases h
  | cons c cs ih =>
    have hpos := c.utf8Size_pos
    rw [byteLength_cons]
    rw [behindBreaks] at h
    split at h
    · rcases List.mem_cons.mp h with rfl | h
      · omega
      · have hbounds := ih h
        omega
    · have hbounds := ih h
      omega

/-- No line starts within a character or right behind its start. -/
theorem lt_of_mem_behindBreaks {offset start : ℕ} {cs : List Char} (hlt : k < c.utf8Size)
    (h : start ∈ behindBreaks offset (c :: cs)) : offset + k < start := by
  rw [behindBreaks] at h
  split at h
  next hc =>
    have hk : k = 0 := by
      rw [hc] at hlt
      exact Nat.lt_one_iff.mp hlt
    have hbounds : offset < start := by
      rcases List.mem_cons.mp h with rfl | h
      · exact Nat.lt_succ_self offset
      · exact Nat.lt_of_succ_lt (bounds_of_mem_behindBreaks h).1
    omega
  next =>
    have hbounds := (bounds_of_mem_behindBreaks h).1
    omega

/-- No character ends within another one. -/
theorem splitBytes?_within (front rest : List Char) (hpos : 0 < k) (hlt : k < c.utf8Size) :
    splitBytes? (front ++ c :: rest) (byteLength front + k) = none := by
  induction front with
  | nil =>
    obtain ⟨m, rfl⟩ : ∃ m, k = m + 1 := ⟨k - 1, by omega⟩
    rw [byteLength_nil, Nat.zero_add, List.nil_append, splitBytes?, if_neg (by omega)]
  | cons d front ih =>
    obtain ⟨m, hm⟩ : ∃ m, byteLength (d :: front) + k = m + 1 :=
      ⟨byteLength (d :: front) + k - 1, by omega⟩
    have hlength : d.utf8Size ≤ m + 1 ∧ m + 1 - d.utf8Size = byteLength front + k := by
      rw [byteLength_cons] at hm
      omega
    rw [hm, List.cons_append, splitBytes?, if_pos hlength.1, hlength.2, ih]
    rfl

end Text

open Text

namespace LineIndex

variable {text front tail : List Char} {c : Char} {n k : ℕ}

theorem starts_append (front tail : List Char) :
    (ofText (front ++ tail)).starts =
      (0 :: behindBreaks 0 front) ++ behindBreaks (byteLength front) tail := by
  rw [ofText, behindBreaks_append, Nat.zero_add]
  rfl

/-- **The line of an offset**: as many lines start up to it as there are line
breaks in front, and the first. -/
theorem findIdx_starts (hle : byteLength front ≤ n)
    (hlt : ∀ start ∈ behindBreaks (byteLength front) tail, n < start) :
    (ofText (front ++ tail)).starts.findIdx (n < ·) - 1 = front.count '\n' := by
  have hbefore :
      (0 :: behindBreaks 0 front).findIdx (n < ·) = (0 :: behindBreaks 0 front).length := by
    refine List.findIdx_eq_length_of_false fun start hstart => decide_eq_false ?_
    rcases List.mem_cons.mp hstart with rfl | hstart
    · exact Nat.not_lt_zero n
    · have hbounds := (bounds_of_mem_behindBreaks hstart).2
      omega
  have hbehind : (behindBreaks (byteLength front) tail).findIdx (n < ·) = 0 := by
    cases hstarts : behindBreaks (byteLength front) tail with
    | nil => rfl
    | cons start starts =>
      rw [hstarts] at hlt
      rw [List.findIdx_cons, decide_eq_true (hlt start List.mem_cons_self)]
      rfl
  rw [starts_append, List.findIdx_append, hbefore, if_neg (Nat.lt_irrefl _), hbehind, Nat.zero_add,
    List.length_cons, Nat.add_sub_cancel, length_behindBreaks]

/-- **The start of that line.** -/
theorem getD_starts (front tail : List Char) :
    (ofText (front ++ tail)).starts.getD (front.count '\n') 0 = byteLength (aboveLast front) := by
  have hsplit : front ++ tail = aboveLast front ++ (lastLine front ++ tail) := by
    rw [← List.append_assoc, aboveLast_append_lastLine]
  rw [hsplit, starts_append, ← count_aboveLast]
  rcases aboveLast_cases front with hnil | ⟨init, hinit⟩
  · rw [hnil]
    rfl
  · have hbreak : 0 :: behindBreaks 0 (init ++ ['\n']) =
        (0 :: behindBreaks 0 init) ++ [byteLength init + 1] := by
      rw [behindBreaks_append, Nat.zero_add]
      rfl
    have hcount : (init ++ ['\n']).count '\n' = (0 :: behindBreaks 0 init).length := by
      rw [List.count_append, List.length_cons, length_behindBreaks]
      rfl
    rw [hinit, hbreak, hcount, List.getD_eq_getElem?_getD, List.append_assoc,
      List.getElem?_append_right (Nat.le_refl _), Nat.sub_self, byteLength_append]
    rfl

/-- Up to a character boundary the line is cut out. -/
theorem slice?_between (front rest : List Char) :
    slice? (front ++ rest) (byteLength (aboveLast front)) (byteLength front) =
      some (lastLine front) := by
  have hslice := slice?_append (aboveLast front) (lastLine front) rest
  rwa [← List.append_assoc, ← byteLength_append, aboveLast_append_lastLine] at hslice

/-- Within a character it is not. -/
theorem slice?_within (front rest : List Char) (hpos : 0 < k) (hlt : k < c.utf8Size) :
    slice? (front ++ c :: rest) (byteLength (aboveLast front)) (byteLength front + k) = none := by
  have hlength : byteLength front + k =
      byteLength (aboveLast front) + (byteLength (lastLine front) + k) := by
    rw [← Nat.add_assoc, ← byteLength_append, aboveLast_append_lastLine]
  have hsplit : front ++ c :: rest = aboveLast front ++ (lastLine front ++ c :: rest) := by
    rw [← List.append_assoc, aboveLast_append_lastLine]
  rw [slice?, hlength, hsplit, if_pos (Nat.le_add_right _ _), splitBytes?_append, Option.bind_some,
    Nat.add_sub_cancel_left]
  show (splitBytes? (lastLine front ++ c :: rest) (byteLength (lastLine front) + k)).map Prod.fst =
    none
  rw [splitBytes?_within _ _ hpos hlt]
  rfl

/-- The line of an offset and what is counted in it. -/
theorem position_append (hle : byteLength front ≤ n) (hin : n ≤ byteLength (front ++ tail))
    (hlt : ∀ start ∈ behindBreaks (byteLength front) tail, n < start) :
    (ofText (front ++ tail)).position (front ++ tail) n = ⟨front.count '\n' % UInt32.size,
      ((slice? (front ++ tail) (byteLength (aboveLast front)) n).map List.length).getD
        (n - byteLength (aboveLast front)) % UInt32.size⟩ := by
  rw [position, Nat.min_eq_left hin, findIdx_starts hle hlt, getD_starts]

/-- **The table gives the position that the walk does**, in 32 bits. -/
theorem position_eq_mod (text : List Char) (n : ℕ) :
    (ofText text).position text n =
      ⟨(locate text n).line % UInt32.size, (locate text n).character % UInt32.size⟩ := by
  have hbetween : ∀ front rest, text = front ++ rest →
      (ofText text).position text (byteLength front) =
        ⟨(locate text (byteLength front)).line % UInt32.size,
          (locate text (byteLength front)).character % UInt32.size⟩ := by
    rintro front rest rfl
    rw [position_append (Nat.le_refl _) (by rw [byteLength_append]; omega)
      fun start hstart => (bounds_of_mem_behindBreaks hstart).1, slice?_between, locate_between,
      Option.map_some, Option.getD_some]
  cases place text n with
  | between front rest htext => exact hbetween front rest htext
  | within front c rest k htext hpos hlt =>
    subst htext
    have habove : byteLength front + k - byteLength (aboveLast front) =
        byteLength (lastLine front) + k := by
      have hlength := byteLength_append (aboveLast front) (lastLine front)
      rw [aboveLast_append_lastLine] at hlength
      omega
    rw [position_append (Nat.le_add_right _ _) (by rw [byteLength_append, byteLength_cons]; omega)
      fun start hstart => lt_of_mem_behindBreaks hlt hstart, slice?_within front rest hpos hlt,
      locate_within front rest hpos hlt, habove, Option.map_none, Option.getD_none]
  | beyond k hpos =>
    have hend : (ofText text).position text (byteLength text + k) =
        (ofText text).position text (byteLength text) := by
      rw [position, position, Nat.min_self, Nat.min_eq_right (Nat.le_add_right _ _)]
    rw [hend, locate_beyond, hbetween text [] (List.append_nil text).symm]

end LineIndex

/-- Neither lines nor characters outnumber the bytes. -/
theorem Text.locate_le_byteLength (text : List Char) (n : ℕ) :
    (locate text n).line ≤ byteLength text ∧ (locate text n).character ≤ byteLength text := by
  have hbetween : ∀ front rest, text = front ++ rest →
      (locate text (byteLength front)).line ≤ byteLength text ∧
        (locate text (byteLength front)).character ≤ byteLength text := by
    rintro front rest rfl
    have hlines := List.count_le_length (a := '\n') (l := front)
    have hlength := length_le_byteLength front
    have hline := length_le_byteLength (lastLine front)
    have hlast := byteLength_lastLine_le front
    rw [locate_between, byteLength_append]
    show front.count '\n' ≤ _ ∧ (lastLine front).length ≤ _
    omega
  cases place text n with
  | between front rest htext => exact hbetween front rest htext
  | within front c rest k htext hpos hlt =>
    subst htext
    have hlines := List.count_le_length (a := '\n') (l := front)
    have hlength := length_le_byteLength front
    have hlast := byteLength_lastLine_le front
    rw [locate_within front rest hpos hlt, byteLength_append, byteLength_cons]
    show front.count '\n' ≤ _ ∧ byteLength (lastLine front) + k ≤ _
    omega
  | beyond k hpos =>
    rw [locate_beyond]
    exact hbetween text [] (List.append_nil text).symm

/-- **The table gives the position that the walk does**, for texts of less than
4 GiB. -/
theorem LineIndex.position_eq {text : List Char} (hsize : byteLength text < UInt32.size) (n : ℕ) :
    (ofText text).position text n = locate text n := by
  have hle := locate_le_byteLength text n
  rw [position_eq_mod, Nat.mod_eq_of_lt (by omega), Nat.mod_eq_of_lt (by omega)]

/-- And so the ranges. -/
theorem LineIndex.range_eq {text : List Char} (hsize : byteLength text < UInt32.size)
    (offset length : ℕ) : (ofText text).range text offset length = rangeAt text offset length := by
  rw [range, position_eq hsize, position_eq hsize, rangeAt]

end Workbench
