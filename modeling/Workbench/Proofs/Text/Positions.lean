import Workbench.Proofs.Text.Lines
import Workbench.Text.Split
/-!
# The order of positions

Character boundaries have different positions, in the order of the text
(`LineIndex.position_exact`). An offset within a character is another matter:
it has bytes counted in place of characters, so that its position may lie
behind that of a later boundary of its line. This file tells when it does
(`Reversed`), and in which texts it never does: those whose lines take at most
one byte more than they have characters
(`LineIndex.position_lt_iff_reversed`).
-/

namespace Workbench

open Text

/-! ## Comparing positions -/

namespace Position

variable {p q : Position} {front mid : List Char} {x y : ℕ}

theorem not_lt : ¬ p < q ↔ q ≤ p := by
  show ¬ (p.line < q.line ∨ p.line = q.line ∧ p.character < q.character) ↔
    (q.line < p.line ∨ q.line = p.line ∧ q.character ≤ p.character)
  omega

theorem lt_irrefl (p : Position) : ¬ p < p := by
  show ¬ (p.line < p.line ∨ p.line = p.line ∧ p.character < p.character)
  omega

theorem lt_asymm (h : p < q) : ¬ q < p := by
  change p.line < q.line ∨ p.line = q.line ∧ p.character < q.character at h
  show ¬ (q.line < p.line ∨ q.line = p.line ∧ q.character < p.character)
  omega

theorem count_lt_of_mem (front : List Char) (h : '\n' ∈ mid) :
    front.count '\n' < (front ++ mid).count '\n' := by
  have hpos := List.count_pos_iff.mpr h
  rw [List.count_append]
  omega

theorem count_eq_of_not_mem (h : '\n' ∉ mid) : (front ++ mid).count '\n' = front.count '\n' := by
  rw [List.count_append, List.count_eq_zero_of_not_mem h, Nat.add_zero]

/-- A place further on comes later if a line break lies between, or if more is
counted in the line. -/
theorem lt_append_iff : (⟨front.count '\n', x⟩ : Position) < ⟨(front ++ mid).count '\n', y⟩ ↔
    '\n' ∈ mid ∨ x < y := by
  show front.count '\n' < (front ++ mid).count '\n' ∨
    front.count '\n' = (front ++ mid).count '\n' ∧ x < y ↔ _
  by_cases h : '\n' ∈ mid
  · exact iff_of_true (.inl (count_lt_of_mem front h)) (.inl h)
  · rw [count_eq_of_not_mem h]
    simp [h]

/-- It comes earlier only within the line. -/
theorem append_lt_iff : (⟨(front ++ mid).count '\n', y⟩ : Position) < ⟨front.count '\n', x⟩ ↔
    '\n' ∉ mid ∧ y < x := by
  show (front ++ mid).count '\n' < front.count '\n' ∨
    (front ++ mid).count '\n' = front.count '\n' ∧ y < x ↔ _
  by_cases h : '\n' ∈ mid
  · have hlt := count_lt_of_mem front h
    refine iff_of_false ?_ fun hnot => hnot.1 h
    omega
  · rw [count_eq_of_not_mem h]
    simp [h]

end Position

namespace Text

variable {text front front' mid rest rest' : List Char} {c : Char} {a b k : ℕ}

/-- Without a line break the last line goes on. -/
theorem lastLine_append (front : List Char) (h : '\n' ∉ mid) :
    lastLine (front ++ mid) = lastLine front ++ mid := by
  induction mid using List.reverseRecOn with
  | nil => rw [List.append_nil, List.append_nil]
  | append_singleton mid c ih =>
    rw [List.mem_append, List.mem_singleton, not_or] at h
    rw [← List.append_assoc, lastLine_concat _ (Ne.symm h.2), ih h.1, List.append_assoc]

/-- Of two beginnings of a text the longer one goes on with the other's rest. -/
theorem exists_append_of_byteLength_le (h : front ++ rest = front' ++ rest')
    (hle : byteLength front ≤ byteLength front') :
    ∃ mid, front' = front ++ mid ∧ rest = mid ++ rest' := by
  rcases List.append_eq_append_iff.mp h with ⟨mid, hfront, hrest⟩ | ⟨mid, hfront, hrest⟩
  · exact ⟨mid, hfront, hrest⟩
  · have hnil : mid = [] := by
      have hlength := length_le_byteLength mid
      rw [hfront, byteLength_append] at hle
      exact List.eq_nil_of_length_eq_zero (by omega)
    exact ⟨[], by rw [hfront, hnil, List.append_nil, List.append_nil], by rw [hrest, hnil]; rfl⟩

/-! ## Character boundaries -/

/-- **A character boundary** of a text. -/
def IsBoundary (text : List Char) (n : ℕ) : Prop :=
  ∃ front rest, text = front ++ rest ∧ byteLength front = n

/-- A boundary is where the text can be cut. -/
theorem isBoundary_iff {n : ℕ} : IsBoundary text n ↔ (splitBytes? text n).isSome = true := by
  rw [Option.isSome_iff_exists]
  constructor
  · rintro ⟨front, rest, rfl, rfl⟩
    exact ⟨_, splitBytes?_append front rest⟩
  · rintro ⟨⟨front, rest⟩, h⟩
    obtain ⟨htext, hlength⟩ := splitBytes?_eq_some h
    exact ⟨front, rest, htext, hlength⟩

instance (text : List Char) (n : ℕ) : Decidable (IsBoundary text n) :=
  decidable_of_iff _ isBoundary_iff.symm

theorem not_isBoundary_within (htext : text = front ++ c :: rest) (hpos : 0 < k)
    (hlt : k < c.utf8Size) : ¬ IsBoundary text (byteLength front + k) := by
  rw [isBoundary_iff, htext, splitBytes?_within front rest hpos hlt]
  exact Bool.false_ne_true

/-- **A later boundary has a later position.** -/
theorem locate_lt_of_boundaries (ha : IsBoundary text a) (hb : IsBoundary text b) (hlt : a < b) :
    locate text a < locate text b := by
  obtain ⟨front, rest, rfl, rfl⟩ := ha
  obtain ⟨front', rest', htext, rfl⟩ := hb
  obtain ⟨mid, rfl, rfl⟩ := exists_append_of_byteLength_le htext (Nat.le_of_lt hlt)
  rw [locate_between, htext, locate_between, Position.lt_append_iff]
  by_cases hmid : '\n' ∈ mid
  · exact .inl hmid
  · refine .inr ?_
    have hne : mid ≠ [] := by
      rintro rfl
      rw [List.append_nil] at hlt
      exact Nat.lt_irrefl _ hlt
    rw [lastLine_append front hmid, List.length_append]
    exact Nat.lt_add_of_pos_right (List.length_pos_iff.mpr hne)

end Text

/-- **Positions are exact on character boundaries.** The line is the number of
line breaks in front, the character the number of characters since the last of
them. Past the end stands the end, and positions order boundaries as the text
does, so that different boundaries have different positions. This is so of the
table of line starts and of the walk through the text alike. -/
theorem LineIndex.position_exact {text : List Char} (hsize : byteLength text < UInt32.size) :
    (∀ offset, (ofText text).position text offset = locate text offset) ∧
    (∀ front rest, text = front ++ rest → (ofText text).position text (byteLength front) =
      ⟨front.count '\n', (front.rtakeWhile (· != '\n')).length⟩) ∧
    (∀ offset, byteLength text ≤ offset →
      (ofText text).position text offset = (ofText text).position text (byteLength text)) ∧
    ∀ a b, IsBoundary text a → IsBoundary text b →
      ((ofText text).position text a < (ofText text).position text b ↔ a < b) ∧
      ((ofText text).position text a = (ofText text).position text b ↔ a = b) := by
  have heq := position_eq hsize
  simp only [heq]
  refine ⟨fun _ => trivial, ?_, ?_, fun a b ha hb => ?_⟩
  · rintro front rest rfl
    exact locate_between front rest
  · intro offset hle
    rw [← Nat.add_sub_cancel' hle]
    exact locate_beyond text _
  · rcases Nat.lt_trichotomy a b with hlt | rfl | hlt
    · have hbefore := locate_lt_of_boundaries ha hb hlt
      refine ⟨iff_of_true hbefore hlt, iff_of_false ?_ (Nat.ne_of_lt hlt)⟩
      intro hsame
      rw [hsame] at hbefore
      exact Position.lt_irrefl _ hbefore
    · exact ⟨iff_of_false (Position.lt_irrefl _) (Nat.lt_irrefl a), iff_of_true rfl rfl⟩
    · have hbefore := locate_lt_of_boundaries hb ha hlt
      refine ⟨iff_of_false (Position.lt_asymm hbefore) (Nat.lt_asymm hlt),
        iff_of_false ?_ (Nat.ne_of_gt hlt)⟩
      intro hsame
      rw [hsame] at hbefore
      exact Position.lt_irrefl _ hbefore

/-- Two bytes, a line break, one byte and three bytes: the line break and each
character count once. -/
theorem LineIndex.position_exact_accents :
    byteLength ['é', '\n', 'x', '€'] < UInt32.size ∧
    (ofText ['é', '\n', 'x', '€']).position ['é', '\n', 'x', '€'] 3 = ⟨1, 0⟩ ∧
    (ofText ['é', '\n', 'x', '€']).position ['é', '\n', 'x', '€'] 99 = ⟨1, 2⟩ ∧
    (ofText ['é', '\n', 'x', '€']).position ['é', '\n', 'x', '€'] 2 <
      (ofText ['é', '\n', 'x', '€']).position ['é', '\n', 'x', '€'] 3 := by
  have hsize : byteLength ['é', '\n', 'x', '€'] < UInt32.size := by decide
  obtain ⟨-, hexact, hpast, horder⟩ := LineIndex.position_exact hsize
  refine ⟨hsize, hexact ['é', '\n'] ['x', '€'] rfl, ?_, ?_⟩
  · rw [hpast 99 (by decide)]
    exact hexact ['é', '\n', 'x', '€'] [] rfl
  · exact (horder 2 3 (by decide) (by decide)).1.mpr (by decide)

/-! ## Offsets within characters -/

namespace Text

variable {text front mid rest : List Char} {c : Char} {a b k n : ℕ}

/-- **A later offset with an earlier position.** `a` lies `k` bytes into the
character `c`, and `b`, or the end if `b` is past it, is a boundary further on
in the same line, with fewer characters of the line in front of it than there
are bytes of the line in front of `a`. -/
inductive Reversed (text : List Char) (a b : ℕ) : Prop
  | mk (front : List Char) (c : Char) (mid rest : List Char) (k : ℕ) :
      text = front ++ c :: mid ++ rest → '\n' ∉ mid → 0 < k → k < c.utf8Size →
      a = byteLength front + k → min b (byteLength text) = byteLength (front ++ c :: mid) →
      (lastLine front).length + 1 + mid.length < byteLength (lastLine front) + k → Reversed text a b

/-- An offset past the end counts as the end. -/
theorem locate_min (text : List Char) (n : ℕ) :
    locate text (min n (byteLength text)) = locate text n := by
  rcases Nat.le_total n (byteLength text) with hle | hle
  · rw [Nat.min_eq_left hle]
  · rw [Nat.min_eq_right hle, ← Nat.add_sub_cancel' hle, locate_beyond]

/-- A line break has one byte, and nothing lies within it. -/
theorem ne_break_of_within (hpos : 0 < k) (hlt : k < c.utf8Size) : c ≠ '\n' := by
  rintro rfl
  have hone : Char.utf8Size '\n' = 1 := rfl
  omega

/-- A boundary up to an offset within a character lies in front of the
character. -/
theorem byteLength_le_of_within {front' rest' : List Char}
    (h : front ++ rest = front' ++ c :: rest')
    (hlt : k < c.utf8Size) (hle : byteLength front ≤ byteLength front' + k) :
    byteLength front ≤ byteLength front' := by
  by_contra hgt
  have hinside := not_isBoundary_within (k := byteLength front - byteLength front') h
    (by omega) (by omega)
  rw [Nat.add_sub_cancel' (by omega)] at hinside
  exact hinside ⟨front, rest, rfl, rfl⟩

/-- The position of a boundary of a text. -/
theorem locate_of_between (htext : text = front ++ rest) :
    locate text (byteLength front) = ⟨front.count '\n', (lastLine front).length⟩ := by
  rw [htext]
  exact locate_between front rest

/-- The position within a character of a text. -/
theorem locate_of_within (htext : text = front ++ c :: rest) (hpos : 0 < k) (hlt : k < c.utf8Size) :
    locate text (byteLength front + k) = ⟨front.count '\n', byteLength (lastLine front) + k⟩ := by
  rw [htext]
  exact locate_within front rest hpos hlt

/-- **No later offset has an earlier position than a boundary.** -/
theorem locate_le_of_boundary (ha : IsBoundary text a) (hle : a ≤ b) (hin : b ≤ byteLength text) :
    locate text a ≤ locate text b := by
  obtain ⟨front, rest, htext, rfl⟩ := ha
  have hfront := locate_of_between htext
  rw [← Position.not_lt, hfront]
  cases place text b with
  | between front' rest' htext' =>
    obtain ⟨mid, rfl, rfl⟩ := exists_append_of_byteLength_le (htext.symm.trans htext') hle
    rw [locate_of_between htext', Position.append_lt_iff, not_and]
    intro hmid
    rw [lastLine_append front hmid, List.length_append]
    omega
  | within front' c rest' k htext' hpos hlt =>
    have hstart := byteLength_le_of_within (htext.symm.trans htext') hlt hle
    obtain ⟨mid, rfl, rfl⟩ := exists_append_of_byteLength_le (htext.symm.trans htext') hstart
    rw [locate_of_within htext' hpos hlt, Position.append_lt_iff, not_and]
    intro hmid
    have hline := length_le_byteLength (lastLine front)
    rw [lastLine_append front hmid, byteLength_append]
    omega
  | beyond k hpos => omega

/-- **Within characters the bytes are counted**, and these grow with the offset. -/
theorem locate_le_of_within {front' rest' : List Char} {c' : Char} {k' : ℕ}
    (htext : text = front ++ c :: rest) (hpos : 0 < k) (hlt : k < c.utf8Size)
    (htext' : text = front' ++ c' :: rest') (hpos' : 0 < k') (hlt' : k' < c'.utf8Size)
    (hle : byteLength front + k ≤ byteLength front' + k') :
    locate text (byteLength front + k) ≤ locate text (byteLength front' + k') := by
  have hsame := htext.symm.trans htext'
  have hstart := byteLength_le_of_within hsame hlt' (by omega)
  obtain ⟨mid, rfl, -⟩ := exists_append_of_byteLength_le hsame hstart
  rw [← Position.not_lt, locate_of_within htext hpos hlt, locate_of_within htext' hpos' hlt',
    Position.append_lt_iff, not_and]
  intro hmid
  rw [byteLength_append] at hle
  rw [lastLine_append front hmid, byteLength_append]
  omega

/-- The position behind a character and what follows it in the line, and that
of an offset within the character. -/
theorem locate_lt_iff_of_within {front' rest' : List Char} (htext : text = front ++ c :: rest)
    (hpos : 0 < k) (hlt : k < c.utf8Size) (htext' : text = front' ++ rest')
    (hle : byteLength front + k ≤ byteLength front') :
    locate text (byteLength front') < locate text (byteLength front + k) ↔
      ∃ mid, front' = front ++ c :: mid ∧ '\n' ∉ mid ∧
        (lastLine front).length + 1 + mid.length < byteLength (lastLine front) + k := by
  obtain ⟨mid, rfl, hrest⟩ :=
    exists_append_of_byteLength_le (htext.symm.trans htext') (Nat.le_trans (Nat.le_add_right _ _) hle)
  cases mid with
  | nil =>
    rw [List.append_nil] at hle
    omega
  | cons d mid =>
    obtain ⟨rfl, rfl⟩ := List.cons.inj hrest
    have hmem : '\n' ∈ c :: mid ↔ '\n' ∈ mid := by
      rw [List.mem_cons, or_iff_right (ne_break_of_within hpos hlt).symm]
    rw [locate_of_within htext hpos hlt, locate_of_between htext', Position.append_lt_iff, hmem]
    have hlength : '\n' ∉ mid → (lastLine (front ++ c :: mid)).length =
        (lastLine front).length + 1 + mid.length := by
      intro hmid
      rw [lastLine_append front (hmem.not.mpr hmid), List.length_append, List.length_cons]
      omega
    constructor
    · rintro ⟨hmid, hfewer⟩
      exact ⟨mid, rfl, hmid, hlength hmid ▸ hfewer⟩
    · rintro ⟨mid', hfront, hmid, hfewer⟩
      obtain ⟨-, rfl⟩ := List.cons.inj (List.append_cancel_left hfront)
      exact ⟨hmid, (hlength hmid).symm ▸ hfewer⟩

/-- **The only reversals** are those of offsets within a character and later
boundaries of its line. -/
theorem locate_lt_iff_reversed (hle : a ≤ b) :
    locate text b < locate text a ↔ Reversed text a b := by
  constructor
  · intro hlt
    rw [← locate_min text b] at hlt
    cases place text a with
    | between front rest htext =>
      have hin : byteLength front ≤ byteLength text := by
        rw [htext, byteLength_append]
        omega
      -- from a boundary on, no position goes back
      have hnot := locate_le_of_boundary ⟨front, rest, htext, rfl⟩ (Nat.le_min.mpr ⟨hle, hin⟩)
        (Nat.min_le_right b _)
      exact absurd hlt (Position.not_lt.mpr hnot)
    | within front c rest k htext hpos hk =>
      have hin : byteLength front + k ≤ min b (byteLength text) := by
        refine Nat.le_min.mpr ⟨hle, ?_⟩
        rw [htext, byteLength_append, byteLength_cons]
        omega
      -- a later offset is a boundary that may come before, or lies within a character itself
      generalize hn : min b (byteLength text) = n at hlt hin
      cases place text n with
      | between front' rest' htext' =>
        obtain ⟨mid, rfl, hmid, hfewer⟩ :=
          (locate_lt_iff_of_within htext hpos hk htext' hin).mp hlt
        exact .mk front c mid rest' k htext' hmid hpos hk rfl hn hfewer
      | within front' c' rest' k' htext' hpos' hk' =>
        have hnot := locate_le_of_within htext hpos hk htext' hpos' hk' hin
        exact absurd hlt (Position.not_lt.mpr hnot)
      | beyond k' hpos' => omega
    | beyond k hpos =>
      rw [Nat.min_eq_right (by omega), locate_beyond] at hlt
      exact absurd hlt (Position.lt_irrefl _)
  · rintro ⟨front, c, mid, rest, k, htext, hmid, hpos, hk, rfl, hb, hfewer⟩
    have hbehind : byteLength front + k ≤ byteLength (front ++ c :: mid) := by
      rw [byteLength_append, byteLength_cons]
      omega
    have hwithin : text = front ++ c :: (mid ++ rest) := by simp [htext]
    rw [← locate_min text b, hb, locate_lt_iff_of_within hwithin hpos hk htext hbehind]
    exact ⟨mid, rfl, hmid, hfewer⟩

/-! ## Lines of a text -/

section Lines

variable {sep : Char} {cs piece : List Char} {pieces : List (List Char)}

theorem exists_splitAt_eq (sep : Char) (cs : List Char) :
    ∃ piece pieces, splitAt sep cs = piece :: pieces :=
  List.exists_cons_of_ne_nil (splitAt_ne_nil sep cs)

/-- The first piece is where the text starts, and the others are in it. -/
theorem pieces_within (h : splitAt sep cs = piece :: pieces) :
    piece <+: cs ∧ ∀ p ∈ pieces, p <:+: cs := by
  induction cs generalizing piece pieces with
  | nil =>
    cases h
    exact ⟨List.nil_prefix, nofun⟩
  | cons c cs ih =>
    obtain ⟨first, others, hrest⟩ := exists_splitAt_eq sep cs
    obtain ⟨hfirst, hothers⟩ := ih hrest
    by_cases hc : c = sep
    · rw [hc, splitAt_self, hrest] at h
      cases h
      refine ⟨List.nil_prefix, fun p hp => List.infix_cons ?_⟩
      rcases List.mem_cons.mp hp with rfl | hp
      · exact hfirst.isInfix
      · exact hothers p hp
    · rw [splitAt_cons_of_ne hc hrest] at h
      cases h
      exact ⟨List.cons_prefix_cons.mpr ⟨rfl, hfirst⟩, fun p hp => List.infix_cons (hothers p hp)⟩

theorem infix_of_mem_splitAt (h : piece ∈ splitAt sep cs) : piece <:+: cs := by
  obtain ⟨first, others, hsplit⟩ := exists_splitAt_eq sep cs
  obtain ⟨hfirst, hothers⟩ := pieces_within hsplit
  rw [hsplit] at h
  rcases List.mem_cons.mp h with rfl | h
  · exact hfirst.isInfix
  · exact hothers piece h

theorem not_mem_of_mem_splitAt (h : piece ∈ splitAt sep cs) : sep ∉ piece := by
  induction cs generalizing piece with
  | nil =>
    rw [List.mem_singleton.mp h]
    exact List.not_mem_nil
  | cons c cs ih =>
    obtain ⟨first, others, hrest⟩ := exists_splitAt_eq sep cs
    rw [hrest] at ih
    by_cases hc : c = sep
    · rw [hc, splitAt_self, hrest] at h
      rcases List.mem_cons.mp h with rfl | h
      · exact List.not_mem_nil
      · exact ih h
    · rw [splitAt_cons_of_ne hc hrest] at h
      rcases List.mem_cons.mp h with rfl | h
      · rw [List.mem_cons, not_or]
        exact ⟨Ne.symm hc, ih List.mem_cons_self⟩
      · exact ih (List.mem_cons_of_mem _ h)

/-- What has no separator in it starts the first piece. -/
theorem exists_splitAt_append (hpiece : sep ∉ piece) (rest : List Char) :
    ∃ more others, splitAt sep (piece ++ rest) = (piece ++ more) :: others := by
  induction piece with
  | nil => exact exists_splitAt_eq sep rest
  | cons c piece ih =>
    rw [List.mem_cons, not_or] at hpiece
    obtain ⟨more, others, hrest⟩ := ih hpiece.2
    exact ⟨more, others, splitAt_cons_of_ne (Ne.symm hpiece.1) hrest⟩

/-- What has no separator in it lies within one piece. -/
theorem exists_mem_splitAt (hpiece : sep ∉ piece) (h : piece <:+: cs) :
    ∃ line ∈ splitAt sep cs, piece <:+: line := by
  obtain ⟨front, rest, rfl⟩ := h
  induction front with
  | nil =>
    obtain ⟨more, others, hsplit⟩ := exists_splitAt_append hpiece rest
    exact ⟨piece ++ more, hsplit ▸ List.mem_cons_self, (List.prefix_append piece more).isInfix⟩
  | cons c front ih =>
    obtain ⟨line, hline, hin⟩ := ih
    obtain ⟨first, others, hrest⟩ := exists_splitAt_eq sep (front ++ piece ++ rest)
    rw [List.cons_append, List.cons_append]
    by_cases hc : c = sep
    · exact ⟨line, by rw [hc, splitAt_self]; exact List.mem_cons_of_mem _ hline, hin⟩
    · rw [splitAt_cons_of_ne hc hrest]
      rw [hrest] at hline
      rcases List.mem_cons.mp hline with rfl | hline
      · exact ⟨c :: line, List.mem_cons_self, List.infix_cons hin⟩
      · exact ⟨line, List.mem_cons_of_mem _ hline, hin⟩

end Lines

/-- The bytes that characters take beyond one each grow with the text. -/
theorem byteLength_add_length_le {line : List Char} (h : mid <:+: line) :
    byteLength mid + line.length ≤ byteLength line + mid.length := by
  obtain ⟨front, rest, rfl⟩ := h
  have hfront := length_le_byteLength front
  have hrest := length_le_byteLength rest
  rw [byteLength_append, byteLength_append, List.length_append, List.length_append]
  omega

/-- A text with two bytes more than characters has a character of several bytes
at which it comes to that. -/
theorem exists_wide (h : text.length + 2 ≤ byteLength text) :
    ∃ front c mid, text = front ++ c :: mid ∧ 1 < c.utf8Size ∧
      front.length + 3 ≤ byteLength front + c.utf8Size := by
  induction text using List.reverseRecOn with
  | nil =>
    rw [List.length_nil, byteLength_nil] at h
    omega
  | append_singleton text c ih =>
    have hpos := c.utf8Size_pos
    have hlength := length_le_byteLength text
    rw [List.length_append, List.length_singleton, byteLength_append, byteLength_cons,
      byteLength_nil] at h
    by_cases hc : c.utf8Size = 1
    · obtain ⟨front, d, mid, rfl, hwide, hmore⟩ := ih (by omega)
      exact ⟨front, d, mid ++ [c], by simp, hwide, hmore⟩
    · exact ⟨text, c, [], rfl, by omega, by omega⟩

/-- Where a line has two bytes more than characters, positions are reversed. -/
theorem exists_reversed {line : List Char} (hin : line <:+: text) (hline : '\n' ∉ line)
    (hwide : line.length + 2 ≤ byteLength line) : ∃ a b, a ≤ b ∧ Reversed text a b := by
  obtain ⟨before, behind, rfl⟩ := hin
  obtain ⟨front, c, mid, rfl, hc, hmore⟩ := exists_wide hwide
  rw [List.mem_append, List.mem_cons, not_or, not_or] at hline
  have hlast := lastLine_append before hline.1
  have hlength := length_le_byteLength (lastLine before)
  refine ⟨byteLength (before ++ front) + (c.utf8Size - 1), byteLength (before ++ front ++ [c]), ?_,
    .mk (before ++ front) c [] (mid ++ behind) (c.utf8Size - 1) (by simp) List.not_mem_nil (by omega)
      (by omega) rfl ?_ ?_⟩
  · rw [byteLength_append _ [c], byteLength_cons, byteLength_nil]
    omega
  · refine Nat.min_eq_left ?_
    simp only [byteLength_append, byteLength_cons, byteLength_nil]
    omega
  · rw [hlast, List.length_append, byteLength_append, List.length_nil]
    omega

/-- Where positions are reversed, a line has two bytes more than characters. -/
theorem exists_line_of_reversed (h : Reversed text a b) :
    ∃ line ∈ splitAt '\n' text, line.length + 2 ≤ byteLength line := by
  obtain ⟨front, c, mid, rest, k, htext, hmid, hpos, hk, -, -, hfewer⟩ := h
  have hpiece : '\n' ∉ lastLine front ++ c :: mid := by
    rw [List.mem_append, List.mem_cons, not_or, not_or]
    exact ⟨not_mem_lastLine front, (ne_break_of_within hpos hk).symm, hmid⟩
  have hin : lastLine front ++ c :: mid <:+: text := by
    refine ⟨aboveLast front, rest, ?_⟩
    rw [htext, ← List.append_assoc, aboveLast_append_lastLine]
  obtain ⟨line, hline, hwithin⟩ := exists_mem_splitAt hpiece hin
  have hgrows := byteLength_add_length_le hwithin
  have hlength := length_le_byteLength mid
  refine ⟨line, hline, ?_⟩
  rw [byteLength_append, byteLength_cons, List.length_append, List.length_cons] at hgrows
  omega

end Text

/-- **When positions follow the offsets.** A later offset has an earlier
position exactly if the earlier offset lies within a character, and the later
one is a boundary of the same line with fewer characters in front of it than
there are bytes in front of the other; then a range ends before it starts. No
offsets of a text are so exactly if each line takes at most one byte more than
it has characters. Ranges from the walk through the text are the same. -/
theorem LineIndex.position_lt_iff_reversed {text : List Char}
    (hsize : byteLength text < UInt32.size) :
    (∀ offset length, (ofText text).range text offset length = rangeAt text offset length) ∧
    (∀ a b, a ≤ b → ((ofText text).position text b < (ofText text).position text a ↔
      Reversed text a b)) ∧
    (∀ offset length, ((ofText text).range text offset length).stop <
      ((ofText text).range text offset length).start ↔ Reversed text offset (offset + length)) ∧
    ((∀ a b, a ≤ b → (ofText text).position text a ≤ (ofText text).position text b) ↔
      ∀ line ∈ splitAt '\n' text, byteLength line ≤ line.length + 1) := by
  have heq := position_eq hsize
  refine ⟨range_eq hsize, ?_⟩
  simp only [range, heq]
  refine ⟨fun a b => locate_lt_iff_reversed,
    fun offset length => locate_lt_iff_reversed (Nat.le_add_right offset length), ?_⟩
  constructor
  · intro hmono line hline
    by_contra hwide
    obtain ⟨a, b, hle, hreversed⟩ := exists_reversed (infix_of_mem_splitAt hline)
      (not_mem_of_mem_splitAt hline) (Nat.lt_of_not_le hwide)
    exact Position.not_lt.mpr (hmono a b hle) ((locate_lt_iff_reversed hle).mpr hreversed)
  · intro hlines a b hle
    rw [← Position.not_lt, locate_lt_iff_reversed hle]
    intro hreversed
    obtain ⟨line, hline, hwide⟩ := exists_line_of_reversed hreversed
    have hnarrow := hlines line hline
    omega

/-- The second byte of the second of two accents stands behind both of them. In a
line with one accent nothing is reversed. -/
theorem LineIndex.position_lt_iff_reversed_accents :
    byteLength ['é', 'é'] < UInt32.size ∧ byteLength ['a', 'é', '\n', 'é', 'x'] < UInt32.size ∧
    (ofText ['é', 'é']).position ['é', 'é'] 3 = ⟨0, 3⟩ ∧
    (ofText ['é', 'é']).position ['é', 'é'] 4 = ⟨0, 2⟩ ∧ Reversed ['é', 'é'] 3 4 ∧
    ∀ a b, a ≤ b → (ofText ['a', 'é', '\n', 'é', 'x']).position ['a', 'é', '\n', 'é', 'x'] a ≤
      (ofText ['a', 'é', '\n', 'é', 'x']).position ['a', 'é', '\n', 'é', 'x'] b := by
  have hsize : byteLength ['é', 'é'] < UInt32.size := by decide
  have hsize' : byteLength ['a', 'é', '\n', 'é', 'x'] < UInt32.size := by decide
  obtain ⟨-, hiff, -, -⟩ := LineIndex.position_lt_iff_reversed hsize
  obtain ⟨-, -, -, hmono⟩ := LineIndex.position_lt_iff_reversed hsize'
  exact ⟨hsize, hsize', by decide, by decide, (hiff 3 4 (by decide)).mp (by decide),
    hmono.mpr (by decide)⟩

end Workbench
