import Mathlib.Algebra.GroupWithZero.Nat
import Mathlib.Data.List.Forall2
import Workbench.Text.Word
/-!
# How many ranges a class has

Set operations add few ranges to those of their operands, and a table has the
ranges that are written in it. So the number of ranges of a class is bounded
by counting its tables, without working out the class itself.
-/

namespace Workbench

namespace CharSet

theorem length_join : ∀ (lo hi : Nat)
    (rs : List (Nat × Nat)), (join lo hi rs).length ≤ rs.length + 1
  | lo, hi, [] => Nat.le_refl 1
  | lo, hi, (lo', hi') :: rest => by
    rw [join, List.length_cons]
    split
    · exact Nat.le_succ_of_le (length_join lo (max hi hi') rest)
    · exact Nat.succ_le_succ (length_join lo' hi' rest)

theorem length_ofSorted : ∀ rs : List (Nat × Nat), (ofSorted rs).ranges.length ≤ rs.length
  | [] => Nat.le_refl 0
  | (lo, hi) :: rest => length_join lo hi rest

theorem length_mergeOne {rest : List (Nat × Nat) → List (Nat × Nat)} {n : Nat}
    (h : ∀ rs, (rest rs).length = n + rs.length) (r : Nat × Nat) :
    ∀ rs, (mergeOne r rest rs).length = n + 1 + rs.length
  | [] => by
    rw [mergeOne, List.length_cons, h]
    rfl
  | r' :: rs => by
    rw [mergeOne]
    split
    · rw [List.length_cons, h, List.length_cons]
      omega
    · rw [List.length_cons, length_mergeOne h r rs, List.length_cons]
      rfl

theorem length_merge : ∀ rs rs' : List (Nat × Nat), (merge rs rs').length = rs.length + rs'.length
  | [], rs' => by
    rw [merge, List.length_nil, Nat.zero_add]
  | r :: rs, rs' => by
    rw [merge, length_mergeOne (length_merge rs) r rs', List.length_cons]

theorem length_union {a b : CharSet} {n m : Nat} (ha : a.ranges.length ≤ n)
    (hb : b.ranges.length ≤ m) : (a.union b).ranges.length ≤ n + m := by
  have hmerge := length_merge a.ranges b.ranges
  have hsorted := length_ofSorted (merge a.ranges b.ranges)
  rw [union]
  omega

theorem length_gaps : ∀ (n : Nat) (rs : List (Nat × Nat)), (gaps n rs).length ≤ rs.length + 1
  | n, [] => by
    rw [gaps]
    split <;> simp
  | n, (lo, hi) :: rest => by
    have hrest := length_gaps (hi + 1) rest
    rw [gaps]
    split <;> simp only [List.length_cons] <;> omega

theorem length_complement {s : CharSet} {n : Nat} (h : s.ranges.length ≤ n) :
    s.complement.ranges.length ≤ n + 1 :=
  Nat.le_trans (length_gaps 0 s.ranges) (Nat.succ_le_succ h)

theorem length_diff {a b : CharSet} {n m : Nat} (ha : a.ranges.length ≤ n)
    (hb : b.ranges.length ≤ m) : (a.diff b).ranges.length ≤ n + m + 4 := by
  have hunion := length_union (length_complement ha) (length_complement (length_complement hb))
  have hdiff := length_complement hunion
  rw [diff, inter]
  omega

theorem length_unions {sets : List CharSet} {ms : List Nat}
    (h : List.Forall₂ (fun s m => s.ranges.length ≤ m) sets ms) :
    (unions sets).ranges.length ≤ ms.sum := by
  have hfold : ∀ {sets : List CharSet} {ms : List Nat} {s : CharSet} {n : Nat},
      s.ranges.length ≤ n → List.Forall₂ (fun s m => s.ranges.length ≤ m) sets ms →
      (sets.foldl union s).ranges.length ≤ n + ms.sum := by
    intro sets ms s n hs h
    induction h generalizing s n with
    | nil => exact hs
    | @cons t m sets ms ht _ ih =>
      rw [List.foldl_cons, List.sum_cons, ← Nat.add_assoc]
      exact ih (length_union hs ht)
  exact Nat.le_trans (hfold (Nat.le_refl 0) h) (Nat.le_of_eq (Nat.zero_add _))

theorem isEmpty_union {a b : CharSet} (h : a.isEmpty = false ∨ b.isEmpty = false) :
    (a.union b).isEmpty = false := by
  have hjoin : ∀ lo hi rs, join lo hi rs ≠ [] := by
    intro lo hi rs
    induction rs generalizing lo hi with
    | nil => exact List.cons_ne_nil _ _
    | cons r rs ih =>
      rw [join]
      split
      · exact ih _ _
      · exact List.cons_ne_nil _ _
  have hmerge : 0 < (merge a.ranges b.ranges).length := by
    rw [length_merge]
    rcases h with h | h <;>
    · have hpos := List.length_pos_iff.mpr (List.isEmpty_eq_false_iff.mp h)
      omega
  rw [isEmpty, union, List.isEmpty_eq_false_iff]
  cases hranges : merge a.ranges b.ranges with
  | nil => simp [hranges] at hmerge
  | cons r rest => exact hjoin r.1 r.2 rest

/-- A union has a member if some part has. -/
theorem isEmpty_unions {sets : List CharSet} {t : CharSet} (ht : t ∈ sets)
    (h : t.isEmpty = false) : (unions sets).isEmpty = false := by
  have hfold : ∀ {sets : List CharSet} {s : CharSet},
      s.isEmpty = false ∨ (∃ t ∈ sets, t.isEmpty = false) →
      (sets.foldl union s).isEmpty = false := by
    intro sets
    induction sets with
    | nil => simp
    | cons t sets ih =>
      rintro s (hs | ⟨t', hmem, ht'⟩)
      · exact ih (.inl (isEmpty_union (.inl hs)))
      · rcases List.mem_cons.mp hmem with rfl | hmem
        · exact ih (.inl (isEmpty_union (.inr ht')))
        · exact ih (.inr ⟨t', hmem, ht'⟩)
  exact hfold (.inr ⟨t, ht, h⟩)

end CharSet

namespace Text

/-- The ranges of a table are those that are written in it. -/
theorem length_ofHex {cs : List Char} {n : Nat} (h : (readRangesFrom none none cs).length ≤ n) :
    (CharSet.ofHex (String.ofList cs)).ranges.length ≤ n := by
  rw [CharSet.ofHex, readRanges, String.toList_ofList]
  exact Nat.le_trans (CharSet.length_ofSorted _) h

theorem length_adjusted {base : CharSet} {added removed : String} {n m k : Nat}
    (hbase : base.ranges.length ≤ n) (hadded : (CharSet.ofHex added).ranges.length ≤ m)
    (hremoved : (CharSet.ofHex removed).ranges.length ≤ k) :
    (adjusted base added removed).ranges.length ≤ n + m + k + 4 :=
  CharSet.length_diff (CharSet.length_union hbase hadded) hremoved

theorem length_inCategories {cs : List Category} {ms : List Nat}
    (h : List.Forall₂ (fun c m => c.members.ranges.length ≤ m) cs ms) :
    (inCategories cs).ranges.length ≤ ms.sum :=
  CharSet.length_unions (List.forall₂_map_left_iff.mpr h)

/-! ## Word characters

Every bound is stated as a sum over the tables, and a range counts for each
table it is in. The tables are left as they are written: working a class out
would take far longer than counting. A table is only read as its characters
(`with_reducible`), and never as the bytes it is stored as. -/

section

open CharSet

set_option maxRecDepth 100000

theorem joinControl_eq : joinControl = ⟨[(0x200C, 0x200D)]⟩ := rfl

/-- What is written in the tables of the categories. -/
theorem length_tables : (Category.members .uppercaseLetter).ranges.length ≤ 651 ∧
    (Category.members .lowercaseLetter).ranges.length ≤ 662 ∧
    (Category.members .titlecaseLetter).ranges.length ≤ 10 ∧
    (Category.members .modifierLetter).ranges.length ≤ 75 ∧
    (Category.members .otherLetter).ranges.length ≤ 528 ∧
    (Category.members .nonspacingMark).ranges.length ≤ 357 ∧
    (Category.members .spacingMark).ranges.length ≤ 190 ∧
    (Category.members .enclosingMark).ranges.length ≤ 5 ∧
    (Category.members .decimalNumber).ranges.length ≤ 71 ∧
    (Category.members .letterNumber).ranges.length ≤ 12 ∧
    (Category.members .connectorPunctuation).ranges.length ≤ 6 := by
  refine ⟨?_, ?_, ?_, ?_, ?_, ?_, ?_, ?_, ?_, ?_, ?_⟩ <;>
  · rw [Category.members, Category.table]
    with_reducible apply length_ofHex
    decide +kernel

theorem length_letters : letters.ranges.length ≤ 1926 := by
  obtain ⟨huppercase, hlowercase, htitlecase, hmodifier, hother, -⟩ := length_tables
  have hcased := length_inCategories (.cons huppercase (.cons hlowercase (.cons htitlecase .nil)))
  have hothers := length_inCategories (.cons hmodifier (.cons hother .nil))
  rw [letters, casedLetters]
  exact Nat.le_trans (length_union hcased hothers) (by decide)

theorem length_marks : marks.ranges.length ≤ 552 := by
  obtain ⟨-, -, -, -, -, hnonspacing, hspacing, henclosing, -⟩ := length_tables
  rw [marks]
  exact Nat.le_trans (length_inCategories (.cons hnonspacing (.cons hspacing
    (.cons henclosing .nil)))) (by decide)

theorem length_alphabetic : alphabetic.ranges.length ≤ 3606 := by
  obtain ⟨huppercaseLetter, hlowercaseLetter, htitlecase, -, -, -, -, -, -, hnumber, -⟩ :=
    length_tables
  have hlowercase : lowercase.ranges.length ≤ 694 := by
    rw [lowercase]
    refine length_adjusted hlowercaseLetter (m := 28) (k := 0) ?_ ?_ <;>
    · with_reducible apply length_ofHex
      decide
  have huppercase : uppercase.ranges.length ≤ 660 := by
    rw [uppercase]
    refine length_adjusted huppercaseLetter (m := 5) (k := 0) ?_ ?_ <;>
    · with_reducible apply length_ofHex
      decide
  have hcased := length_unions (.cons hlowercase (.cons huppercase (.cons htitlecase .nil)))
  rw [alphabetic, cased]
  refine length_adjusted (length_union (length_union hcased length_letters) hnumber)
    (m := 300) (k := 0) ?_ ?_ <;>
  · with_reducible apply length_ofHex
    decide

/-- **The word characters have some four thousand ranges at most.** -/
theorem length_wordChars : wordChars.ranges.length ≤ 4236 := by
  obtain ⟨-, -, -, -, -, -, -, -, hdigits, -, hconnector⟩ := length_tables
  have hjoin : joinControl.ranges.length ≤ 1 := by
    rw [joinControl_eq]
    exact Nat.le_refl 1
  rw [wordChars, decimalDigits]
  exact Nat.le_trans (length_unions (.cons length_alphabetic (.cons length_marks (.cons hdigits
    (.cons hconnector (.cons hjoin .nil)))))) (by decide)

end

theorem isEmpty_wordChars : wordChars.isEmpty = false := by
  have hjoin : joinControl.isEmpty = false := by
    rw [joinControl_eq]
    rfl
  rw [wordChars]
  exact CharSet.isEmpty_unions (.tail _ (.tail _ (.tail _ (.tail _ (.head _))))) hjoin

end Text

end Workbench
