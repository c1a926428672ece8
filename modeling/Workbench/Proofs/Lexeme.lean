import Workbench.Lexeme
import Workbench.Proofs.Pattern.Passing
import Mathlib.Data.List.Basic
/-!
# Lexemes side by side

Lexemes lie side by side if each starts where the one before it ends, and
together they are the text (`Tiles`). Then the offset of a lexeme counts the
bytes before it, and its bytes spell its text.
-/

namespace Workbench

namespace Text

/-- A character is passed, and what is left to pass is the rest. -/
theorem exists_byteLength_cons (c : Char) (cs : List Char) :
    ∃ n, byteLength (c :: cs) = n + 1 ∧ c.utf8Size ≤ n + 1 ∧
      n + 1 - c.utf8Size = byteLength cs := by
  have hpos := c.utf8Size_pos
  rw [byteLength_cons]
  exact ⟨c.utf8Size - 1 + byteLength cs, by omega, by omega, by omega⟩

/-- The first part of a text is cut off by its length. -/
theorem splitBytes?_append : ∀ pre rest : List Char,
    splitBytes? (pre ++ rest) (byteLength pre) = some (pre, rest)
  | [], rest => by cases rest <;> rfl
  | c :: pre, rest => by
    obtain ⟨n, hlength, hle, hrest⟩ := exists_byteLength_cons c pre
    rw [hlength, List.cons_append, splitBytes?, if_pos hle, hrest, splitBytes?_append pre rest]
    rfl

/-- Texts of one length at the start of a text are the same. -/
theorem eq_of_byteLength_eq {pre pre' rest rest' : List Char} (h : pre ++ rest = pre' ++ rest')
    (hlength : byteLength pre = byteLength pre') : pre = pre' ∧ rest = rest' := by
  have hsplit := splitBytes?_append pre rest
  rw [h, hlength, splitBytes?_append, Option.some.injEq, Prod.mk.injEq] at hsplit
  exact ⟨hsplit.1.symm, hsplit.2.symm⟩

/-- A piece of a text is cut out by the length before it and its own. -/
theorem slice?_append (pre piece rest : List Char) :
    slice? (pre ++ (piece ++ rest)) (byteLength pre) (byteLength pre + byteLength piece) =
      some piece := by
  rw [slice?, if_pos (Nat.le_add_right _ _), splitBytes?_append, Option.bind_some,
    Nat.add_sub_cancel_left]
  show (splitBytes? (piece ++ rest) (byteLength piece)).map Prod.fst = some piece
  rw [splitBytes?_append]
  rfl

theorem byteLength_eq_size_utf8Encode : ∀ cs : List Char, byteLength cs = cs.utf8Encode.size
  | [] => rfl
  | c :: cs => by
    rw [byteLength_cons, List.utf8Encode_cons, ByteArray.size_append,
      byteLength_eq_size_utf8Encode cs, List.utf8Encode_singleton, List.size_toByteArray,
      String.length_utf8EncodeChar]

/-- The characters of a string are as long as the string. -/
theorem byteLength_toList (s : String) : byteLength s.toList = s.utf8ByteSize := by
  rw [byteLength_eq_size_utf8Encode, ← String.toByteArray_ofList, String.ofList_toList,
    String.size_toByteArray]

end Text

open Text

namespace Lexeme

/-- What the last match still covers is passed. -/
theorem piecesFrom_append (g : Grammar) (rest : List Char) : ∀ (pre : List Char) (offset : Nat),
    piecesFrom g offset (byteLength pre) (pre ++ rest) =
      piecesFrom g (offset + byteLength pre) 0 rest
  | [], offset => rfl
  | c :: pre, offset => by
    obtain ⟨n, hlength, hle, hrest⟩ := exists_byteLength_cons c pre
    rw [hlength, List.cons_append, piecesFrom, hrest, piecesFrom_append g rest pre]
    congr 1
    omega

/-- **Lexemes that lie side by side** from a byte offset on and cover a text. -/
inductive Tiles : Nat → List Lexeme → List Char → Prop where
  | nil (offset : Nat) : Tiles offset [] []
  | cons {l : Lexeme} {ls : List Lexeme} {rest : List Char} :
    Tiles (l.offset + l.length) ls rest → Tiles l.offset (l :: ls) (l.text ++ rest)

namespace Tiles

variable {offset : Nat} {ls : List Lexeme} {cs : List Char}

theorem join {l : Lexeme} (h : Tiles offset (l :: ls) cs) :
    Tiles offset (Lexeme.join l ls) cs := by
  cases ls with
  | nil => exact h
  | cons next rest =>
    rw [Lexeme.join]
    split
    · cases h with
      | cons h =>
        generalize hoffset : l.offset + l.length = offset at h
        cases h with
        | @cons _ _ cs h =>
          rw [← List.append_assoc]
          refine Tiles.cons (l := ⟨.unmatched, l.offset, l.text ++ next.text⟩) ?_
          have heq : l.offset + byteLength (l.text ++ next.text) = next.offset + next.length := by
            rw [byteLength_append, ← hoffset, length, length]
            omega
          show Tiles (l.offset + byteLength (l.text ++ next.text)) rest cs
          rw [heq]
          exact h
    · exact h

theorem flatMap_text (h : Tiles offset ls cs) : ls.flatMap Lexeme.text = cs := by
  induction h with
  | nil => rfl
  | cons _ ih => rw [List.flatMap_cons, ih]

/-- **A lexeme is cut out between two characters**, where its offset says. -/
theorem cut_out (pre : List Char) (h : Tiles (byteLength pre) ls cs) :
    ∀ l ∈ ls, ∃ before after, pre ++ cs = before ++ (l.text ++ after) ∧
      byteLength before = l.offset := by
  generalize hoffset : byteLength pre = offset at h
  induction h generalizing pre with
  | nil => exact nofun
  | @cons l ls rest _ ih =>
    intro l' hl'
    rcases List.mem_cons.mp hl' with rfl | hl'
    · exact ⟨pre, rest, rfl, hoffset⟩
    · have hnext : byteLength (pre ++ l.text) = l.offset + l.length := by
        rw [byteLength_append, hoffset, length]
      rw [← List.append_assoc]
      exact ih _ hnext l' hl'

/-- **A lexeme stands where its offset says**: its text is what its bytes
spell. -/
theorem spelled (pre : List Char) (h : Tiles (byteLength pre) ls cs) :
    ∀ l ∈ ls, slice? (pre ++ cs) l.offset (l.offset + l.length) = some l.text := by
  intro l hl
  obtain ⟨before, after, htext, hbefore⟩ := h.cut_out pre l hl
  rw [htext, ← hbefore]
  exact slice?_append before l.text after

/-- A lexeme ends within the text. -/
theorem inside (h : Tiles 0 ls cs) : ∀ l ∈ ls, l.offset + l.length ≤ byteLength cs := by
  intro l hl
  obtain ⟨before, after, htext, hbefore⟩ := h.cut_out [] l hl
  rw [List.nil_append] at htext
  rw [htext, byteLength_append, byteLength_append, hbefore, length]
  omega

theorem offset_le (h : Tiles offset ls cs) : ∀ l ∈ ls, offset ≤ l.offset := by
  induction h with
  | nil => exact nofun
  | @cons l ls rest _ ih =>
    intro l' hl'
    rcases List.mem_cons.mp hl' with rfl | hl'
    · exact Nat.le_refl _
    · have hle := ih l' hl'
      omega

/-- **Lexemes do not overlap**, and come in the order of the text. -/
theorem ordered (h : Tiles offset ls cs) :
    ls.Pairwise fun a b => a.offset + a.length ≤ b.offset := by
  induction h with
  | nil => exact .nil
  | cons h ih => exact .cons h.offset_le ih

/-- **Every byte lies in one lexeme.** -/
theorem covers (h : Tiles offset ls cs) :
    ∀ i, offset ≤ i → i < offset + byteLength cs →
      ∃! l, l ∈ ls ∧ l.offset ≤ i ∧ i < l.offset + l.length := by
  induction h with
  | nil =>
    intro i hle hlt
    rw [byteLength_nil] at hlt
    omega
  | @cons l ls rest h ih =>
    intro i hle hlt
    rw [byteLength_append] at hlt
    by_cases hhere : i < l.offset + l.length
    · refine ⟨l, ⟨List.mem_cons_self, hle, hhere⟩, ?_⟩
      rintro l' ⟨hl', hle', -⟩
      rcases List.mem_cons.mp hl' with rfl | hl'
      · rfl
      · have hbehind := h.offset_le l' hl'
        omega
    · have hlength : l.length = byteLength l.text := rfl
      obtain ⟨l', ⟨hl', hin⟩, honly⟩ := ih i (by omega) (by omega)
      refine ⟨l', ⟨List.mem_cons_of_mem l hl', hin⟩, ?_⟩
      rintro l'' ⟨hl'', hin'⟩
      rcases List.mem_cons.mp hl'' with rfl | hl''
      · exact absurd hin'.2 hhere
      · exact honly l'' ⟨hl'', hin'⟩

end Tiles

end Lexeme

end Workbench
