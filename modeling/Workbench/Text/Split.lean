/-!
# Splitting at separators

The pieces of a text between separators; there is always one more piece than
separators.
-/

namespace Workbench

namespace Text

/-- **The pieces of a list between separators.** -/
def splitAt (sep : Char) : List Char → List (List Char)
  | [] => [[]]
  | c :: cs =>
    if c = sep then [] :: splitAt sep cs
    else
      match splitAt sep cs with
      | [] => [[c]]
      | piece :: pieces => (c :: piece) :: pieces

/-- Pieces put together again with the separators between them. -/
def joinWith (sep : Char) : List (List Char) → List Char
  | [] => []
  | [piece] => piece
  | piece :: next :: pieces => piece ++ sep :: joinWith sep (next :: pieces)

theorem splitAt_ne_nil (sep : Char) (cs : List Char) : splitAt sep cs ≠ [] := by
  cases cs with
  | nil => simp [splitAt]
  | cons c cs =>
    unfold splitAt
    split
    · simp
    · split <;> simp

theorem splitAt_self (sep : Char) (cs : List Char) :
    splitAt sep (sep :: cs) = [] :: splitAt sep cs :=
  if_pos rfl

theorem splitAt_cons_of_ne {sep c : Char} {cs piece : List Char} {pieces : List (List Char)}
    (hc : c ≠ sep) (h : splitAt sep cs = piece :: pieces) :
    splitAt sep (c :: cs) = (c :: piece) :: pieces := by
  rw [splitAt, if_neg hc, h]

/-- A text without separators is one piece. -/
theorem splitAt_of_not_mem {sep : Char} {cs : List Char} (h : sep ∉ cs) :
    splitAt sep cs = [cs] := by
  induction cs with
  | nil => rfl
  | cons c cs ih =>
    rw [List.mem_cons, not_or] at h
    exact splitAt_cons_of_ne (Ne.symm h.1) (ih h.2)

/-- The first piece ends at the first separator. -/
theorem splitAt_append_sep {sep : Char} {piece : List Char} (h : sep ∉ piece) (cs : List Char) :
    splitAt sep (piece ++ sep :: cs) = piece :: splitAt sep cs := by
  induction piece with
  | nil => exact splitAt_self sep cs
  | cons c piece ih =>
    rw [List.mem_cons, not_or] at h
    exact splitAt_cons_of_ne (Ne.symm h.1) (ih h.2)

/-- Pieces that each stand behind a separator are found again, after an empty
piece in front of the first separator. -/
theorem splitAt_flatMap {sep : Char} {pieces : List (List Char)} (h : ∀ piece ∈ pieces, sep ∉ piece) :
    splitAt sep (pieces.flatMap (sep :: ·)) = [] :: pieces := by
  induction pieces with
  | nil => rfl
  | cons piece pieces ih =>
    rw [List.forall_mem_cons] at h
    rw [List.flatMap_cons, List.cons_append, splitAt_self]
    have hrest := ih h.2
    cases pieces with
    | nil => rw [List.flatMap_nil, List.append_nil, splitAt_of_not_mem h.1]
    | cons next pieces =>
      rw [List.flatMap_cons, List.cons_append, splitAt_self, List.cons.injEq] at hrest
      rw [List.flatMap_cons, List.cons_append, splitAt_append_sep h.1, hrest.2]

end Text

end Workbench
