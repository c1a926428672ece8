import Workbench.Pattern.Reader
import Workbench.Proofs.Pattern.Class
import Workbench.Proofs.Pattern.Passing
import Workbench.Proofs.Pattern.Size
/-!
# Reading terminals

A terminal is accepted if its text describes a pattern that is small enough.
For most texts both can be worked out. A text that names the class of word
characters cannot be read so: the class has thousands of ranges, and reading
asks whether it has any. The pattern of identifiers is therefore read step by
step, with the class left as it is.
-/

namespace Workbench

namespace Pattern

/-! ## Terminals whose matches pass something -/

/-- Whether a pattern is small by its weight, and each of its matches passes a
character. -/
def passing (p : Pattern) (quiet : List ℕ) : Bool :=
  p.wordless && decide (p.weight + 208 ≤ Extent.limit) && p.program.passing quiet

/-- **A terminal whose pattern passes something has a program that does.** -/
theorem terminal?_of_passing {text : String} {p : Pattern} {quiet : List ℕ}
    (hread : read? ("^(?:" ++ text ++ ")") = some p) (h : p.passing quiet = true) :
    ∃ m, terminal? text = some m ∧ m.passing quiet = true := by
  rw [passing, Bool.and_eq_true, Bool.and_eq_true, decide_eq_true_iff] at h
  have hsmall : p.isSmall = true := isSmall_of_weight h.1.1 h.1.2
  refine ⟨p.program, ?_, h.2⟩
  rw [terminal?, hread, Option.bind_some, if_pos hsmall]

/-- So has one whose text can be read at once. -/
theorem terminal?_of_read {text : String} (quiet : List ℕ)
    (h : (read? ("^(?:" ++ text ++ ")")).any (·.passing quiet) = true) :
    ∃ m, terminal? text = some m ∧ m.passing quiet = true := by
  cases hread : read? ("^(?:" ++ text ++ ")") with
  | none =>
    rw [hread] at h
    cases h
  | some p =>
    rw [hread] at h
    exact terminal?_of_passing hread h

/-! ## Identifiers -/

/-- A character of one set, and then any of another. -/
def word (starts rests : CharSet) : Pattern :=
  .seq (.assertion .textStart) (.seq (.char starts) (.repeated 0 none true (.char rests)))

/-- **A word passes something**, if its sets have few ranges. -/
theorem passing_word {starts rests : CharSet} (hrests : rests.isEmpty = false)
    (hstarts : starts.ranges.length ≤ 3) (hlength : rests.ranges.length ≤ 4236) :
    (word starts rests).passing [4, 3] = true := by
  have hweight : (word starts rests).weight + 208 ≤ Extent.limit := by
    simp only [word, weight, Extent.setLimit, Extent.limit, Option.getD_none]
    omega
  have hprogram : (word starts rests).program.passing [4, 3] = true := by
    simp [word, program, layout, Layout.add, Layout.loop, minLength?, hrests, Program.passing,
      Step.waits]
  rw [passing, Bool.and_eq_true, Bool.and_eq_true, decide_eq_true_iff]
  exact ⟨⟨rfl, hweight⟩, hprogram⟩

/-- A class in brackets is read as its set. -/
theorem readFrom?_class {frame : Frame} {cs rest : List Char} {set : CharSet} {depth : ℕ}
    (hflags : frame.flags = .default) (h : readClass? .default cs = some (set, depth, rest))
    (fuel : ℕ) (outer : List Frame) (groups : GroupNames) :
    readFrom? (fuel + 1) frame outer groups ('[' :: cs) =
      readFrom? fuel (frame.push (.char set, depth)) outer groups rest := by
  rw [readFrom?, hflags]
  show (readClass? .default cs).bind _ = _
  rw [h]
  rfl

/-- **A text of two classes**, the second of them repeated, describes words. -/
theorem read?_word {text : String} {cs cs' : List Char} {starts rests : CharSet}
    (htext : text.toList = '^' :: '(' :: '?' :: ':' :: '[' :: cs)
    (hstarts : readClass? .default cs = some (starts, 2, '[' :: cs'))
    (hrests : readClass? .default cs' = some (rests, 1, ['*', ')']))
    (hempty : rests.isEmpty = false) : read? text = some (word starts rests) := by
  have hopen : ∀ (fuel : ℕ) (rest : List Char),
      readFrom? (fuel + 2) (.opened none .default) [] ⟨0, []⟩ ('^' :: '(' :: '?' :: ':' :: rest) =
        readFrom? fuel (.opened none .default)
          [(Frame.opened none .default).push (.assertion .textStart, 0)] ⟨0, []⟩ rest :=
    fun _ _ => rfl
  -- what is repeated is left as it is, since it depends on whether the set is empty
  have hstar : ∀ (fuel : ℕ) (outer : List Frame), readFrom? (fuel + 1)
      (((Frame.opened none .default).push (.char starts, 2)).push (.char rests, 1))
      outer ⟨0, []⟩ ['*', ')'] =
        readFrom? fuel (((Frame.opened none .default).push (.char starts, 2)).push
          (repetition 0 none true (.char rests), 2)) outer ⟨0, []⟩ [')'] :=
    fun _ _ => rfl
  have hclose : ∀ (fuel : ℕ) (p : Pattern), readFrom? (fuel + 2)
      (((Frame.opened none .default).push (.char starts, 2)).push (p, 2))
      [(Frame.opened none .default).push (.assertion .textStart, 0)] ⟨0, []⟩ [')'] =
        some (choice [sequence [.assertion .textStart, choice [sequence [.char starts, p]]]], 5) :=
    fun _ _ => rfl
  have hrounds : repetition 0 none true (.char rests) = .repeated 0 none true (.char rests) := by
    simp [repetition, maxLength?, hempty]
  cases cs with
  | nil => cases hstarts
  | cons c cs =>
    rw [read?, htext]
    show (readFrom? (cs.length + 7) _ _ _ _).bind _ = _
    rw [hopen, readFrom?_class rfl hstarts, readFrom?_class rfl hrests, hstar, hclose,
      hrounds]
    rfl

/-- The word characters, as a class in brackets holds them. -/
theorem readClass?_wordChars (rest : List Char) :
    readClass? .default ('\\' :: 'w' :: ']' :: rest) =
      some (CharSet.none.union Text.wordChars, 1, rest) := by
  simp [readClass?, openClass, readHyphens, readClassFrom?, skipSpace, readClassRange?,
    readMember?, readEscape?, readShortClass?, Item.member?, ClassFrame.add, ClassFrame.close?,
    ClassFrame.collected, Flags.classOf?, Flags.fold, Flags.default]

/-- **Identifiers**, a letter or low line and then word characters, **pass
something.** -/
theorem terminal?_identifier :
    ∃ m, terminal? "[_a-zA-Z][\\w]*" = some m ∧ m.passing [4, 3] = true := by
  have hstarts : readClass? .default
      ['_', 'a', '-', 'z', 'A', '-', 'Z', ']', '[', '\\', 'w', ']', '*', ')'] =
        some (⟨[(0x41, 0x5A), (0x5F, 0x5F), (0x61, 0x7A)]⟩, 2,
          ['[', '\\', 'w', ']', '*', ')']) := by
    decide +kernel
  have hempty : (CharSet.none.union Text.wordChars).isEmpty = false :=
    CharSet.isEmpty_union (.inr Text.isEmpty_wordChars)
  have hlength : (CharSet.none.union Text.wordChars).ranges.length ≤ 0 + 4236 :=
    CharSet.length_union (Nat.le_refl 0) Text.length_wordChars
  have htext : ("^(?:" ++ "[_a-zA-Z][\\w]*" ++ ")").toList = '^' :: '(' :: '?' :: ':' :: '[' ::
      ['_', 'a', '-', 'z', 'A', '-', 'Z', ']', '[', '\\', 'w', ']', '*', ')'] := by
    decide +kernel
  have hread := read?_word htext hstarts (readClass?_wordChars _) hempty
  exact terminal?_of_passing hread (passing_word hempty (by decide) hlength)

end Pattern

end Workbench
