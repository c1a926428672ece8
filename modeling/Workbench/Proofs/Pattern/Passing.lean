import Workbench.Pattern.Search
import Workbench.Text.Position
import Mathlib.Data.Nat.Notation
import Mathlib.Logic.Basic
/-!
# Matches pass characters

A search goes from character to character, so a match ends between two of
them. Whether a match may end where it starts depends on what the steps of
the program reach without passing a character. Where the labels that are
reached so from the start only lead to each other and to steps that wait for
a character (`passing`), every match passes something.
-/

namespace Workbench

open Text

/-- Whether a step waits for a character, or only goes on with certain
labels. -/
def Step.waits (quiet : List ℕ) : Step → Bool
  | .char _ _ => true
  | .assertion _ next => quiet.contains next
  | .split nexts => nexts.all quiet.contains
  | .accept => false

namespace Program

variable {p : Program} {quiet : List ℕ}

/-- **Whether nothing is accepted before a character is passed**: the labels
that are reached until then are among some that do not accept. -/
def passing (p : Program) (quiet : List ℕ) : Bool :=
  quiet.contains p.start && quiet.all fun label => (p.steps.getD label .accept).waits quiet

/-! ## Where matches end -/

/-- What is found was found before, or ends between two characters. -/
theorem searchFrom_eq_some (rest : List Char) : ∀ (before : Option Char) (passed : ℕ)
    (labels : List ℕ) (found : Option ℕ) (n : ℕ),
    p.searchFrom before passed labels found rest = some n →
      found = some n ∨ ∃ pre post, rest = pre ++ post ∧ n = passed + byteLength pre := by
  induction rest with
  | nil =>
    intro before passed labels found n h
    rw [searchFrom] at h
    dsimp only at h
    generalize (advance _ _ _).2 = accepted at h
    cases accepted with
    | true => exact Or.inr ⟨[], [], rfl, (Option.some.inj h).symm⟩
    | false => exact Or.inl h
  | cons c rest ih =>
    intro before passed labels found n h
    -- what is accepted here ends with nothing behind it
    have hhere : ∀ accepted : Bool, (if accepted = true then some passed else found) = some n →
        found = some n ∨ ∃ pre post, c :: rest = pre ++ post ∧ n = passed + byteLength pre := by
      rintro (_ | _) h
      · exact Or.inl h
      · exact Or.inr ⟨[], c :: rest, rfl, (Option.some.inj h).symm⟩
    rw [searchFrom] at h
    dsimp only at h
    generalize (advance _ _ _).2 = accepted at h
    generalize (advance _ _ _).1 = next at h
    rw [ite_eq_iff] at h
    rcases h with ⟨-, h⟩ | ⟨-, h⟩
    · exact hhere accepted h
    · rcases ih _ _ _ _ _ h with h | ⟨pre, post, rfl, rfl⟩
      · exact hhere accepted h
      · refine Or.inr ⟨c :: pre, post, rfl, ?_⟩
        rw [byteLength_cons]
        omega

/-- **A match ends between two characters.** -/
theorem findEnd?_eq_some {cs : List Char} {n : ℕ} (h : p.findEnd? cs = some n) :
    ∃ pre post, cs = pre ++ post ∧ byteLength pre = n := by
  rcases searchFrom_eq_some cs _ _ _ _ n h with h | ⟨pre, post, rfl, rfl⟩
  · cases h
  · exact ⟨pre, post, rfl, by omega⟩

/-! ## What is reached -/

/-- From such labels only steps that wait for a character are reached. -/
theorem exists_char_of_mem_reach (h : p.passing quiet = true) (before after : Option Char) :
    ∀ (fuel : ℕ) (labels : List ℕ) (seen : Array Bool) (reached : Array Step),
      (∀ label ∈ labels, label ∈ quiet) →
      (∀ step ∈ reached, ∃ set next, step = .char set next) →
      ∀ step ∈ p.reach before after fuel labels seen reached,
        ∃ set next, step = .char set next := by
  rw [passing, Bool.and_eq_true, List.all_eq_true] at h
  intro fuel
  induction fuel with
  | zero =>
    intro labels seen reached _ hreached
    rw [reach]
    exact hreached
  | succ fuel ih =>
    intro labels seen reached hlabels hreached
    cases labels with
    | nil =>
      rw [reach]
      · exact hreached
      · nofun
    | cons label labels =>
      have hrest : ∀ l ∈ labels, l ∈ quiet := fun l hl => hlabels l (List.mem_cons_of_mem _ hl)
      -- such a step leads to labels of the same sort, or waits for a character
      have hwaits := h.2 label (hlabels label List.mem_cons_self)
      rw [reach]
      split
      · exact ih labels seen reached hrest hreached
      · dsimp only
        split
        · next nexts hstep =>
          rw [hstep, Step.waits, List.all_eq_true] at hwaits
          refine ih _ _ _ (fun l hl => ?_) hreached
          rcases List.mem_append.mp hl with hl | hl
          · exact List.contains_iff_mem.mp (hwaits l hl)
          · exact hrest l hl
        · next a next hstep =>
          rw [hstep, Step.waits] at hwaits
          refine ih _ _ _ (fun l hl => ?_) hreached
          split at hl
          · rcases List.mem_cons.mp hl with rfl | hl
            · exact List.contains_iff_mem.mp hwaits
            · exact hrest l hl
          · exact hrest l hl
        · next hsplit hassertion =>
          refine ih _ _ _ hrest fun step hstep => ?_
          rcases Array.mem_push.mp hstep with hstep | rfl
          · exact hreached step hstep
          · cases hcase : p.steps.getD label .accept with
            | char set next => exact ⟨set, next, rfl⟩
            | assertion a next => exact absurd hcase (hassertion a next)
            | split nexts => exact absurd hcase (hsplit nexts)
            | accept =>
              rw [hcase] at hwaits
              cases hwaits

theorem snd_advance_eq_false (after : Option Char) : ∀ (steps : List Step) (labels : List ℕ),
    (∀ step ∈ steps, ∃ set next, step = .char set next) → (advance after labels steps).2 = false
  | [], _, _ => rfl
  | step :: steps, labels, h => by
    obtain ⟨set, next, rfl⟩ := h step List.mem_cons_self
    rw [advance]
    exact snd_advance_eq_false after steps _ fun step hstep => h step (List.mem_cons_of_mem _ hstep)

/-- **Every match passes something.** -/
theorem findEnd?_ne_zero (h : p.passing quiet = true) (cs : List Char) :
    p.findEnd? cs ≠ some 0 := by
  have hstart : p.start ∈ quiet := by
    rw [passing, Bool.and_eq_true] at h
    exact List.contains_iff_mem.mp h.1
  have hnone : ∀ (fuel : ℕ) (seen : Array Bool),
      (advance cs.head? [] (p.reach none cs.head? fuel [p.start] seen #[]).toList).2 = false := by
    intro fuel seen
    refine snd_advance_eq_false _ _ _ fun step hstep => ?_
    refine exists_char_of_mem_reach h none cs.head? fuel [p.start] seen #[] ?_ nofun step
      (Array.mem_toList_iff.mp hstep)
    intro label hlabel
    rw [List.mem_singleton.mp hlabel]
    exact hstart
  intro hfound
  rw [findEnd?, searchFrom] at hfound
  simp only [Option.isSome_none, Bool.false_eq_true, if_false, List.nil_append, hnone] at hfound
  cases cs with
  | nil => cases hfound
  | cons c cs =>
    dsimp only at hfound
    split at hfound
    · cases hfound
    · rcases searchFrom_eq_some cs _ _ _ _ 0 hfound with h | ⟨pre, post, -, hzero⟩
      · cases h
      · have hpos := c.utf8Size_pos
        omega

/-- So the empty text does not match. -/
theorem matchesEmpty_eq_false (h : p.passing quiet = true) : p.matchesEmpty = false := by
  rw [matchesEmpty, Option.isSome_eq_false_iff, Option.isNone_iff_eq_none]
  cases hfound : p.findEnd? [] with
  | none => rfl
  | some n =>
    obtain ⟨pre, post, hcs, rfl⟩ := findEnd?_eq_some hfound
    obtain ⟨rfl, -⟩ := List.append_eq_nil_iff.mp hcs.symm
    exact absurd hfound (findEnd?_ne_zero h [])

end Program

end Workbench
