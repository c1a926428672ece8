import Workbench.Proofs.Lexeme
import Mathlib.Data.List.Range
/-!
# The longest match

What is taken at the start of a text is said here without lists of
candidates: of all keywords and terminals that match there it is one of the
longest, a keyword before terminals and an earlier terminal before later ones
(`Preferred`). There is one such match wherever anything matches, and it is
the one that is found (`best?_eq_some_iff`).
-/

namespace Workbench

open Text

/-- The order in which matches of one length are preferred. -/
def LexemeKind.Before : LexemeKind → LexemeKind → Prop
  | .keyword _, _ => True
  | .terminal i, .terminal j => i < j
  | _, _ => False

namespace Lexeme

variable {g : Grammar} {cs : List Char} {kind kind' : LexemeKind} {n n' : ℕ}

/-- **What matches at the start of a text**, and how many bytes of it. -/
inductive Matches (g : Grammar) (cs : List Char) : LexemeKind → ℕ → Prop where
  | keyword {text : String} : text ∈ g.keywords → text.toList <+: cs →
    Matches g cs (.keyword text) text.utf8ByteSize
  | terminal {index : ℕ} {terminal : Terminal} {n : ℕ} : g.terminals[index]? = some terminal →
    terminal.matcher.findEnd? cs = some n → Matches g cs (.terminal index) n

/-- **The match to be taken** at the start of a text: none is longer, keywords
come before terminals of the same length, and terminals before later ones. -/
structure Preferred (g : Grammar) (cs : List Char) (kind : LexemeKind) (n : ℕ) : Prop where
  found : Matches g cs kind n
  longest : ∀ kind' n', Matches g cs kind' n' → n' ≤ n
  keyword : ∀ text, Matches g cs (.keyword text) n → ∃ text', kind = .keyword text'
  first : ∀ index, kind = .terminal index → ∀ earlier < index, ¬ Matches g cs (.terminal earlier) n

/-! ## What matches -/

/-- A match ends between two characters. -/
theorem Matches.cut (h : Matches g cs kind n) :
    ∃ pre rest, cs = pre ++ rest ∧ byteLength pre = n := by
  cases h with
  | keyword _ hstart =>
    obtain ⟨rest, rfl⟩ := hstart
    exact ⟨_, rest, rfl, byteLength_toList _⟩
  | terminal _ hfound => exact Program.findEnd?_eq_some hfound

theorem Matches.ne_unmatched (h : Matches g cs kind n) : kind ≠ .unmatched := by
  cases h <;> exact nofun

/-- The candidates are the matches. -/
theorem mem_candidates_iff : (kind, n) ∈ candidates g cs ↔ Matches g cs kind n := by
  rw [candidates, List.mem_append, List.mem_filterMap, List.mem_filterMap]
  constructor
  · rintro (⟨text, htext, h⟩ | ⟨⟨terminal, index⟩, hmem, h⟩)
    · split at h
      · next hstart =>
        cases h
        exact .keyword htext (List.isPrefixOf_iff_prefix.mp hstart)
      · cases h
    · obtain ⟨m, hfound, heq⟩ := Option.map_eq_some_iff.mp h
      cases heq
      rw [List.mem_zipIdx_iff_getElem?, Array.getElem?_toList] at hmem
      exact .terminal hmem hfound
  · intro h
    cases h with
    | @keyword text htext hstart =>
      refine Or.inl ⟨text, htext, ?_⟩
      rw [if_pos (List.isPrefixOf_iff_prefix.mpr hstart)]
    | @terminal index terminal _ hterminal hfound =>
      have hmem : (terminal, index) ∈ g.terminals.toList.zipIdx := by
        rw [List.mem_zipIdx_iff_getElem?, Array.getElem?_toList]
        exact hterminal
      refine Or.inr ⟨(terminal, index), hmem, ?_⟩
      dsimp only
      rw [hfound, Option.map_some]

/-- The candidates stand in the order in which they are preferred. -/
theorem pairwise_candidates (g : Grammar) (cs : List Char) :
    (candidates g cs).Pairwise fun a b => a.1.Before b.1 := by
  rw [candidates, List.pairwise_append]
  have hkeyword : ∀ a ∈ g.keywords.filterMap (fun keyword =>
      if keyword.toList.isPrefixOf cs then
        some (LexemeKind.keyword keyword, keyword.utf8ByteSize) else none),
      ∀ b : LexemeKind × ℕ, a.1.Before b.1 := by
    intro a ha b
    obtain ⟨text, -, h⟩ := List.mem_filterMap.mp ha
    split at h
    · cases h
      trivial
    · cases h
  have hindices : g.terminals.toList.zipIdx.Pairwise fun a b => a.2 < b.2 := by
    rw [← List.pairwise_map (f := Prod.snd) (R := (· < ·)), List.zipIdx_map_snd]
    exact List.pairwise_lt_range'
  refine ⟨List.pairwise_of_forall_mem_list fun a ha b _ => hkeyword a ha b, ?_,
    fun a ha b _ => hkeyword a ha b⟩
  refine hindices.filterMap _ fun a b hlt c hc d hd => ?_
  obtain ⟨_, -, rfl⟩ := Option.map_eq_some_iff.mp hc
  obtain ⟨_, -, rfl⟩ := Option.map_eq_some_iff.mp hd
  exact hlt

/-! ## The first of the longest -/

/-- What is best so far stands behind what is shorter and before what is not
longer, and so does what comes to be best. -/
theorem exists_foldl_longest : ∀ (rest before after : List (LexemeKind × ℕ))
    (best : LexemeKind × ℕ), (∀ x ∈ before, x.2 < best.2) → (∀ x ∈ after, x.2 ≤ best.2) →
    ∃ before' after' c, rest.foldl (fun best c => if best.2 < c.2 then c else best) best = c ∧
      before ++ best :: (after ++ rest) = before' ++ c :: after' ∧
      (∀ x ∈ before', x.2 < c.2) ∧ ∀ x ∈ after', x.2 ≤ c.2
  | [], before, after, best, hbefore, hafter =>
    ⟨before, after, best, rfl, by rw [List.append_nil], hbefore, hafter⟩
  | next :: rest, before, after, best, hbefore, hafter => by
    rw [List.foldl_cons]
    split
    · next hlt =>
      -- all that came before is shorter than the new one
      have hbefore' : ∀ x ∈ before ++ best :: after, x.2 < next.2 := by
        intro x hx
        rcases List.mem_append.mp hx with hx | hx
        · exact Nat.lt_trans (hbefore x hx) hlt
        · rcases List.mem_cons.mp hx with rfl | hx
          · exact hlt
          · exact Nat.lt_of_le_of_lt (hafter x hx) hlt
      obtain ⟨before', after', c, hc, heq, hbounds⟩ :=
        exists_foldl_longest rest (before ++ best :: after) [] next hbefore' nofun
      refine ⟨before', after', c, hc, ?_, hbounds⟩
      rw [← heq, List.append_assoc, List.cons_append, List.nil_append]
    · next hlt =>
      -- the one before stays the best, as it came first
      have hafter' : ∀ x ∈ after ++ [next], x.2 ≤ best.2 := by
        intro x hx
        rcases List.mem_append.mp hx with hx | hx
        · exact hafter x hx
        · rw [List.mem_singleton.mp hx]
          exact Nat.le_of_not_lt hlt
      obtain ⟨before', after', c, hc, heq, hbounds⟩ :=
        exists_foldl_longest rest before (after ++ [next]) best hbefore hafter'
      refine ⟨before', after', c, hc, ?_, hbounds⟩
      rw [← heq, List.append_assoc, List.singleton_append]

/-- What is shorter comes first, and nothing behind is longer. -/
theorem longest_eq_some {found : List (LexemeKind × ℕ)} {c : LexemeKind × ℕ}
    (h : longest found = some c) :
    ∃ before after, found = before ++ c :: after ∧ (∀ x ∈ before, x.2 < c.2) ∧
      ∀ x ∈ after, x.2 ≤ c.2 := by
  cases found with
  | nil => cases h
  | cons first rest =>
    rw [longest, Option.some.injEq] at h
    obtain ⟨before, after, _, rfl, heq, hbounds⟩ :=
      exists_foldl_longest rest [] [] first nofun nofun
    rw [h] at heq hbounds
    exact ⟨before, after, heq, hbounds⟩

/-- What is found is preferred. -/
theorem preferred_of_best? (h : best? g cs = some (kind, n)) : Preferred g cs kind n := by
  obtain ⟨before, after, heq, hbefore, hafter⟩ := longest_eq_some h
  have hpairwise := pairwise_candidates g cs
  rw [heq, List.pairwise_append, List.pairwise_cons] at hpairwise
  obtain ⟨-, ⟨hbehind, -⟩, -⟩ := hpairwise
  -- where a match stands among the candidates
  have hplace : ∀ {kind' n'}, Matches g cs kind' n' →
      (kind', n') ∈ before ∨ (kind', n') = (kind, n) ∨ (kind', n') ∈ after := by
    intro kind' n' hmatch
    rw [← mem_candidates_iff, heq, List.mem_append, List.mem_cons] at hmatch
    exact hmatch
  refine ⟨mem_candidates_iff.mp (heq ▸ List.mem_append_right _ List.mem_cons_self), ?_, ?_, ?_⟩
  · intro kind' n' hmatch
    rcases hplace hmatch with hmem | heq | hmem
    · exact Nat.le_of_lt (hbefore _ hmem)
    · exact Nat.le_of_eq (congrArg Prod.snd heq)
    · exact hafter _ hmem
  · intro text hmatch
    rcases hplace hmatch with hmem | heq | hmem
    · exact absurd (hbefore _ hmem) (Nat.lt_irrefl n)
    · exact ⟨text, (congrArg Prod.fst heq).symm⟩
    · have hkind : kind.Before (.keyword text) := hbehind _ hmem
      cases kind with
      | keyword text' => exact ⟨text', rfl⟩
      | terminal _ => exact hkind.elim
      | unmatched => exact hkind.elim
  · rintro index rfl earlier hlt hmatch
    rcases hplace hmatch with hmem | heq | hmem
    · exact absurd (hbefore _ hmem) (Nat.lt_irrefl n)
    · cases heq
      exact Nat.lt_irrefl _ hlt
    · exact Nat.lt_asymm hlt (hbehind _ hmem)

/-- **One match is preferred** at most. -/
theorem Preferred.unique (h : Preferred g cs kind n) (h' : Preferred g cs kind' n') :
    kind = kind' ∧ n = n' := by
  obtain rfl : n = n' :=
    Nat.le_antisymm (h'.longest kind n h.found) (h.longest kind' n' h'.found)
  refine ⟨?_, rfl⟩
  -- the one is a keyword if the other is
  have hfound := h.found
  have hfound' := h'.found
  cases kind with
  | unmatched => exact absurd rfl hfound.ne_unmatched
  | keyword text =>
    obtain ⟨text', rfl⟩ := h'.keyword text hfound
    obtain ⟨hn, rest, hrest⟩ : text.utf8ByteSize = n ∧ text.toList <+: cs := by
      cases hfound with
      | keyword _ hstart => exact ⟨rfl, hstart⟩
    obtain ⟨hn', rest', hrest'⟩ : text'.utf8ByteSize = n ∧ text'.toList <+: cs := by
      generalize hkind : LexemeKind.keyword text' = kind at hfound'
      cases hfound' with
      | keyword _ hstart =>
        cases hkind
        exact ⟨rfl, hstart⟩
      | terminal _ _ => cases hkind
    have hsame := eq_of_byteLength_eq (hrest.trans hrest'.symm)
      (by rw [byteLength_toList, byteLength_toList, hn, hn'])
    rw [String.toList_injective hsame.1]
  | terminal index =>
    cases kind' with
    | unmatched => exact absurd rfl hfound'.ne_unmatched
    | keyword text =>
      obtain ⟨_, hkind⟩ := h.keyword text hfound'
      cases hkind
    | terminal index' =>
      have hle : ¬ index < index' := fun hlt => h'.first index' rfl index hlt hfound
      have hge : ¬ index' < index := fun hlt => h.first index rfl index' hlt hfound'
      rw [show index = index' by omega]

/-- **Nothing is found where nothing matches.** -/
theorem best?_eq_none_iff : best? g cs = none ↔ ∀ kind n, ¬ Matches g cs kind n := by
  have hcandidates : best? g cs = none ↔ candidates g cs = [] := by
    rw [best?]
    cases candidates g cs with
    | nil => exact iff_of_true rfl rfl
    | cons first rest => exact iff_of_false nofun nofun
  rw [hcandidates, List.eq_nil_iff_forall_not_mem]
  exact ⟨fun h kind n hmatch => h (kind, n) (mem_candidates_iff.mpr hmatch),
    fun h c hc => h c.1 c.2 (mem_candidates_iff.mp hc)⟩

/-- **The match that is found is the preferred one.** -/
theorem best?_eq_some_iff : best? g cs = some (kind, n) ↔ Preferred g cs kind n := by
  refine ⟨preferred_of_best?, fun h => ?_⟩
  cases hbest : best? g cs with
  | none => exact absurd h.found (best?_eq_none_iff.mp hbest kind n)
  | some found =>
    obtain ⟨hkind, hn⟩ := (preferred_of_best? hbest).unique h
    rw [← hkind, ← hn]

/-! ## What stands at a place -/

/-- **A lexeme in its place**, before what is left of the text: it is the
match to be taken there, or nothing matches at any of its characters. -/
structure InPlace (g : Grammar) (l : Lexeme) (rest : List Char) : Prop where
  nonempty : l.text ≠ []
  preferred : l.kind ≠ .unmatched → Preferred g (l.text ++ rest) l.kind l.length
  unmatched : l.kind = .unmatched → ∀ pre post, pre ++ post = l.text → post ≠ [] →
    ∀ kind n, ¬ Matches g (post ++ rest) kind n

end Lexeme

end Workbench
