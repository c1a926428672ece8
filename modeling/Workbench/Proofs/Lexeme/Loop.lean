import Workbench.Proofs.Grammar.Numbering
import Workbench.Proofs.Lexeme.Longest
import Mathlib.Logic.Function.Iterate
/-!
# Whether a text is passed

A text is cut turn by turn. A turn leaves what is behind the match to be
taken, or behind one character where nothing matches (`turn`), so it makes
the text shorter unless the match is empty. Then the next turn finds the same
text again, and so do all others: a text is passed exactly if no empty match
is to be taken anywhere on the way (`consumed_iff_goes_on`).

A definition compiles if its terminals do not match the empty text. That
says nothing of keywords, nor of what terminals match elsewhere. Where no
match is empty (`Grammar.Passing`), every text is passed.
-/

namespace Workbench

open Text

namespace Lexeme

variable {g : Grammar} {cs : List Char} {kind : LexemeKind} {n : ℕ}

/-! ## Turn by turn -/

/-- **What one turn leaves** of a text. -/
def turn (g : Grammar) (cs : List Char) : List Char :=
  match best? g cs with
  | none => cs.tail
  | some (_, n) => ((splitBytes? cs n).map Prod.snd).getD []

/-- **A text that is passed** in so many turns. -/
def Consumed (g : Grammar) (cs : List Char) : Prop := ∃ k, (turn g)^[k] cs = []

theorem turn_of_unmatched (h : ∀ kind n, ¬ Matches g cs kind n) : turn g cs = cs.tail := by
  rw [turn, best?_eq_none_iff.mpr h]

theorem turn_of_preferred {taken rest : List Char}
    (h : Preferred g (taken ++ rest) kind (byteLength taken)) : turn g (taken ++ rest) = rest := by
  rw [turn, best?_eq_some_iff.mpr h]
  dsimp only
  rw [splitBytes?_append]
  rfl

/-- Where an empty match is to be taken, the text stays as it is. -/
theorem turn_of_empty (h : Preferred g cs kind 0) : turn g cs = cs := by
  have hnil : Preferred g ([] ++ cs) kind (byteLength []) := h
  exact turn_of_preferred hnil

theorem turn_nil (g : Grammar) : turn g [] = [] := by
  rw [turn]
  split
  · rfl
  · next kind n hbest =>
    obtain ⟨pre, rest, hnil, rfl⟩ := (best?_eq_some_iff.mp hbest).found.cut
    obtain ⟨rfl, rfl⟩ := List.append_eq_nil_iff.mp hnil.symm
    rfl

/-- **What a turn does**: it passes one character that nothing matches or the
match to be taken, or that is empty. -/
theorem turn_cases (g : Grammar) (hcs : cs ≠ []) :
    (∃ c, cs = c :: turn g cs ∧ ∀ kind n, ¬ Matches g cs kind n) ∨
    (∃ taken kind, taken ≠ [] ∧ cs = taken ++ turn g cs ∧
      Preferred g cs kind (byteLength taken)) ∨
    ∃ kind, Preferred g cs kind 0 := by
  cases hbest : best? g cs with
  | none =>
    have hnone := best?_eq_none_iff.mp hbest
    obtain ⟨c, rest, rfl⟩ := List.exists_cons_of_ne_nil hcs
    exact .inl ⟨c, by rw [turn_of_unmatched hnone, List.tail_cons], hnone⟩
  | some found =>
    obtain ⟨kind, n⟩ := found
    have hpreferred := best?_eq_some_iff.mp hbest
    obtain ⟨taken, rest, rfl, rfl⟩ := hpreferred.found.cut
    cases taken with
    | nil => exact .inr (.inr ⟨kind, hpreferred⟩)
    | cons c pre =>
      refine .inr (.inl ⟨c :: pre, kind, List.cons_ne_nil c pre, ?_, hpreferred⟩)
      rw [turn_of_preferred hpreferred]

/-- A turn leaves an end of the text. -/
theorem turn_suffix (g : Grammar) (cs : List Char) : turn g cs <:+ cs := by
  by_cases hcs : cs = []
  · rw [hcs]
    exact ⟨[], turn_nil g⟩
  · rcases turn_cases g hcs with ⟨c, heq, -⟩ | ⟨taken, kind, -, heq, -⟩ | ⟨kind, hempty⟩
    · exact ⟨[c], heq.symm⟩
    · exact ⟨taken, heq.symm⟩
    · exact ⟨[], turn_of_empty hempty⟩

/-- So do many. -/
theorem iterate_turn_suffix (cs : List Char) (k : ℕ) : (turn g)^[k] cs <:+ cs := by
  induction k with
  | zero => exact List.suffix_rfl
  | succ k ih =>
    rw [Function.iterate_succ_apply']
    exact (turn_suffix g _).trans ih

/-- A turn makes the text shorter if it goes on. -/
theorem length_turn_lt (hcs : cs ≠ []) (h : ∀ kind, ¬ Preferred g cs kind 0) :
    (turn g cs).length < cs.length := by
  rcases turn_cases g hcs with ⟨c, heq, -⟩ | ⟨taken, kind, htaken, heq, -⟩ | ⟨kind, hempty⟩
  · have hlength := congrArg List.length heq
    rw [List.length_cons] at hlength
    omega
  · have hlength := congrArg List.length heq
    have hpos := List.length_pos_of_ne_nil htaken
    rw [List.length_append] at hlength
    omega
  · exact absurd hempty (h kind)

/-- What is left behind a turn is passed if the text is. -/
theorem consumed_turn_iff : Consumed g (turn g cs) ↔ Consumed g cs := by
  constructor
  · rintro ⟨k, hk⟩
    exact ⟨k + 1, by rw [Function.iterate_succ_apply, hk]⟩
  · rintro ⟨k, hk⟩
    refine ⟨k, ?_⟩
    rw [← Function.iterate_succ_apply, Function.iterate_succ_apply', hk, turn_nil]

theorem consumed_iterate_iff (k : ℕ) : Consumed g ((turn g)^[k] cs) ↔ Consumed g cs := by
  induction k with
  | zero => rfl
  | succ k ih => rw [Function.iterate_succ_apply', consumed_turn_iff, ih]

/-- **A text is passed exactly if every turn on the way goes on**: nowhere is
an empty match to be taken. -/
theorem consumed_iff_goes_on : Consumed g cs ↔
    ∀ k kind, (turn g)^[k] cs ≠ [] → ¬ Preferred g ((turn g)^[k] cs) kind 0 := by
  constructor
  · rintro hconsumed k kind hne hempty
    -- the turns from there on would have to pass what none of them changes
    obtain ⟨j, hj⟩ := (consumed_iterate_iff k).mpr hconsumed
    rw [Function.iterate_fixed (turn_of_empty hempty)] at hj
    exact hne hj
  · intro h
    -- what goes on makes the text shorter, and goes on behind the turn as well
    induction hsize : cs.length using Nat.strong_induction_on generalizing cs with
    | _ size ih =>
      by_cases hcs : cs = []
      · exact ⟨0, hcs⟩
      · have hlt := length_turn_lt hcs fun kind => h 0 kind hcs
        rw [hsize] at hlt
        refine consumed_turn_iff.mp (ih _ hlt (fun k kind => ?_) rfl)
        exact h (k + 1) kind

/-! ## Piece by piece -/

/-- A turn at a character that nothing matches. -/
theorem piecesFrom_of_unmatched {c : Char} (offset : ℕ)
    (h : ∀ kind n, ¬ Matches g (c :: cs) kind n) :
    piecesFrom g offset 0 (c :: cs) =
      (piecesFrom g (offset + c.utf8Size) 0 cs).map (⟨.unmatched, offset, [c]⟩ :: ·) := by
  rw [piecesFrom, best?_eq_none_iff.mpr h]

/-- A turn where something is taken. -/
theorem piecesFrom_of_preferred {taken rest : List Char} (offset : ℕ)
    (h : Preferred g (taken ++ rest) kind (byteLength taken)) (htaken : taken ≠ []) :
    piecesFrom g offset 0 (taken ++ rest) =
      (piecesFrom g (offset + byteLength taken) 0 rest).map (⟨kind, offset, taken⟩ :: ·) := by
  have hbest := best?_eq_some_iff.mpr h
  cases taken with
  | nil => exact absurd rfl htaken
  | cons c pre =>
    obtain ⟨n, hlength, hle, hrest⟩ := exists_byteLength_cons c pre
    have hsplit := splitBytes?_append (c :: pre) rest
    rw [List.cons_append] at hbest hsplit ⊢
    rw [hlength] at hbest hsplit
    rw [piecesFrom, hbest]
    dsimp only
    rw [hsplit]
    dsimp only
    rw [hrest, piecesFrom_append, byteLength_cons, Nat.add_assoc]

/-- A turn where an empty match is to be taken. -/
theorem piecesFrom_of_empty (offset : ℕ) (hcs : cs ≠ []) (h : Preferred g cs kind 0) :
    piecesFrom g offset 0 cs = none := by
  obtain ⟨c, rest, rfl⟩ := List.exists_cons_of_ne_nil hcs
  rw [piecesFrom, best?_eq_some_iff.mpr h]

/-- **A turn that goes on cuts off a lexeme in its place.** -/
theorem piecesFrom_turn (offset : ℕ) (hcs : cs ≠ []) (h : ∀ kind, ¬ Preferred g cs kind 0) :
    ∃ l, l.offset = offset ∧ cs = l.text ++ turn g cs ∧ InPlace g l (turn g cs) ∧
      piecesFrom g offset 0 cs =
        (piecesFrom g (offset + l.length) 0 (turn g cs)).map (l :: ·) := by
  rcases turn_cases g hcs with ⟨c, heq, hnone⟩ | ⟨taken, kind, htaken, heq, hpreferred⟩ |
    ⟨kind, hempty⟩
  · generalize turn g cs = rest at heq
    subst heq
    refine ⟨⟨.unmatched, offset, [c]⟩, rfl, rfl, ⟨List.cons_ne_nil _ _,
      fun hkind => absurd rfl hkind, fun _ pre post heq hpost => ?_⟩,
      piecesFrom_of_unmatched offset hnone⟩
    obtain ⟨rfl, rfl⟩ : pre = [] ∧ post = [c] := by
      rcases List.append_eq_singleton_iff.mp heq with h | ⟨-, rfl⟩
      · exact h
      · exact absurd rfl hpost
    exact hnone
  · generalize turn g cs = rest at heq
    subst heq
    exact ⟨⟨kind, offset, taken⟩, rfl, rfl, ⟨htaken, fun _ => hpreferred,
      fun hkind => absurd hkind hpreferred.found.ne_unmatched⟩,
      piecesFrom_of_preferred offset hpreferred htaken⟩
  · exact absurd hempty (h kind)

/-- A text is passed exactly if it has pieces. -/
theorem consumed_iff_piecesFrom (offset : ℕ) :
    Consumed g cs ↔ ∃ ls, piecesFrom g offset 0 cs = some ls := by
  induction hsize : cs.length using Nat.strong_induction_on generalizing cs offset with
  | _ size ih =>
    by_cases hcs : cs = []
    · rw [hcs, piecesFrom]
      exact ⟨fun _ => ⟨[], rfl⟩, fun _ => ⟨0, rfl⟩⟩
    · by_cases hgoes : ∀ kind, ¬ Preferred g cs kind 0
      · have hshorter := length_turn_lt hcs hgoes
        rw [hsize] at hshorter
        obtain ⟨l, -, -, -, hturn⟩ := piecesFrom_turn offset hcs hgoes
        rw [← consumed_turn_iff, ih _ hshorter (offset + l.length) rfl, hturn]
        simp
      · obtain ⟨kind, hempty⟩ := not_forall_not.mp hgoes
        have hnot : ¬ Consumed g cs := fun hconsumed =>
          consumed_iff_goes_on.mp hconsumed 0 kind hcs hempty
        simp [piecesFrom_of_empty offset hcs hempty, hnot]

/-- **A text has lexemes exactly if it is passed.** -/
theorem consumed_iff_ofText? : Consumed g cs ↔ ∃ ls, ofText? g cs = some ls := by
  simp [consumed_iff_piecesFrom 0, ofText?]

end Lexeme

/-- The keywords of rules are those in their bodies. -/
theorem mem_collectKeywords {rules : List Rule} {keyword : String} :
    keyword ∈ collectKeywords rules ↔ ∃ rule ∈ rules, keyword ∈ rule.body.keywords := by
  rw [collectKeywords, List.mem_eraseDups, List.mem_mergeSort, List.mem_flatMap]

/-- A terminal that compiles does not match the empty text. -/
theorem TerminalDef.compile_ok {t : TerminalDef} {terminal : Terminal}
    (h : t.compile = .ok terminal) : terminal.matcher.findEnd? [] = none := by
  rw [TerminalDef.compile] at h
  split at h
  · cases h
  · next matcher _ =>
    split at h
    · cases h
    · next hmatches =>
      cases h
      rwa [Program.matchesEmpty, Bool.not_eq_true, Option.isSome_eq_false_iff,
        Option.isNone_iff_eq_none] at hmatches

/-- **An empty match that compiling does not see**: the empty keyword of a
rule, or a terminal that matches nothing here and does not match the empty
text. -/
def Lexeme.Overlooked (g : Grammar) (cs : List Char) (kind : LexemeKind) : Prop :=
  (kind = .keyword "" ∧ ∃ rule ∈ g.rules, "" ∈ rule.body.keywords) ∨
  ∃ index terminal, kind = .terminal index ∧ g.terminals[index]? = some terminal ∧
    terminal.matcher.findEnd? cs = some 0 ∧ terminal.matcher.findEnd? [] = none

/-- All empty matches of a compiled grammar are of this kind. -/
theorem Definition.overlooked {d : Definition} {g : Grammar} (h : d.build = .ok g)
    {cs : List Char} {kind : LexemeKind} (hmatch : Lexeme.Matches g cs kind 0) :
    Lexeme.Overlooked g cs kind := by
  obtain ⟨terminals, rules, last, entry, hterminals, -, -, rfl⟩ := Definition.build_ok h
  generalize hn : 0 = n at hmatch
  cases hmatch with
  | keyword hkeyword _ =>
    rw [String.utf8ByteSize_eq_zero_iff.mp hn.symm] at hkeyword ⊢
    obtain ⟨rule, hrule, hbody⟩ := mem_collectKeywords.mp hkeyword
    exact .inl ⟨rfl, rule, List.mem_toArray.mpr hrule, hbody⟩
  | @terminal index terminal _ hterminal hfound =>
    rw [← hn] at hfound
    have hcompiled : terminals[index]? = some terminal := by
      rw [← List.getElem?_toArray]
      exact hterminal
    obtain ⟨t, -, ht⟩ := getElem?_of_mapM hterminals hcompiled
    exact .inr ⟨index, terminal, rfl, hterminal, hfound, TerminalDef.compile_ok ht⟩

/-- **Which texts of a compiled grammar are passed.** All of them are exactly
if no text starts with an empty match that is to be taken. One of them is
exactly if it has lexemes, and exactly if none of the places it is led to
starts so. At such a place every turn leaves the text as it is, and it is
there for a keyword or a terminal that compiling overlooks; at any other place
a turn passes a character that nothing matches, or the match to be taken. -/
theorem Definition.consumed_iff {d : Definition} {g : Grammar} (h : d.build = .ok g) :
    ((∀ cs, Lexeme.Consumed g cs) ↔ ∀ cs ≠ [], ∀ kind, ¬ Lexeme.Preferred g cs kind 0) ∧
    ∀ cs, (Lexeme.Consumed g cs ↔ ∃ ls, Lexeme.ofText? g cs = some ls) ∧
      (Lexeme.Consumed g cs ↔ ∀ k kind, (Lexeme.turn g)^[k] cs ≠ [] →
        ¬ Lexeme.Preferred g ((Lexeme.turn g)^[k] cs) kind 0) ∧
      (cs ≠ [] →
        (∃ c, cs = c :: Lexeme.turn g cs ∧ ∀ kind n, ¬ Lexeme.Matches g cs kind n) ∨
        (∃ taken kind, taken ≠ [] ∧ cs = taken ++ Lexeme.turn g cs ∧
          Lexeme.Preferred g cs kind (byteLength taken)) ∨
        ∃ kind, Lexeme.Preferred g cs kind 0 ∧ Lexeme.Overlooked g cs kind ∧
          ∀ k, (Lexeme.turn g)^[k] cs = cs) := by
  refine ⟨⟨fun hall cs hcs kind => ?_, fun hnone cs => ?_⟩, fun cs =>
    ⟨Lexeme.consumed_iff_ofText?, Lexeme.consumed_iff_goes_on, fun hcs => ?_⟩⟩
  · exact Lexeme.consumed_iff_goes_on.mp (hall cs) 0 kind hcs
  · exact Lexeme.consumed_iff_goes_on.mpr fun k kind hrest => hnone _ hrest kind
  · rcases Lexeme.turn_cases g hcs with hone | htaken | ⟨kind, hempty⟩
    · exact .inl hone
    · exact .inr (.inl htaken)
    · exact .inr (.inr ⟨kind, hempty, Definition.overlooked h hempty.found,
        fun k => Function.iterate_fixed (Lexeme.turn_of_empty hempty) k⟩)

/-! ## The edge of a word -/

namespace Edges

/-- A model of one keyword, with edges of words skipped. -/
def definition : Definition :=
  { name := "Edges"
    terminals := [⟨"Edge", "\\b", .skip, .text⟩]
    rules := [⟨"Model", some "Model", .keyword "x"⟩]
    entry := none }

/-- The compiled definition. -/
def grammar : Grammar := definition.grammar

theorem build_definition : definition.build = .ok grammar :=
  Definition.build_of_isOk (by decide +kernel)

end Edges

/-- There is no edge in the empty text, so the definition compiles. A digit
has one before it, which is found there for ever. -/
theorem Definition.consumed_iff_edges :
    Edges.definition.build = .ok Edges.grammar ∧
    Lexeme.ofText? Edges.grammar ['x'] = some [⟨.keyword "x", 0, ['x']⟩] ∧
    Lexeme.Preferred Edges.grammar ['1'] (.terminal 0) 0 ∧
    (∀ k, (Lexeme.turn Edges.grammar)^[k] ['1'] = ['1']) ∧
    ¬ Lexeme.Consumed Edges.grammar ['1'] := by
  obtain ⟨-, hplaces⟩ := Definition.consumed_iff Edges.build_definition
  obtain ⟨-, hgoes, -⟩ := hplaces ['1']
  have hbest : Lexeme.best? Edges.grammar ['1'] = some (.terminal 0, 0) := by decide +kernel
  have hempty := Lexeme.best?_eq_some_iff.mp hbest
  refine ⟨Edges.build_definition, by decide +kernel, hempty,
    fun k => Function.iterate_fixed (Lexeme.turn_of_empty hempty) k, fun hconsumed => ?_⟩
  exact hgoes.mp hconsumed 0 (.terminal 0) (List.cons_ne_nil _ _) hempty

end Workbench
