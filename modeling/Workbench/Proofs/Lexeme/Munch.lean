import Workbench.Proofs.Lexeme.Loop
import Mathlib.Data.List.Infix
/-!
# Texts are cut into the longest matches

The lexemes of a text are found match by match, and runs of what nothing
matches are joined behind. What they are can be said of each at its place,
however it was found (`Munched`): the match to be taken there, or a run of
characters at none of which anything matches, with no other run next to it.
A text is cut so in one way, and its lexemes are that cut.
-/

namespace Workbench

open Text

namespace Lexeme

variable {g : Grammar} {cs : List Char}

/-! ## Lexemes in their places -/

/-- **What cuts a text exactly**: lexemes that lie side by side from an offset
on and spell the text, each in its place, and no two runs of what nothing
matches next to each other. -/
structure Munched (g : Grammar) (offset : ℕ) (cs : List Char) (ls : List Lexeme) : Prop where
  tiles : Tiles offset ls cs
  inPlace : ∀ before l after, ls = before ++ l :: after → InPlace g l (after.flatMap Lexeme.text)
  apart : ls.IsChain fun a b => ¬ (a.kind = .unmatched ∧ b.kind = .unmatched)

/-- Two runs side by side are one. -/
theorem InPlace.append {l next : Lexeme} {rest : List Char}
    (hl : InPlace g l (next.text ++ rest)) (hnext : InPlace g next rest)
    (hkind : l.kind = .unmatched) (hkind' : next.kind = .unmatched) :
    InPlace g ⟨.unmatched, l.offset, l.text ++ next.text⟩ rest := by
  refine ⟨List.append_ne_nil_of_left_ne_nil hl.nonempty _, fun hnot => absurd rfl hnot,
    fun _ pre post heq hpost => ?_⟩
  -- a character of the joined run is one of the first or one of the second
  rcases List.append_eq_append_iff.mp heq with ⟨mid, hfirst, rfl⟩ | ⟨mid, rfl, hsecond⟩
  · by_cases hmid : mid = []
    · rw [hmid, List.nil_append]
      exact hnext.unmatched hkind' [] next.text rfl hnext.nonempty
    · rw [List.append_assoc]
      exact hl.unmatched hkind pre mid hfirst.symm hmid
  · exact hnext.unmatched hkind' mid post hsecond.symm hpost

/-- Each lexeme is in its place, one after the other. -/
theorem forall_inPlace_cons {l : Lexeme} {ls : List Lexeme} :
    (∀ before l' after, l :: ls = before ++ l' :: after →
        InPlace g l' (after.flatMap Lexeme.text)) ↔
      InPlace g l (ls.flatMap Lexeme.text) ∧
        ∀ before l' after, ls = before ++ l' :: after →
          InPlace g l' (after.flatMap Lexeme.text) := by
  constructor
  · intro h
    refine ⟨h [] l ls rfl, fun before l' after heq => h (l :: before) l' after ?_⟩
    rw [heq, List.cons_append]
  · rintro ⟨hhead, htail⟩ before l' after heq
    cases before with
    | nil =>
      cases heq
      exact hhead
    | cons first before =>
      cases heq
      exact htail before l' after rfl

namespace Munched

variable {offset : ℕ} {l : Lexeme} {ls : List Lexeme}

theorem nil (g : Grammar) (offset : ℕ) : Munched g offset [] [] :=
  ⟨.nil offset, fun before l after heq => (List.append_ne_nil_of_right_ne_nil before
    (List.cons_ne_nil l after) heq.symm).elim, .nil⟩

/-- **One piece in front**, joined with a run if it is one itself. -/
theorem join (h : Munched g (l.offset + l.length) cs ls) (hl : InPlace g l cs) :
    Munched g l.offset (l.text ++ cs) (Lexeme.join l ls) := by
  have htext := h.tiles.flatMap_text
  have htiles := (Tiles.cons h.tiles).join
  cases ls with
  | nil =>
    refine ⟨htiles, ?_, List.isChain_singleton l⟩
    rw [Lexeme.join, forall_inPlace_cons, htext]
    exact ⟨hl, h.inPlace⟩
  | cons next rest =>
    have hnext := forall_inPlace_cons.mp h.inPlace
    rw [List.flatMap_cons] at htext
    rw [Lexeme.join] at htiles ⊢
    split at htiles
    · next hruns =>
      -- the joined run takes the place of the next one, which had no run behind it
      rw [if_pos hruns]
      refine ⟨htiles, ?_, ?_⟩
      · rw [← htext] at hl
        rw [forall_inPlace_cons]
        exact ⟨hl.append hnext.1 hruns.1 hruns.2, hnext.2⟩
      · exact h.apart.imp_head fun hapart hboth => hapart ⟨hruns.2, hboth.2⟩
    · next hruns =>
      rw [if_neg hruns]
      refine ⟨htiles, ?_, List.isChain_cons_cons.mpr ⟨hruns, h.apart⟩⟩
      rw [forall_inPlace_cons, List.flatMap_cons, htext]
      exact ⟨hl, h.inPlace⟩

/-- The pieces of a text, joined, cut it exactly. -/
theorem of_piecesFrom (h : piecesFrom g offset 0 cs = some ls) :
    Munched g offset cs (ls.foldr Lexeme.join []) := by
  induction hsize : cs.length using Nat.strong_induction_on generalizing cs offset ls with
  | _ size ih =>
    by_cases hcs : cs = []
    · rw [hcs, piecesFrom] at h
      cases h
      rw [hcs]
      exact .nil g offset
    · have hgoes : ∀ kind, ¬ Preferred g cs kind 0 := by
        intro kind hempty
        rw [piecesFrom_of_empty offset hcs hempty] at h
        cases h
      have hshorter := length_turn_lt hcs hgoes
      obtain ⟨l, rfl, htext, hplace, hturn⟩ := piecesFrom_turn offset hcs hgoes
      rw [hturn] at h
      obtain ⟨ls, hls, rfl⟩ := Option.map_eq_some_iff.mp h
      rw [hsize] at hshorter
      have hjoined := (ih _ hshorter hls rfl).join hplace
      rw [← htext] at hjoined
      exact hjoined

/-- **The lexemes of a text cut it exactly.** -/
theorem of_ofText? (h : ofText? g cs = some ls) : Munched g 0 cs ls := by
  obtain ⟨pieces, hpieces, rfl⟩ := Option.map_eq_some_iff.mp h
  exact of_piecesFrom hpieces

/-- The first lexeme, and what is left behind it. -/
theorem exists_cons (h : Munched g offset cs ls) (hcs : cs ≠ []) :
    ∃ l rest after, ls = l :: after ∧ cs = l.text ++ rest ∧ l.offset = offset ∧
      InPlace g l rest ∧ Munched g (offset + l.length) rest after ∧
      ∀ next ∈ after.head?, ¬ (l.kind = .unmatched ∧ next.kind = .unmatched) := by
  obtain ⟨htiles, hplace, hapart⟩ := h
  cases htiles with
  | nil => exact absurd rfl hcs
  | @cons l after rest htiles =>
    obtain ⟨hl, hafter⟩ := forall_inPlace_cons.mp hplace
    rw [htiles.flatMap_text] at hl
    rw [List.isChain_cons] at hapart
    exact ⟨l, rest, after, rfl, rfl, rfl, hl, ⟨htiles, hafter, hapart.2⟩, hapart.1⟩

theorem eq_nil (h : Munched g offset [] ls) : ls = [] := by
  obtain ⟨htiles, hplace, -⟩ := h
  cases ls with
  | nil => rfl
  | cons l after =>
    have htext := htiles.flatMap_text
    rw [List.flatMap_cons] at htext
    exact absurd (List.append_eq_nil_iff.mp htext).1 (forall_inPlace_cons.mp hplace).1.nonempty

/-- A run goes on as long as nothing matches: what comes behind it does not
start with characters of another run. -/
theorem run_stops {run : Lexeme} {pre mid rest : List Char}
    (h : Munched g offset (mid ++ rest) ls) (hfirst : ∀ next ∈ ls.head?, next.kind ≠ .unmatched)
    (hrun : InPlace g run rest) (hkind : run.kind = .unmatched) (htext : run.text = pre ++ mid) :
    mid = [] := by
  by_contra hmid
  obtain ⟨l, rest', after, rfl, heq, -, hl, -⟩ :=
    h.exists_cons (List.append_ne_nil_of_left_ne_nil hmid rest)
  have hmatch := (hl.preferred (hfirst l rfl)).found
  rw [← heq] at hmatch
  exact hrun.unmatched hkind pre mid htext.symm hmid _ _ hmatch

end Munched

/-- A run does not stand where something is taken. -/
theorem InPlace.not_unmatched {l l' : Lexeme} {rest rest' : List Char} (hl : InPlace g l rest)
    (hl' : InPlace g l' rest') (heq : l.text ++ rest = l'.text ++ rest')
    (hkind : l.kind ≠ .unmatched) : l'.kind ≠ .unmatched := by
  intro hkind'
  have hmatch := (hl.preferred hkind).found
  rw [heq] at hmatch
  exact hl'.unmatched hkind' [] l'.text rfl hl'.nonempty _ _ hmatch

/-- **A text is cut in one way.** -/
theorem Munched.unique {offset : ℕ} {ls ls' : List Lexeme} (h : Munched g offset cs ls)
    (h' : Munched g offset cs ls') : ls = ls' := by
  induction hsize : cs.length using Nat.strong_induction_on generalizing cs offset ls ls' with
  | _ size ih =>
    by_cases hcs : cs = []
    · rw [hcs] at h h'
      rw [h.eq_nil, h'.eq_nil]
    · obtain ⟨l, rest, after, rfl, heq, hoffset, hl, hafter, hapart⟩ := h.exists_cons hcs
      obtain ⟨l', rest', after', rfl, heq', hoffset', hl', hafter', hapart'⟩ := h'.exists_cons hcs
      have hboth : l.text ++ rest = l'.text ++ rest' := heq.symm.trans heq'
      -- both are runs, and stop at the same place, or both are the match to be taken
      have hsame : l.kind = l'.kind ∧ l.text = l'.text ∧ rest = rest' := by
        by_cases hkind : l.kind = .unmatched
        · have hkind' : l'.kind = .unmatched := by
            by_contra hkind'
            exact hl'.not_unmatched hl hboth.symm hkind' hkind
          refine ⟨hkind.trans hkind'.symm, ?_⟩
          rcases List.append_eq_append_iff.mp hboth with
            ⟨mid, htext, rfl⟩ | ⟨mid, htext, rfl⟩
          · obtain rfl := hafter.run_stops (fun next hnext hrun => hapart next hnext ⟨hkind, hrun⟩)
              hl' hkind' htext
            rw [htext, List.append_nil]
            exact ⟨rfl, rfl⟩
          · obtain rfl := hafter'.run_stops
              (fun next hnext hrun => hapart' next hnext ⟨hkind', hrun⟩) hl hkind htext
            rw [htext, List.append_nil]
            exact ⟨rfl, rfl⟩
        · have hpreferred := hl.preferred hkind
          rw [hboth] at hpreferred
          obtain ⟨hkinds, hlengths⟩ :=
            hpreferred.unique (hl'.preferred (hl.not_unmatched hl' hboth hkind))
          exact ⟨hkinds, eq_of_byteLength_eq hboth hlengths⟩
      obtain ⟨hkind, htext, rfl⟩ := hsame
      have hlength : l.length = l'.length := congrArg byteLength htext
      have hshorter : rest.length < size := by
        have hpos := List.length_pos_of_ne_nil hl.nonempty
        rw [← hsize, heq, List.length_append]
        omega
      rw [hlength] at hafter
      rw [ih rest.length hshorter hafter hafter' rfl]
      obtain ⟨kind, start, chars⟩ := l
      obtain ⟨kind', start', chars'⟩ := l'
      dsimp only at hkind htext hoffset hoffset'
      rw [hkind, htext, hoffset, hoffset']

/-! ## Tokens, errors and what is skipped -/

/-- **What becomes of a lexeme**: a token, an error, or nothing if a skipped
terminal matched it. -/
def Sorted (g : Grammar) (l : Lexeme) (range : Range) : Prop :=
  (∃ t, Token.ofLexeme? g l range = some t ∧ l.error? range = none ∧ l.kind ≠ .unmatched ∧
    t.kind = l.kind ∧ t.offset = l.offset ∧ t.length = l.length) ∨
  (∃ e, Token.ofLexeme? g l range = none ∧ l.error? range = some e ∧ l.kind = .unmatched ∧
    e.offset = l.offset ∧ e.length = l.length) ∨
  (Token.ofLexeme? g l range = none ∧ l.error? range = none ∧ ∃ index terminal,
    l.kind = .terminal index ∧ g.terminals[index]? = some terminal ∧ terminal.kind = .skip)

/-- What becomes of the match of a terminal. -/
theorem ofLexeme?_terminal {index : ℕ} {terminal : Terminal}
    (h : g.terminals[index]? = some terminal) (offset : ℕ) (text : List Char) (range : Range) :
    Token.ofLexeme? g ⟨.terminal index, offset, text⟩ range =
      if terminal.kind = .skip then none
      else some ⟨.terminal index, terminal.name, offset, byteLength text, String.ofList text,
        range, terminal.kind = .hidden⟩ := by
  rw [Token.ofLexeme?]
  dsimp only
  rw [h]
  obtain ⟨name, pattern, kind, value, matcher⟩ := terminal
  cases kind <;> rfl

/-- A lexeme in its place becomes one of them. -/
theorem InPlace.sorted {l : Lexeme} {rest : List Char} (h : InPlace g l rest) (range : Range) :
    Sorted g l range := by
  obtain ⟨kind, offset, text⟩ := l
  by_cases hkind : kind = .unmatched
  · rw [hkind]
    exact .inr (.inl ⟨_, rfl, rfl, rfl, rfl, rfl⟩)
  · have hmatch := (h.preferred hkind).found
    generalize Lexeme.length _ = n at hmatch
    cases hmatch with
    | keyword => exact .inl ⟨_, rfl, rfl, hkind, rfl, rfl, rfl⟩
    | @terminal index terminal _ hterminal _ =>
      have htoken := ofLexeme?_terminal hterminal offset text range
      by_cases hskip : terminal.kind = .skip
      · rw [if_pos hskip] at htoken
        exact .inr (.inr ⟨htoken, rfl, index, terminal, rfl, hterminal, hskip⟩)
      · rw [if_neg hskip] at htoken
        exact .inl ⟨_, htoken, rfl, hkind, rfl, rfl, rfl⟩

theorem map_fst_withRanges (text : List Char) (ls : List Lexeme) :
    (withRanges text ls).map Prod.fst = ls := by
  rw [withRanges, List.map_map]
  exact List.map_id ls

/-- What becomes of the lexemes of a text. -/
theorem Munched.sorted {offset : ℕ} {ls : List Lexeme} (h : Munched g offset cs ls)
    (text : List Char) : ∀ e ∈ withRanges text ls, Sorted g e.1 e.2 := by
  intro e he
  have hmem : e.1 ∈ ls := by
    rw [← map_fst_withRanges text ls]
    exact List.mem_map_of_mem he
  obtain ⟨before, after, heq⟩ := List.append_of_mem hmem
  exact (h.inPlace before e.1 after heq).sorted e.2

end Lexeme

/-- **A text is cut into the longest matches**, and in no other way, if no
match at any of its places is empty: its lexemes lie side by side between
characters, in order and without overlap, and every byte is in one of them;
each is the match to be taken where it starts, of all terminals and of all
keywords in the rules, or a run of characters at none of which anything
matches; and runs are as long as can be. Each is a token, an error or a match
of a skipped terminal. -/
theorem Definition.munches {d : Definition} {g : Grammar} (h : d.build = .ok g) (text : String)
    (hpass : ∀ rest, rest <:+ text.toList → rest ≠ [] → ∀ kind, ¬ Lexeme.Matches g rest kind 0) :
    (∀ keyword, keyword ∈ g.keywords ↔ ∃ rule ∈ g.rules, keyword ∈ rule.body.keywords) ∧
    ∃ ls, Lexeme.ofText? g text.toList = some ls ∧
      (∀ ls', Lexeme.Munched g 0 text.toList ls' ↔ ls' = ls) ∧
      (∀ l ∈ ls, ∃ before after, text.toList = before ++ (l.text ++ after) ∧
        byteLength before = l.offset) ∧
      ls.Pairwise (fun a b => a.offset + a.length ≤ b.offset) ∧
      (∀ i < text.utf8ByteSize, ∃! l, l ∈ ls ∧ l.offset ≤ i ∧ i < l.offset + l.length) ∧
      (Lexeme.withRanges text.toList ls).map Prod.fst = ls ∧
      ∀ e ∈ Lexeme.withRanges text.toList ls, Lexeme.Sorted g e.1 e.2 := by
  refine ⟨fun keyword => ?_, ?_⟩
  · obtain ⟨terminals, rules, last, entry, -, -, -, rfl⟩ := Definition.build_ok h
    simp only [mem_collectKeywords, List.mem_toArray]
  · have hconsumed : Lexeme.Consumed g text.toList := Lexeme.consumed_iff_goes_on.mpr
      fun k kind hne hpreferred =>
        hpass _ (Lexeme.iterate_turn_suffix text.toList k) hne kind hpreferred.found
    obtain ⟨ls, htext⟩ := Lexeme.consumed_iff_ofText?.mp hconsumed
    have hmunched := Lexeme.Munched.of_ofText? htext
    refine ⟨ls, htext, fun ls' => ⟨fun h' => h'.unique hmunched, fun heq => heq ▸ hmunched⟩,
      hmunched.tiles.cut_out [], hmunched.tiles.ordered, fun i hlt => ?_,
      Lexeme.map_fst_withRanges _ _, hmunched.sorted _⟩
    rw [← byteLength_toList] at hlt
    exact hmunched.tiles.covers i (Nat.zero_le i) (by omega)

/-! ## Words and a choice -/

namespace Words

/-- Words, one of them a keyword, with blanks between them; a letter is a word
before it is a letter. -/
def definition : Definition :=
  { name := "Words"
    terminals := [⟨"Gap", " +", .skip, .text⟩, ⟨"Name", "[a-z]+", .token, .text⟩,
      ⟨"Letter", "[a-z]", .token, .text⟩]
    rules := [
      ⟨"Model", some "Model", .seq [.keyword "if", .repeated .many
        (.alt [.assign "names" .append (.terminal "Name"),
          .assign "letters" .append (.terminal "Letter")])]⟩]
    entry := none }

/-- The compiled definition. -/
def grammar : Grammar := definition.grammar

theorem build_definition : definition.build = .ok grammar :=
  Definition.build_of_isOk (by decide +kernel)

/-- A keyword, a longer word, a run of a character of two bytes and one of
one, and a letter. -/
def text : String := "if  ifs§?x"

theorem nonempty_matches : ∀ rest, rest <:+ text.toList → rest ≠ [] →
    ∀ kind, ¬ Lexeme.Matches grammar rest kind 0 := by
  have hall : ∀ rest ∈ text.toList.tails, ∀ c ∈ Lexeme.candidates grammar rest, c.2 ≠ 0 := by
    decide +kernel
  intro rest hrest _ kind hmatch
  exact hall rest ((List.mem_tails _ _).mpr hrest) _ (Lexeme.mem_candidates_iff.mpr hmatch) rfl

end Words

/-- The keyword and the letter win a tie, the longer word does not yield, and
two characters that nothing matches are one run. -/
theorem Definition.munches_words :
    (∀ rest, rest <:+ Words.text.toList → rest ≠ [] →
      ∀ kind, ¬ Lexeme.Matches Words.grammar rest kind 0) ∧
    ∃ ls, Lexeme.ofText? Words.grammar Words.text.toList = some ls ∧
      ls.map (fun l => (l.kind, l.offset, l.length)) =
        [(.keyword "if", 0, 2), (.terminal 0, 2, 2), (.terminal 1, 4, 3), (.unmatched, 7, 3),
          (.terminal 1, 10, 1)] ∧
      Lexeme.Munched Words.grammar 0 Words.text.toList ls := by
  obtain ⟨-, ls, hls, hmunched, -⟩ :=
    Definition.munches Words.build_definition Words.text Words.nonempty_matches
  refine ⟨Words.nonempty_matches, ls, hls, ?_, (hmunched ls).mpr rfl⟩
  have hkinds : (Lexeme.ofText? Words.grammar Words.text.toList).map
      (List.map fun l => (l.kind, l.offset, l.length)) =
        some [(.keyword "if", 0, 2), (.terminal 0, 2, 2), (.terminal 1, 4, 3), (.unmatched, 7, 3),
          (.terminal 1, 10, 1)] := by decide +kernel
  rw [hls] at hkinds
  exact Option.some.inj hkinds

end Workbench
