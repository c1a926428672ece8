import Workbench.Proofs.DomainModel
import Workbench.Proofs.Grammar.Progressive
import Workbench.Proofs.Parse.Choice
import Workbench.Proofs.Parse.Deeper
/-!
# Errors are bounded by the tokens

The entry rule is matched again and again, with an error and some tokens
skipped in between (`Recovery`). Each round but the last skips a token that is
not hidden, so there are no more of them than such tokens, and no more errors
than one for each of these and one at the end. With that, the rounds come to
an end without being counted.
-/

namespace Workbench

namespace Parse

variable {src : Source} {body body' : Step Bool} {s s' t : State}

/-- **The rounds of the entry rule** from one state to another, with the states
before and after what is skipped in each round but the last. -/
inductive Recovery (src : Source) (body : Step Bool) :
    State → List (State × State) → State → Prop where
  /-- The body matches and leaves nothing. -/
  | matched {s t : State} : attemptMatch body s = .ok (true, t) →
    t.nextSignificant src = none → Recovery src body s [] t
  /-- The body does not match, and there is nothing to skip. -/
  | failed {s s₁ s₂ : State} : attemptMatch body s = .ok (false, s₁) →
    s₁.nextSignificant src = none → check s₁ = .ok ((), s₂) →
    Recovery src body s [] (reported src s₂)
  | round {s s₁ s₂ t : State} {b : Bool} {next : ℕ} {skips : List (State × State)} :
    attemptMatch body s = .ok (b, s₁) → s₁.nextSignificant src = some next →
    check s₁ = .ok ((), s₂) →
    Recovery src body (skipped src next (reported src s₂)) skips t →
    Recovery src body s ((reported src s₂, skipped src next (reported src s₂)) :: skips) t

/-- The entry rule under other bounds: how deep calls are nested, and how many
rounds there are. -/
def entryWithin (src : Source) (rule : Rule) (depth n : ℕ) : Step Unit := do
  recover src (element src (callRule src depth) rule.body) n
  modify fun s => s.attachHidden src (src.tokens.size - s.pos)

/-! ## One round -/

/-- An error is reported where the round stands. -/
theorem reported_pos {u : Unit} (h : check s = .ok (u, s')) :
    (reported src s').pos = s.pos := by
  obtain ⟨interrupt, rfl⟩ := check_ok h
  rfl

/-- An attempt does not go back. -/
theorem attemptMatch_pos {b : Bool} (hgrown : ∀ s b s', body s = .ok (b, s') → Grown s s')
    (h : attemptMatch body s = .ok (b, s')) : s.pos ≤ s'.pos := by
  cases b with
  | true => exact (hgrown _ _ _ (attemptMatch_ok h)).pos
  | false =>
    obtain ⟨furthest, steps, interrupt, rfl⟩ := attemptMatch_false hgrown h
    exact Nat.le_refl _

/-- Skipping tokens passes as many of them as there are. -/
theorem skipTokens_pos : ∀ (n : ℕ) (s : State), s.pos + n ≤ src.tokens.size →
    (skipTokens src n s).pos = s.pos + n
  | 0, s, _ => rfl
  | n + 1, s, h => by
    have hlt : s.pos < src.tokens.size := by omega
    rw [skipTokens, Array.getElem?_eq_getElem hlt]
    dsimp only
    rw [skipTokens_pos n _ (by dsimp only; omega)]
    dsimp only
    omega

/-- **What is skipped after an error** reaches behind the furthest failure and
the next token. -/
theorem pos_skipped {next : ℕ} (hle : s.pos ≤ next) (hlt : next < src.tokens.size) :
    (skipped src next s).pos = min (max s.furthest.pos next) (src.tokens.size - 1) + 1 := by
  rw [skipped]
  dsimp only
  rw [skipTokens_pos _ _ (by omega)]
  omega

theorem lt_pos_skipped {next : ℕ} (hle : s.pos ≤ next) (hlt : next < src.tokens.size) :
    next < (skipped src next s).pos := by
  rw [pos_skipped hle hlt]
  omega

/-- What is not hidden behind a place, and what is behind a later one. -/
theorem length_significantAt_le {pos pos' : ℕ} (h : pos ≤ pos') :
    (src.significantAt pos').length ≤ (src.significantAt pos).length := by
  have hdrop : src.tokens.toList.drop pos' = (src.tokens.toList.drop pos).drop (pos' - pos) := by
    rw [List.drop_drop, Nat.add_sub_cancel' h]
  rw [Source.significantAt, Source.significantAt, hdrop]
  exact ((List.drop_sublist _ _).filter _).length_le

/-- The next token is there and not hidden. -/
theorem nextSignificant_spec {next : ℕ} (h : s.nextSignificant src = some next) :
    ∃ tok, src.tokens[next]? = some tok ∧ tok.hidden = false ∧ s.pos ≤ next ∧
      (src.significantAt (next + 1)).length < (ahead src s).length := by
  obtain ⟨tok, htok, hahead⟩ := ahead_eq_cons h
  have hmem : tok ∈ ahead src s := by
    rw [hahead]
    exact List.mem_cons_self
  have hhidden := (List.mem_filter.mp hmem).2
  refine ⟨tok, htok, by simpa using hhidden, significantFrom_ge _ _ _ h, ?_⟩
  rw [hahead, List.length_cons]
  exact Nat.lt_succ_self _

/-! ## All rounds -/

namespace Recovery

variable {skips : List (State × State)}

/-- **The rounds are those that are counted**, if they are enough. -/
theorem recover_eq (h : Recovery src body s skips t) :
    ∀ n, skips.length < n → recover src body n s = .ok ((), t) := by
  induction h with
  | matched hmatch hnext =>
    intro n hn
    obtain ⟨n, rfl⟩ : ∃ n', n = n' + 1 := ⟨n - 1, by omega⟩
    exact recover_last hmatch hnext
  | @failed s s₁ s₂ hmatch hnext hcheck =>
    intro n hn
    obtain ⟨n, rfl⟩ : ∃ n', n = n' + 1 := ⟨n - 1, by omega⟩
    rw [recover]
    refine (bind_of_ok hmatch).trans (get_then.trans ?_)
    dsimp only
    rw [hnext]
    exact (bind_of_ok hcheck).trans rfl
  | @round s s₁ s₂ t b next skips hmatch hnext hcheck _ ih =>
    intro n hn
    rw [List.length_cons] at hn
    obtain ⟨n, rfl⟩ : ∃ n', n = n' + 1 := ⟨n - 1, by omega⟩
    rw [recover]
    refine (bind_of_ok hmatch).trans (get_then.trans ?_)
    dsimp only
    rw [hnext]
    have hrest := ih n (by omega)
    cases b <;> exact (bind_of_ok hcheck).trans hrest

/-- A body with the same outcomes has the same rounds. -/
theorem mono (hbody : Below body body') (h : Recovery src body s skips t) :
    Recovery src body' s skips t := by
  induction h with
  | matched hmatch hnext => exact .matched (hbody.attemptMatch _ _ hmatch) hnext
  | failed hmatch hnext hcheck => exact .failed (hbody.attemptMatch _ _ hmatch) hnext hcheck
  | round hmatch hnext hcheck _ ih =>
    exact .round (hbody.attemptMatch _ _ hmatch) hnext hcheck ih

/-- **Each round but the last skips a token that is not hidden.** -/
theorem skips_significant (h : Recovery src body s skips t) :
    ∀ p ∈ skips, ∃ index tok, src.tokens[index]? = some tok ∧ tok.hidden = false ∧
      p.1.pos ≤ index ∧ index < p.2.pos := by
  induction h with
  | matched => exact nofun
  | failed => exact nofun
  | @round s s₁ s₂ t b next skips _ hnext hcheck _ ih =>
    refine List.forall_mem_cons.mpr ⟨?_, ih⟩
    obtain ⟨tok, htok, hhidden, hle, -⟩ := nextSignificant_spec hnext
    have hpos : (reported src s₂).pos ≤ next := by
      rw [reported_pos hcheck]
      exact hle
    exact ⟨next, tok, htok, hhidden, hpos,
      lt_pos_skipped hpos (Array.getElem?_eq_some_iff.mp htok).1⟩

/-- There are no more such rounds than tokens ahead. -/
theorem length_skips_le (hgrown : ∀ s b s', body s = .ok (b, s') → Grown s s')
    (h : Recovery src body s skips t) : skips.length ≤ (ahead src s).length := by
  induction h with
  | matched => exact Nat.zero_le _
  | failed => exact Nat.zero_le _
  | @round s s₁ s₂ t b next skips hmatch hnext hcheck _ ih =>
    obtain ⟨tok, htok, -, hle, hfewer⟩ := nextSignificant_spec hnext
    have hpos : (reported src s₂).pos = s₁.pos := reported_pos hcheck
    have hskipped : next < (skipped src next (reported src s₂)).pos :=
      lt_pos_skipped (hpos ▸ hle) (Array.getElem?_eq_some_iff.mp htok).1
    have hrest : (ahead src (skipped src next (reported src s₂))).length ≤
        (src.significantAt (next + 1)).length := length_significantAt_le hskipped
    -- the attempt may pass tokens too, but it does not go back
    have hmatched : (ahead src s₁).length ≤ (ahead src s).length :=
      length_significantAt_le (attemptMatch_pos hgrown hmatch)
    rw [List.length_cons]
    omega

/-- **One error is reported in each round**, and maybe one in the last. -/
theorem length_errors_le (hgrown : ∀ s b s', body s = .ok (b, s') → Grown s s')
    (h : Recovery src body s skips t) :
    t.errors.length ≤ s.errors.length + skips.length + 1 := by
  have hreported : ∀ {s s₁ s₂ : State} {b : Bool}, attemptMatch body s = .ok (b, s₁) →
      check s₁ = .ok ((), s₂) → (reported src s₂).errors.length = s.errors.length + 1 := by
    intro s s₁ s₂ b hmatch hcheck
    rw [reported, errors_check hcheck, errors_attemptMatch hgrown hmatch, List.length_append]
    rfl
  induction h with
  | matched hmatch _ =>
    rw [errors_attemptMatch hgrown hmatch]
    exact Nat.le_succ _
  | failed hmatch _ hcheck => exact Nat.le_of_eq (hreported hmatch hcheck)
  | @round s s₁ s₂ t b next skips hmatch _ hcheck _ ih =>
    have herrors : (skipped src next (reported src s₂)).errors = (reported src s₂).errors :=
      errors_skipTokens _ _
    rw [herrors, hreported hmatch hcheck] at ih
    rw [List.length_cons]
    omega

end Recovery

/-- **The rounds come to an end** if the body does, since each of them leaves
fewer tokens. -/
theorem Recovery.exists {c : Prop}
    (hbody : ∀ s, Quiet src s → Ends src s.pos body s fun b => b = true ∧ c)
    (hs : Quiet src s) : ∃ skips t, Recovery src body s skips t := by
  induction hleft : src.tokens.size - s.pos using Nat.strong_induction_on generalizing s with
  | _ left ih =>
    obtain ⟨b, s₁, hmatch, hs₁, hle, -⟩ := (hbody s hs).attemptMatch hs
    cases hnext : s₁.nextSignificant src with
    | none =>
      cases b with
      | true => exact ⟨[], s₁, .matched hmatch hnext⟩
      | false => exact ⟨[], _, .failed hmatch hnext hs₁.check⟩
    | some next =>
      obtain ⟨tok, htok, -, hge, -⟩ := nextSignificant_spec hnext
      have hlt := (Array.getElem?_eq_some_iff.mp htok).1
      have hpos : next < (skipped src next (reported src s₁)).pos := lt_pos_skipped hge hlt
      -- the body may have passed nothing, but what is skipped includes `next`
      have hreported : Quiet src (reported src s₁) := hs₁.congr rfl rfl
      have hskipped : Quiet src (skipped src next (reported src s₁)) :=
        (hreported.skipTokens _).congr rfl rfl
      obtain ⟨skips, t, hrest⟩ := ih _ (by omega) hskipped rfl
      exact ⟨_, t, .round hmatch hnext hs₁.check hrest⟩

/-- **Parsing comes to an end with bounded errors**, in a grammar that was
built and in which no rule is entered again before a token is passed, from any
rule and over any tokens, if nothing interrupts it; the language of domain
models has such a grammar. The rounds of the entry rule come to an end. Each
of them but the last skips a token that is not hidden, and there is at most
one error more than such tokens. The interpreter does what it would do under
any higher bounds, on the nesting of calls, the rounds of the entry rule and
those of repetitions. -/
theorem entry_bounded :
    DomainModel.grammar.Progressive ∧
    ∀ (src : Source) {d : Definition}, d.build = .ok src.grammar → src.grammar.Progressive →
    ∀ rule : Rule, ∃ skips t s,
      Recovery src (element src (callRule src (callDepth src)) rule.body)
        (State.start src rule .never) skips t ∧
      (∀ p ∈ skips, ∃ index tok, src.tokens[index]? = some tok ∧ tok.hidden = false ∧
        p.1.pos ≤ index ∧ index < p.2.pos) ∧
      s = t.attachHidden src (src.tokens.size - t.pos) ∧
      s.errors.length ≤ (src.significantAt 0).length + 1 ∧
      entry src rule (State.start src rule .never) = .ok ((), s) ∧
      ∀ depth, callDepth src ≤ depth →
        (∀ n, src.tokens.size < n →
          entryWithin src rule depth n (State.start src rule .never) = .ok ((), s)) ∧
        ∀ once e s' n, Quiet src s' → src.tokens.size - s'.pos < n →
          rounds once (element src (callRule src depth) e) n s' =
            rounds once (element src (callRule src depth) e) (src.tokens.size - s'.pos + 1) s' := by
  refine ⟨DomainModel.graded_grammar.progressive, fun src {d} hbuild hprogressive rule => ?_⟩
  obtain ⟨rules, rank, hgraded⟩ := (Definition.progressive_iff_graded hbuild).mp hprogressive
  have hstart : Quiet src (State.start src rule .never) := ⟨rfl, Nat.zero_le _⟩
  have hgrown : ∀ s b s', element src (callRule src (callDepth src)) rule.body s = .ok (b, s') →
      Grown s s' := fun _ _ _ => Grown.element
  obtain ⟨skips, t, hrecovery⟩ := Recovery.exists
    (fun _ hs => Ends.element_callRule hgraded (Nat.le_refl _) rule.body hs) hstart
  have hskips := hrecovery.length_skips_le hgrown
  have herrors := hrecovery.length_errors_le hgrown
  -- the rounds that are made fit in any bound beyond the tokens, under any deeper nesting
  have hwithin : ∀ depth n, callDepth src ≤ depth → src.tokens.size < n →
      entryWithin src rule depth n (State.start src rule .never) =
        .ok ((), t.attachHidden src (src.tokens.size - t.pos)) := by
    intro depth n hdepth hn
    have hfew : skips.length < n := by
      have hall := length_ahead_le src (State.start src rule .never)
      omega
    have hrecover := (hrecovery.mono
      (Below.element (Below.callRule src hdepth) rule.body)).recover_eq n hfew
    exact (bind_of_ok hrecover).trans rfl
  refine ⟨skips, t, _, hrecovery, hrecovery.skips_significant, rfl, ?_,
    hwithin _ _ (Nat.le_refl _) (Nat.lt_succ_self _), fun depth hdepth =>
      ⟨fun n hn => hwithin depth n hdepth hn, fun once e s' n hs' hn => ?_⟩⟩
  · rw [(Grown.attachHidden _ t).errors]
    have hnone : (State.start src rule .never).errors.length = 0 := rfl
    have hahead : ahead src (State.start src rule .never) = src.significantAt 0 := rfl
    rw [hahead] at hskips
    omega
  · exact rounds_bound hs' (fun s'' hs'' _ => Ends.element_callRule hgraded hdepth e hs'') hn
      (Nat.lt_succ_self _)

/-! ## Nothing fits -/

namespace Unfit

open Transfer.Overwritten (grammar)

/-- Two tokens that no rule expects, with a note between them. -/
def source : Source :=
  { grammar
    text := "y#y"
    chars := ['y', '#', 'y']
    tokens := #[
      ⟨.keyword "y", "y", 0, 1, "y", ⟨⟨0, 0⟩, ⟨0, 1⟩⟩, false⟩,
      ⟨.terminal 0, "Note", 1, 1, "#", ⟨⟨0, 1⟩, ⟨0, 2⟩⟩, true⟩,
      ⟨.keyword "y", "y", 2, 1, "y", ⟨⟨0, 2⟩, ⟨0, 3⟩⟩, false⟩] }

theorem graded_grammar : Graded grammar (fun _ => false) fun i => 1 - i :=
  Graded.of_isGraded (by decide) fun i => by
    show 1 - i < 2
    omega

end Unfit

/-- Three errors are reported for two tokens: one for each and one at the end. -/
theorem entry_bounded_unfit :
    Transfer.Overwritten.definition.build = .ok Unfit.source.grammar ∧
    Unfit.source.grammar.Progressive ∧ (Unfit.source.significantAt 0).length = 2 ∧
    ∃ s, entry Unfit.source Transfer.Overwritten.grammar.rules[0]
        (State.start Unfit.source Transfer.Overwritten.grammar.rules[0] .never) = .ok ((), s) ∧
      s.errors.length = 3 ∧ s.errors.length ≤ (Unfit.source.significantAt 0).length + 1 := by
  have hprogressive : Unfit.source.grammar.Progressive := Unfit.graded_grammar.progressive
  obtain ⟨-, hbounded⟩ := entry_bounded
  obtain ⟨skips, t, s, -, -, -, herrors, hentry, -⟩ :=
    hbounded Unfit.source Transfer.Overwritten.build_definition hprogressive
      Transfer.Overwritten.grammar.rules[0]
  refine ⟨Transfer.Overwritten.build_definition, hprogressive, by decide, s, hentry, ?_,
    herrors⟩
  have hcount : (entry Unfit.source Transfer.Overwritten.grammar.rules[0]
      (State.start Unfit.source Transfer.Overwritten.grammar.rules[0] .never)).toOption.map
        (fun r => r.2.errors.length) = some 3 := by decide +kernel
  rw [hentry] at hcount
  exact Option.some.inj hcount

end Parse

end Workbench
