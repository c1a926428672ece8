import Workbench.Proofs.Grammar.Graded
import Workbench.Proofs.Parse.Grow
/-!
# Parses come to an end

In a grammar without left recursion every parse that nothing interrupts has a
result. Elements are interpreted by recursion, repetitions end with a round
that passes no token, and each round of the entry rule skips one; what could
go on for ever are calls. A call inside another one starts behind it, or at
the same place and then with a rule of lower rank. So the tokens that are left
count with all ranks, and calls are never nested as deep as they may be.

`Ends` says of a step that it has an outcome, that it does not go back, and
which outcomes have passed a token.
-/

namespace Workbench

namespace Parse

variable {src : Source} {call : Call} {rules : ℕ → Bool} {s s' : State} {start start' pos pos' : ℕ}

/-- A state that nothing interrupts, at a place in the text. -/
structure Quiet (src : Source) (s : State) : Prop where
  interrupt : s.interrupt = .never
  pos : s.pos ≤ src.tokens.size

theorem Quiet.congr (h : Quiet src s) (hinterrupt : s'.interrupt = s.interrupt)
    (hpos : s'.pos = s.pos) : Quiet src s' :=
  ⟨hinterrupt.trans h.interrupt, hpos ▸ h.pos⟩

/-- A state that nothing interrupts goes on. -/
theorem Quiet.check (h : Quiet src s) : Parse.check s = .ok ((), s) := by
  have hnext : s.interrupt.check = some s.interrupt := by
    rw [h.interrupt]
    rfl
  rw [Parse.check, hnext]

/-- **A step that comes to an end**, not before the place `start`, and behind
it with some outcomes. -/
def Ends {α : Type} (src : Source) (start : ℕ) (x : Step α) (s : State) (passed : α → Prop) :
    Prop :=
  ∃ a s', x s = .ok (a, s') ∧ Quiet src s' ∧ start ≤ s'.pos ∧ (passed a → start < s'.pos)

namespace Ends

variable {α β : Type} {x : Step α} {f : α → Step β} {p p' : α → Prop} {q : β → Prop}

theorem pure {a : α} (hs : Quiet src s) (hle : start ≤ s.pos) (hp : p a → start < s.pos) :
    Ends src start (Pure.pure a) s p :=
  ⟨a, s, rfl, hs, hle, hp⟩

theorem bind (hx : Ends src start x s p)
    (hf : ∀ a s', Quiet src s' → start ≤ s'.pos → (p a → start < s'.pos) →
      Ends src start (f a) s' q) : Ends src start (x >>= f) s q := by
  obtain ⟨a, s₁, hrun, hs₁, hle, hpassed⟩ := hx
  obtain ⟨b, s₂, hrest, hend⟩ := hf a s₁ hs₁ hle hpassed
  refine ⟨b, s₂, ?_, hend⟩
  rw [bind_of_ok hrun]
  exact hrest

/-- A step that started further on has passed at least as much. -/
theorem mono (h : Ends src start' x s p') (hle : start ≤ start')
    (hp : ∀ a, p a → p' a ∨ start < start') : Ends src start x s p := by
  obtain ⟨a, s', hrun, hs', hle', hpassed⟩ := h
  refine ⟨a, s', hrun, hs', Nat.le_trans hle hle', fun ha => ?_⟩
  rcases hp a ha with ha | hlt
  · exact Nat.lt_of_le_of_lt hle (hpassed ha)
  · exact Nat.lt_of_lt_of_le hlt hle'

theorem of_get {f : State → Step α} (h : Ends src start (f s) s p) :
    Ends src start (MonadState.get >>= f) s p := h

theorem of_modify {f : State → State} (h : Ends src start x (f s) p) :
    Ends src start (do modify f; x) s p := h

/-- Counting an element changes nothing that matters. -/
theorem of_tick (hs : Quiet src s)
    (h : ∀ s', Quiet src s' → s'.pos = s.pos → Ends src start x s' p) :
    Ends src start (do tick; x) s p := by
  have htick : ∃ s', Parse.tick s = .ok ((), s') ∧ s'.interrupt = s.interrupt ∧ s'.pos = s.pos := by
    rw [Parse.tick]
    dsimp only
    split
    · have hcounted : Quiet src { s with steps := s.steps + 1 } := hs.congr rfl rfl
      exact ⟨_, hcounted.check, rfl, rfl⟩
    · exact ⟨_, rfl, rfl, rfl⟩
  obtain ⟨s₁, hrun, hinterrupt, hpos⟩ := htick
  obtain ⟨a, s₂, hrest, hend⟩ := h s₁ (hs.congr hinterrupt hpos) hpos
  refine ⟨a, s₂, ?_, hend⟩
  rw [bind_of_ok hrun]
  exact hrest

/-- **An attempt to match ends** where the step does, or where it began. -/
theorem attemptMatch {x : Step Bool} {c : Prop} (hs : Quiet src s)
    (h : Ends src s.pos x s fun b => b = true ∧ c) :
    Ends src s.pos (Parse.attemptMatch x) s fun b => b = true ∧ c := by
  obtain ⟨b, s', hrun, hs', hle, hpassed⟩ := h
  rw [Ends, Parse.attemptMatch, matchOrRestore, hrun]
  cases b with
  | true => exact ⟨true, s', rfl, hs', hle, hpassed⟩
  | false =>
    refine ⟨false, s'.restore s.mark, rfl, ⟨hs'.interrupt, hs.pos⟩, Nat.le_refl _, ?_⟩
    rintro ⟨hb, -⟩
    cases hb

theorem attempt {x : Step (Option α)} {c : Prop} (hs : Quiet src s)
    (h : Ends src s.pos x s fun a => a.isSome = true ∧ c) :
    Ends src s.pos (Parse.attempt x) s fun a => a.isSome = true ∧ c := by
  obtain ⟨a, s', hrun, hs', hle, hpassed⟩ := h
  rw [Ends, Parse.attempt, orRestore, hrun]
  cases a with
  | some a => exact ⟨some a, s', rfl, hs', hle, hpassed⟩
  | none =>
    refine ⟨none, s'.restore s.mark, rfl, ⟨hs'.interrupt, hs.pos⟩, Nat.le_refl _, ?_⟩
    rintro ⟨ha, -⟩
    cases ha

end Ends

/-! ## Tokens -/

theorem interrupt_attachHidden (n : ℕ) (s : State) :
    (s.attachHidden src n).interrupt = s.interrupt := by
  induction n generalizing s with
  | zero => rfl
  | succ n ih =>
    rw [State.attachHidden]
    split
    · rfl
    · refine (ih _).trans ?_
      dsimp only
      split <;> rfl

theorem pos_expect (src : Source) (s : State) (label : String) :
    (s.expect src label).pos = s.pos := by
  rw [State.expect]
  split
  · rfl
  · split <;> rfl

theorem interrupt_expect (src : Source) (s : State) (label : String) :
    (s.expect src label).interrupt = s.interrupt := by
  rw [State.expect]
  split
  · rfl
  · split <;> rfl

/-- **A token that is found is passed.** -/
theorem Ends.token {id : ElementId} {kind : LexemeKind} {label : String} (hs : Quiet src s) :
    Ends src s.pos (token src id kind label) s fun a => a.isSome = true := by
  have hrun : ∃ a s', Parse.token src id kind label s = .ok (a, s') := by
    rw [Parse.token]
    dsimp only
    split <;> exact ⟨_, _, rfl⟩
  obtain ⟨a, s', hrun⟩ := hrun
  rcases token_ok hrun with ⟨index, tok, hnext, htok, rfl, -⟩ | ⟨rfl, rfl⟩
  · have hge : s.pos ≤ index := significantFrom_ge _ _ _ hnext
    have hlt : index < src.tokens.size := (Array.getElem?_eq_some_iff.mp htok).1
    have hinterrupt : (s.consume src index tok (some id)).interrupt = s.interrupt :=
      interrupt_attachHidden _ s
    have hpos : (s.consume src index tok (some id)).pos = index + 1 := rfl
    refine ⟨a, _, hrun, ⟨hinterrupt.trans hs.interrupt, ?_⟩, ?_, fun _ => ?_⟩ <;>
    · rw [hpos]
      omega
  · have hquiet := hs.congr (interrupt_expect src s label) (pos_expect src s label)
    exact ⟨none, _, hrun, hquiet, (Nat.le_of_eq (pos_expect src s label).symm), by simp⟩

/-! ## Elements -/

/-- **Calls that come to an end**: all behind a place, and some at it. -/
def Served (src : Source) (rules : ℕ → Bool) (call : Call) (pos : ℕ) (leads : List ℕ) : Prop :=
  ∀ id rule s, Quiet src s → pos < s.pos ∨ (s.pos = pos ∧ rule ∈ leads) →
    Ends src s.pos (call id rule) s fun a => a.isSome = true ∧ rules rule = false

theorem Served.after {leads leads' : List ℕ} (h : Served src rules call pos leads)
    (hle : pos ≤ pos') (hsub : pos' = pos → leads' ⊆ leads) :
    Served src rules call pos' leads' := by
  intro id rule s hs hcases
  refine h id rule s hs ?_
  rcases Nat.eq_or_lt_of_le hle with heq | hlt
  · rcases hcases with hlt | ⟨hpos, hmem⟩
    · exact Or.inl (Nat.lt_of_le_of_lt hle hlt)
    · exact Or.inr ⟨hpos.trans heq.symm, hsub heq.symm hmem⟩
  · refine Or.inl ?_
    rcases hcases with hlt' | ⟨hpos, -⟩ <;> omega

mutual

/-- **The value of an element is found or not**, if the calls it may make
end. -/
theorem Ends.assigned : ∀ (e : Element) (s : State), Quiet src s →
    Served src rules call s.pos (e.leads rules) →
    Ends src s.pos (assigned src call e) s fun a => a.isSome = true ∧ e.idle rules = false
  | .keyword id text, s, hs, _ => by
    rw [Parse.assigned]
    refine .of_tick hs fun s₁ hs₁ hpos => ?_
    rw [← hpos]
    refine .bind (.token hs₁) fun a s₂ hs₂ hle hpassed => ?_
    -- a token that was found was passed
    exact .pure hs₂ hle fun ⟨ha, _⟩ => hpassed (by simpa using ha)
  | .terminal id index, s, hs, _ => by
    rw [Parse.assigned]
    refine .of_tick hs fun s₁ hs₁ hpos => ?_
    rw [← hpos]
    refine .bind (.token hs₁) fun a s₂ hs₂ hle hpassed => ?_
    exact .pure hs₂ hle fun ⟨ha, _⟩ => hpassed (by simpa using ha)
  | .call id rule, s, hs, hcall => by
    rw [Parse.assigned]
    refine .of_tick hs fun s₁ hs₁ hpos => ?_
    have hends := hcall id rule s₁ hs₁ (Or.inr ⟨hpos, List.mem_singleton.mpr rfl⟩)
    rw [hpos] at hends
    refine .bind hends fun a s₂ hs₂ hle hpassed => ?_
    exact .pure hs₂ hle fun ⟨ha, hidle⟩ => hpassed ⟨by simpa using ha, hidle⟩
  | .crossRef id target index, s, hs, _ => by
    rw [Parse.assigned]
    refine .of_tick hs fun s₁ hs₁ hpos => ?_
    rw [← hpos]
    refine .bind (.token hs₁) fun a s₂ hs₂ hle hpassed => ?_
    exact .pure hs₂ hle fun ⟨ha, _⟩ => hpassed (by simpa using ha)
  | .alt id items, s, hs, hcall => by
    rw [Parse.assigned]
    refine .of_tick hs fun s₁ hs₁ hpos => ?_
    rw [← hpos] at hcall ⊢
    exact Ends.firstAssigned items s₁ hs₁ hcall
  | .assign _ _ _ _, s, hs, _ => by
    rw [Parse.assigned]
    exact .of_tick hs fun s₁ hs₁ hpos => .pure hs₁ (Nat.le_of_eq hpos.symm) nofun
  | .seq _ _, s, hs, _ => by
    rw [Parse.assigned]
    exact .of_tick hs fun s₁ hs₁ hpos => .pure hs₁ (Nat.le_of_eq hpos.symm) nofun
  | .repeated _ _ _, s, hs, _ => by
    rw [Parse.assigned]
    exact .of_tick hs fun s₁ hs₁ hpos => .pure hs₁ (Nat.le_of_eq hpos.symm) nofun

theorem Ends.firstAssigned : ∀ (items : List Element) (s : State), Quiet src s →
    Served src rules call s.pos (Element.leadsAny rules items) →
    Ends src s.pos (firstAssigned src call items) s fun a =>
      a.isSome = true ∧ Element.idleAny rules items = false
  | [], s, hs, _ => by
    rw [Parse.firstAssigned]
    exact .pure hs (Nat.le_refl _) nofun
  | item :: items, s, hs, hcall => by
    rw [Parse.firstAssigned]
    have hitem := Ends.assigned item s hs
      (hcall.after (Nat.le_refl _) fun _ => List.subset_append_left _ _)
    refine .bind (hitem.attempt hs) fun a s₁ hs₁ hle hpassed => ?_
    rw [Element.idleAny, Bool.or_eq_false_iff]
    cases a with
    | some value => exact .pure hs₁ hle fun ⟨_, hidle, _⟩ => hpassed ⟨rfl, hidle⟩
    | none =>
      have hitems := Ends.firstAssigned items s₁ hs₁
        (hcall.after hle fun _ => List.subset_append_right _ _)
      exact hitems.mono hle fun _ ⟨ha, _, hidle⟩ => Or.inl ⟨ha, hidle⟩

end

/-- **Repetitions end**, since each round but the last one passes a token. -/
theorem Ends.rounds {once : Bool} {body : Step Bool} {c : Prop} :
    ∀ (n : ℕ) (s : State), Quiet src s →
    (∀ s', Quiet src s' → s.pos ≤ s'.pos → Ends src s'.pos body s' fun b => b = true ∧ c) →
    Ends src s.pos (rounds once body n) s fun k => 0 < k ∧ c
  | 0, s, hs, _ => .pure hs (Nat.le_refl _) fun h => absurd h.1 (Nat.lt_irrefl 0)
  | n + 1, s, hs, hbody => by
    rw [Parse.rounds]
    have hround := (hbody s hs (Nat.le_refl _)).attemptMatch hs
    refine .of_get (.bind hround fun b s₁ hs₁ hle hpassed => ?_)
    cases b with
    | false => exact .pure hs₁ hle fun h => absurd h.1 (Nat.lt_irrefl 0)
    | true =>
      refine .of_get ?_
      split
      · exact .pure hs₁ hle fun h => hpassed ⟨rfl, h.2⟩
      · have hlt : s.pos < s₁.pos := by
          simp only [Bool.or_eq_true, not_or, decide_eq_true_eq] at *
          omega
        have hrest : Ends src s₁.pos (Parse.rounds once body n) s₁ fun k => 0 < k ∧ c :=
          Ends.rounds n s₁ hs₁ fun s' hs' hle' => hbody s' hs' (Nat.le_trans hle hle')
        have hend : Ends src s₁.pos (do return (← Parse.rounds once body n) + 1) s₁
            fun _ => False :=
          .bind hrest fun k s₂ hs₂ hle₂ _ => .pure hs₂ hle₂ (by simp)
        exact hend.mono hle fun _ _ => Or.inr hlt

mutual

/-- **An element matches or not**, if the calls it may make end. -/
theorem Ends.element : ∀ (e : Element) (s : State), Quiet src s →
    Served src rules call s.pos (e.leads rules) →
    Ends src s.pos (element src call e) s fun b => b = true ∧ e.idle rules = false
  | .keyword id text, s, hs, _ => by
    rw [Parse.element]
    refine .of_tick hs fun s₁ hs₁ hpos => ?_
    rw [← hpos]
    exact .bind (.token hs₁) fun a s₂ hs₂ hle hpassed => .pure hs₂ hle fun ⟨ha, _⟩ => hpassed ha
  | .terminal id index, s, hs, _ => by
    rw [Parse.element]
    refine .of_tick hs fun s₁ hs₁ hpos => ?_
    rw [← hpos]
    exact .bind (.token hs₁) fun a s₂ hs₂ hle hpassed => .pure hs₂ hle fun ⟨ha, _⟩ => hpassed ha
  | .call id rule, s, hs, hcall => by
    rw [Parse.element]
    refine .of_tick hs fun s₁ hs₁ hpos => ?_
    -- the call comes first here, so it is one of those that lead
    have hends := hcall id rule s₁ hs₁ (Or.inr ⟨hpos, List.mem_singleton.mpr rfl⟩)
    rw [hpos] at hends
    refine .bind hends fun a s₂ hs₂ hle hpassed => ?_
    cases a with
    | none => exact .pure hs₂ hle nofun
    | some node =>
      exact .of_modify (.pure (hs₂.congr rfl rfl) hle fun ⟨_, hidle⟩ => hpassed ⟨rfl, hidle⟩)
  | .crossRef _ _ _, s, hs, _ => by
    rw [Parse.element]
    exact .of_tick hs fun s₁ hs₁ hpos => .pure hs₁ (Nat.le_of_eq hpos.symm) nofun
  | .assign id feature op value, s, hs, hcall => by
    rw [Parse.element]
    refine .of_tick hs fun s₁ hs₁ hpos => .of_get ?_
    cases s₁.node with
    | none => exact .pure hs₁ (Nat.le_of_eq hpos.symm) nofun
    | some node =>
      rw [← hpos] at hcall ⊢
      refine .bind (Ends.assigned value s₁ hs₁ hcall) fun a s₂ hs₂ hle hpassed => ?_
      cases a with
      | none => exact .pure hs₂ hle nofun
      | some value =>
        have hstored : Quiet src (s₂.store node feature op value) := by
          cases value <;> exact hs₂.congr rfl rfl
        refine .of_modify (.pure hstored ?_ fun ⟨_, hidle⟩ => ?_)
        · cases value <;> exact hle
        · cases value <;> exact hpassed ⟨rfl, hidle⟩
  | .seq id items, s, hs, hcall => by
    rw [Parse.element]
    refine .of_tick hs fun s₁ hs₁ hpos => ?_
    rw [← hpos] at hcall ⊢
    exact Ends.allElements items s₁ hs₁ hcall
  | .alt id items, s, hs, hcall => by
    rw [Parse.element]
    refine .of_tick hs fun s₁ hs₁ hpos => ?_
    rw [← hpos] at hcall ⊢
    exact Ends.firstElement items s₁ hs₁ hcall
  | .repeated id cardinality body, s, hs, hcall => by
    rw [Parse.element]
    refine .of_tick hs fun s₁ hs₁ hpos => .of_get ?_
    rw [← hpos] at hcall ⊢
    -- no round goes back, so each may make the calls that the first may make
    have hbody : ∀ s', Quiet src s' → s₁.pos ≤ s'.pos → Ends src s'.pos
        (Parse.element src call body) s' fun b => b = true ∧ body.idle rules = false :=
      fun s' hs' hle => Ends.element body s' hs' (hcall.after hle fun _ => List.Subset.refl _)
    refine .bind (.rounds _ s₁ hs₁ hbody) fun k s₂ hs₂ hle hpassed => ?_
    refine .pure hs₂ hle ?_
    rintro ⟨hmatched, hidle⟩
    rw [Element.idle, Bool.or_eq_false_iff] at hidle
    rw [hidle.1, Bool.or_false, decide_eq_true_eq] at hmatched
    exact hpassed ⟨hmatched, hidle.2⟩

theorem Ends.allElements : ∀ (items : List Element) (s : State), Quiet src s →
    Served src rules call s.pos (Element.leadsAll rules items) →
    Ends src s.pos (allElements src call items) s fun b =>
      b = true ∧ Element.idleAll rules items = false
  | [], s, hs, _ => by
    rw [Parse.allElements]
    exact .pure hs (Nat.le_refl _) nofun
  | item :: items, s, hs, hcall => by
    rw [Parse.allElements]
    have hitem := Ends.element item s hs
      (hcall.after (Nat.le_refl _) fun _ => List.subset_append_left _ _)
    refine .bind hitem fun b s₁ hs₁ hle hpassed => ?_
    cases b with
    | false => exact .pure hs₁ hle nofun
    | true =>
      -- at the same place still, the item may match without a token
      have hsub : s₁.pos = s.pos →
          Element.leadsAll rules items ⊆ Element.leadsAll rules (item :: items) := by
        intro hpos
        have hidle : item.idle rules = true := by
          by_contra hnot
          have hlt := hpassed ⟨rfl, Bool.eq_false_iff.mpr hnot⟩
          omega
        rw [Element.leadsAll.eq_2, if_pos hidle]
        exact List.subset_append_right _ _
      have hitems := Ends.allElements items s₁ hs₁ (hcall.after hle hsub)
      refine hitems.mono hle ?_
      rintro b ⟨hb, hidle⟩
      rw [Element.idleAll, Bool.and_eq_false_iff] at hidle
      rcases hidle with hidle | hidle
      · exact Or.inr (hpassed ⟨rfl, hidle⟩)
      · exact Or.inl ⟨hb, hidle⟩

theorem Ends.firstElement : ∀ (items : List Element) (s : State), Quiet src s →
    Served src rules call s.pos (Element.leadsAny rules items) →
    Ends src s.pos (firstElement src call items) s fun b =>
      b = true ∧ Element.idleAny rules items = false
  | [], s, hs, _ => by
    rw [Parse.firstElement]
    exact .pure hs (Nat.le_refl _) nofun
  | item :: items, s, hs, hcall => by
    rw [Parse.firstElement]
    have hitem := Ends.element item s hs
      (hcall.after (Nat.le_refl _) fun _ => List.subset_append_left _ _)
    refine .bind (hitem.attemptMatch hs) fun b s₁ hs₁ hle hpassed => ?_
    rw [Element.idleAny, Bool.or_eq_false_iff]
    cases b with
    | true => exact .pure hs₁ hle fun ⟨_, hidle, _⟩ => hpassed ⟨rfl, hidle⟩
    | false =>
      have hitems := Ends.firstElement items s₁ hs₁
        (hcall.after hle fun _ => List.subset_append_right _ _)
      exact hitems.mono hle fun _ ⟨hb, _, hidle⟩ => Or.inl ⟨hb, hidle⟩

end

/-! ## Calls -/

/-- **A call ends** if it may be nested deeply enough: the tokens that are
left count with all ranks, the rule with its own. -/
theorem Ends.callRule {rank : ℕ → ℕ} (h : Graded src.grammar rules rank) :
    ∀ (depth : ℕ) (id : ElementId) (index : ℕ) (s : State), Quiet src s →
    (src.tokens.size - s.pos) * src.grammar.rules.size + rank index < depth →
    Ends src s.pos (callRule src depth id index) s fun a =>
      a.isSome = true ∧ rules index = false
  | 0, _, _, _, _, hdepth => absurd hdepth (Nat.not_lt_zero _)
  | depth + 1, id, index, s, hs, hdepth => by
    rw [Ends, Parse.callRule]
    dsimp only
    cases hrule : src.grammar.rules[index]? with
    | none => exact ⟨none, s, rfl, hs, Nat.le_refl _, by simp⟩
    | some rule =>
      have hopen : Quiet src (openCall rule id s.mark s) := hs.congr rfl rfl
      -- the calls of the body come with one level fewer, and what counts has fallen
      have hserved : Served src rules (Parse.callRule src depth) s.pos
          (rule.body.leads rules) := by
        intro id' index' s' hs' hcases
        refine Ends.callRule h depth id' index' s' hs' ?_
        rcases hcases with hlt | ⟨hpos, hmem⟩
        · -- a token fewer is left, which counts more than the rank
          have hbound := h.rank_bound index'
          have hsize := hs'.pos
          have hfewer : src.tokens.size - s'.pos + 1 ≤ src.tokens.size - s.pos := by omega
          have hcount := Nat.mul_le_mul_right src.grammar.rules.size hfewer
          rw [Nat.add_mul, Nat.one_mul] at hcount
          omega
        · have hrank := h.rank_lt index rule hrule index' hmem
          rw [hpos]
          omega
      obtain ⟨b, s', hrun, hs', hle, hpassed⟩ := Ends.element rule.body _ hopen hserved
      simp only [closeCall, hrun]
      split
      · next node _ =>
        refine ⟨some node, _, rfl, hs'.congr rfl rfl, hle, fun hboth => hpassed ⟨?_, ?_⟩⟩
        · rfl
        · have hidle := hboth.2
          by_contra hnot
          rw [h.idle index rule hrule (by simpa using hnot)] at hidle
          cases hidle
      · exact ⟨none, _, rfl, ⟨hs'.interrupt, hs.pos⟩, Nat.le_refl _, by simp⟩

/-! ## The entry rule -/

theorem Quiet.skipTokens (h : Quiet src s) (n : ℕ) : Quiet src (skipTokens src n s) := by
  induction n generalizing s with
  | zero => exact h
  | succ n ih =>
    rw [Parse.skipTokens]
    split
    · exact h
    · next token htoken =>
      exact ih ⟨h.interrupt, (Array.getElem?_eq_some_iff.mp htoken).1⟩

/-- **Recovery ends**, since its rounds are counted. -/
theorem Ends.recover {body : Step Bool} {c : Prop}
    (hbody : ∀ s, Quiet src s → Ends src s.pos body s fun b => b = true ∧ c) :
    ∀ (n : ℕ) (s : State), Quiet src s → Ends src 0 (recover src body n) s fun _ => False
  | 0, s, hs => .pure hs (Nat.zero_le _) (by simp)
  | n + 1, s, hs => by
    rw [Parse.recover]
    have hmatch := (hbody s hs).attemptMatch hs
    refine .bind (hmatch.mono (Nat.zero_le _) fun _ h => Or.inl h) fun b s₁ hs₁ _ _ => .of_get ?_
    have hreport : ∀ next : Option ℕ, Ends src 0 (do
        check
        modify (reported src)
        next.elim (return ()) fun next => do
          modify (skipped src next)
          Parse.recover src body n : Step Unit) s₁ fun _ => False := by
      intro next
      refine .bind (p := fun _ => False) ⟨(), s₁, hs₁.check, hs₁, Nat.zero_le _, by simp⟩
        fun _ s₂ hs₂ _ _ => .of_modify (f := reported src) ?_
      cases next with
      | none => exact .pure (hs₂.congr rfl rfl) (Nat.zero_le _) (by simp)
      | some next =>
        have hreported : Quiet src (reported src s₂) := hs₂.congr rfl rfl
        have hskipped : Quiet src (skipped src next (reported src s₂)) :=
          (hreported.skipTokens _).congr rfl rfl
        exact .of_modify (f := skipped src next) (Ends.recover hbody n _ hskipped)
    generalize s₁.nextSignificant src = next
    cases b with
    | false => cases next with
      | none => exact hreport none
      | some next => exact hreport (some next)
    | true => cases next with
      | none => exact .pure hs₁ (Nat.zero_le _) (by simp)
      | some next => exact hreport (some next)

/-- **Elements end** in a grammar without left recursion, if calls may be
nested as deep as they are. -/
theorem Ends.element_callRule {rank : ℕ → ℕ} (h : Graded src.grammar rules rank) {depth : ℕ}
    (hdepth : callDepth src ≤ depth) (e : Element) (hs : Quiet src s) :
    Ends src s.pos (Parse.element src (Parse.callRule src depth) e) s fun b =>
      b = true ∧ e.idle rules = false := by
  refine Ends.element e s hs fun id index s' hs' _ => ?_
  refine Ends.callRule h depth id index s' hs' ?_
  have hbound := h.rank_bound index
  have hcount := Nat.mul_le_mul_right src.grammar.rules.size
    (Nat.sub_le src.tokens.size s'.pos)
  rw [callDepth, Nat.add_mul, Nat.one_mul] at hdepth
  omega

end Parse

end Workbench
