import Workbench.Proofs.Parse.Expression
import Workbench.Proofs.Parse.Grow
/-!
# The tokens ahead

Of a state a reading sees nothing but the tokens ahead, those that are not
hidden from its place on, and of a match nothing but which of them are left
(`Agrees`). Of all else only the product of a union matters: it tells whether
a call was used. Here the single steps of the interpreter are shown to agree
with the readings of elements that stand for one token, and attempts to
leave no trace.
-/

namespace Workbench

namespace Parse

variable {src : Source} {s s' s₁ : State} {e : Element} {b : Bool}

/-- The tokens from a place on that are not hidden. -/
def Source.significantAt (src : Source) (pos : Nat) : List Token :=
  (src.tokens.toList.drop pos).filter (!·.hidden)

/-- **The tokens ahead** of a state. -/
def ahead (src : Source) (s : State) : List Token := src.significantAt s.pos

/-- What a match has passed: nothing, or a token ahead. -/
def Passed (src : Source) (s s' : State) : Prop :=
  s'.pos = s.pos ∨ (ahead src s').length < (ahead src s).length

/-- **A match of an element agrees with its reading.** -/
structure Agrees (src : Source) (e : Element) (s : State) (b : Bool) (s' : State) : Prop where
  matched : b = true → ∃ used, Reads src.grammar e (ahead src s) (some (ahead src s', used)) ∧
    s'.produced.isSome = (s.produced.isSome || used)
  failed : b = false → Reads src.grammar e (ahead src s) none
  passed : b = true → Passed src s s'

/-- **A value that is found agrees with the reading of its element.** -/
structure Finds {α : Type} (src : Source) (e : Element) (s : State) (a : Option α) (s' : State) :
    Prop where
  matched : a.isSome = true →
    ∃ used, Reads src.grammar e (ahead src s) (some (ahead src s', used))
  failed : a.isSome = false → Reads src.grammar e (ahead src s) none
  passed : a.isSome = true → Passed src s s'
  produced : a.isSome = true → s'.produced = s.produced

/-! ## The tokens ahead -/

theorem ahead_congr (src : Source) (h : s'.pos = s.pos) : ahead src s' = ahead src s := by
  rw [ahead, ahead, h]

/-- The next token that is not hidden is the first of those ahead. -/
theorem significantFrom_cases (src : Source) : ∀ n i, src.tokens.size ≤ i + n →
    (State.significantFrom src.tokens n i = none → src.significantAt i = []) ∧
    ∀ index, State.significantFrom src.tokens n i = some index →
      ∃ tok, src.tokens[index]? = some tok ∧
        src.significantAt i = tok :: src.significantAt (index + 1) := by
  intro n
  induction n with
  | zero =>
    intro i hi
    refine ⟨fun _ => ?_, nofun⟩
    rw [Source.significantAt, List.drop_eq_nil_of_le (by simpa using hi), List.filter_nil]
  | succ n ih =>
    intro i hi
    rw [State.significantFrom]
    cases htok : src.tokens[i]? with
    | none =>
      refine ⟨fun _ => ?_, by simp⟩
      have hsize : src.tokens.size ≤ i := Array.getElem?_eq_none_iff.mp htok
      rw [Source.significantAt, List.drop_eq_nil_of_le (by simpa using hsize), List.filter_nil]
    | some tok =>
      obtain ⟨hlt, hget⟩ := Array.getElem?_eq_some_iff.mp htok
      have hdrop : src.tokens.toList.drop i = tok :: src.tokens.toList.drop (i + 1) := by
        rw [← hget]
        exact List.drop_eq_getElem_cons (by simpa using hlt)
      cases hhidden : tok.hidden with
      | true =>
        -- a hidden token is not ahead, and there is one fewer to look at
        have hskip : src.significantAt i = src.significantAt (i + 1) := by
          rw [Source.significantAt, hdrop, List.filter_cons_of_neg (by simp [hhidden])]
          rfl
        rw [hskip]
        simpa [hhidden] using ih (i + 1) (by omega)
      | false =>
        refine ⟨by simp [hhidden], fun index hindex => ?_⟩
        obtain rfl : i = index := by simpa [hhidden] using hindex
        refine ⟨tok, htok, ?_⟩
        rw [Source.significantAt, hdrop, List.filter_cons_of_pos (by simp [hhidden])]
        rfl

theorem ahead_eq_nil (h : s.nextSignificant src = none) : ahead src s = [] :=
  (significantFrom_cases src _ _ (by omega)).1 h

theorem ahead_eq_cons {index : Nat} (h : s.nextSignificant src = some index) :
    ∃ tok, src.tokens[index]? = some tok ∧
      ahead src s = tok :: src.significantAt (index + 1) :=
  (significantFrom_cases src _ _ (by omega)).2 index h

/-! ## Single steps -/

theorem produced_attachHidden (n : Nat) (s : State) :
    (s.attachHidden src n).produced = s.produced := by
  induction n generalizing s with
  | zero => rfl
  | succ n ih =>
    rw [State.attachHidden]
    split
    · rfl
    · refine (ih _).trans ?_
      dsimp only
      split <;> rfl

theorem pos_store (s : State) (node : NodeId) (feature : String) (op : AssignOp)
    (value : Assigned) : (s.store node feature op value).pos = s.pos := by
  cases value <;> rfl

theorem produced_store (s : State) (node : NodeId) (feature : String) (op : AssignOp)
    (value : Assigned) : (s.store node feature op value).produced = s.produced := by
  cases value <;> rfl

/-- Nothing that a reading depends on has changed before a match. -/
theorem Agrees.of_start (h : Agrees src e s₁ b s') (hpos : s₁.pos = s.pos)
    (hproduced : s₁.produced = s.produced) : Agrees src e s b s' where
  matched hb := by
    obtain ⟨used, hreads, hused⟩ := h.matched hb
    rw [ahead_congr src hpos] at hreads
    exact ⟨used, hreads, hproduced ▸ hused⟩
  failed hb := ahead_congr src hpos ▸ h.failed hb
  passed hb := by
    have := h.passed hb
    rwa [Passed, hpos, ahead_congr src hpos] at this

theorem Finds.of_start {α : Type} {a : Option α} (h : Finds src e s₁ a s')
    (hpos : s₁.pos = s.pos) (hproduced : s₁.produced = s.produced) : Finds src e s a s' where
  matched ha := ahead_congr src hpos ▸ h.matched ha
  failed ha := ahead_congr src hpos ▸ h.failed ha
  passed ha := by
    have := h.passed ha
    rwa [Passed, hpos, ahead_congr src hpos] at this
  produced ha := (h.produced ha).trans hproduced

/-- What is made of a value does not matter. -/
theorem Finds.map {α β : Type} {a : Option α} (h : Finds src e s a s') (f : α → β) :
    Finds src e s (a.map f) s' where
  matched ha := h.matched (by simpa using ha)
  failed ha := h.failed (by simpa using ha)
  passed ha := h.passed (by simpa using ha)
  produced ha := h.produced (by simpa using ha)

/-- A value that is not used is a match without a call. -/
theorem Finds.agrees {α : Type} {a : Option α} (h : Finds src e s a s')
    (hunused : ∀ tokens rest used, Reads src.grammar e tokens (some (rest, used)) →
      used = false) : Agrees src e s a.isSome s' where
  matched ha := by
    obtain ⟨used, hreads⟩ := h.matched ha
    refine ⟨used, hreads, ?_⟩
    rw [hunused _ _ _ hreads, h.produced ha, Bool.or_false]
  failed ha := h.failed ha
  passed ha := h.passed ha

/-- **A token is consumed if it is the one an element stands for.** -/
theorem token_finds {id : ElementId} {kind : LexemeKind} {label : String}
    {a : Option (CstId × Token)} (hsingle : e.single? = some kind)
    (h : token src id kind label s = .ok (a, s')) : Finds src e s a s' := by
  rw [token] at h
  dsimp only at h
  cases hnext : s.nextSignificant src with
  | none =>
    rw [hnext] at h
    cases h
    refine ⟨by simp, fun _ => ?_, by simp, by simp⟩
    rw [ahead_eq_nil hnext]
    exact .noToken hsingle (by simp)
  | some index =>
    obtain ⟨tok, htok, hahead⟩ := ahead_eq_cons hnext
    rw [hnext, Option.bind_eq_bind, Option.bind_some, htok, Option.bind_eq_bind,
      Option.bind_some] at h
    -- only the first token ahead is asked for its kind
    by_cases hkind : tok.kind = kind
    · rw [if_pos hkind] at h
      cases h
      refine ⟨fun _ => ⟨false, ?_⟩, by simp, fun _ => .inr ?_, fun _ => ?_⟩
      · rw [hahead]
        exact .token hsingle hkind
      · rw [hahead]
        exact Nat.lt_succ_self _
      · exact produced_attachHidden _ s
    · rw [if_neg hkind] at h
      cases h
      refine ⟨by simp, fun _ => .noToken hsingle fun token rest hcons => ?_, by simp, by simp⟩
      rw [hahead] at hcons
      cases hcons
      exact hkind

theorem unused_of_single {kind : LexemeKind} (hsingle : e.single? = some kind)
    {tokens rest : List Token} {used : Bool}
    (h : Reads src.grammar e tokens (some (rest, used))) : used = false := by
  cases h with
  | token => rfl
  | _ => cases hsingle

theorem used_of_call {id : ElementId} {index : Nat} {tokens rest : List Token} {used : Bool}
    (h : Reads src.grammar (.call id index) tokens (some (rest, used))) : used = true := by
  cases h with
  | token hsingle => cases hsingle
  | call => rfl

/-- An attempt that gives nothing has done nothing but note failures and
count. -/
theorem attempt_none {α : Type} {step : Step (Option α)}
    (hstep : ∀ s a s', step s = .ok (a, s') → Grown s s')
    (h : attempt step s = .ok (none, s')) :
    ∃ furthest steps interrupt, s' = { s with furthest, steps, interrupt } := by
  obtain ⟨s₁, hs, rfl⟩ := attempt_isNone h
  exact ⟨s₁.furthest, s₁.steps, s₁.interrupt, restore_mark (hstep s _ _ hs)⟩

end Parse

end Workbench
