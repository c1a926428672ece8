import Workbench.Proofs.Parse.Ends
/-!
# Bounds do not show

The interpreter is bounded in three ways: calls are nested so deep at most,
repetitions and the entry rule have so many rounds at most. Where a step has
an outcome it has the same one under higher bounds (`Below`). So in a grammar
without left recursion, where every step has an outcome, the bounds are never
met: a parse does what it would do without them.
-/

namespace Workbench

namespace Parse

variable {src : Source} {call call' : Call} {s : State}

/-- **A step whose outcomes are those of another**, where it has any. -/
def Below {α : Type} (x y : Step α) : Prop := ∀ s r, x s = .ok r → y s = .ok r

/-- Calls whose outcomes are those of others, where they have any. -/
def CallsBelow (call call' : Call) : Prop := ∀ id rule, Below (call id rule) (call' id rule)

namespace Below

variable {α β : Type} {x y : Step α} {f f' : α → Step β}

theorem refl (x : Step α) : Below x x := fun _ _ h => h

theorem bind (hx : Below x y) (hf : ∀ a, Below (f a) (f' a)) : Below (x >>= f) (y >>= f') := by
  rintro s ⟨b, s'⟩ h
  obtain ⟨a, s₁, hrun, hrest⟩ := bind_ok h
  rw [bind_of_ok (hx s _ hrun)]
  exact hf a s₁ _ hrest

/-- The same step first. -/
theorem next (x : Step α) (hf : ∀ a, Below (f a) (f' a)) : Below (x >>= f) (x >>= f') :=
  bind (refl x) hf

/-- Where a step has no outcome it gives up, else the other one does the same. -/
theorem cases (h : Below x y) (s : State) : (∃ abort, x s = .error abort) ∨ x s = y s := by
  cases hx : x s with
  | error abort => exact .inl ⟨abort, rfl⟩
  | ok r => exact .inr (h s r hx).symm

theorem attempt {x y : Step (Option α)} (h : Below x y) :
    Below (Parse.attempt x) (Parse.attempt y) := by
  intro s r hrun
  rw [Parse.attempt, orRestore] at hrun ⊢
  rcases h.cases s with ⟨abort, hx⟩ | hx
  · rw [hx] at hrun
    cases hrun
  · rw [← hx]
    exact hrun

theorem attemptMatch {x y : Step Bool} (h : Below x y) :
    Below (Parse.attemptMatch x) (Parse.attemptMatch y) := by
  intro s r hrun
  rw [Parse.attemptMatch, matchOrRestore] at hrun ⊢
  rcases h.cases s with ⟨abort, hx⟩ | hx
  · rw [hx] at hrun
    cases hrun
  · rw [← hx]
    exact hrun

theorem closeCall {rule : Rule} {m : Mark} {x y : Step Bool} (h : Below x y) :
    Below (Parse.closeCall rule m x) (Parse.closeCall rule m y) := by
  intro s r hrun
  rw [Parse.closeCall] at hrun ⊢
  rcases h.cases s with ⟨abort, hx⟩ | hx
  · rw [hx] at hrun
    cases hrun
  · rw [← hx]
    exact hrun

theorem rounds {once : Bool} {x y : Step Bool} (h : Below x y) :
    ∀ n, Below (Parse.rounds once x n) (Parse.rounds once y n)
  | 0 => refl _
  | n + 1 => by
    rw [Parse.rounds, Parse.rounds]
    refine next _ fun s₀ => bind h.attemptMatch fun b => ?_
    cases b with
    | false => exact refl _
    | true =>
      refine next _ fun s₁ => ?_
      split
      · exact refl _
      · exact bind (rounds h n) fun k => refl _

end Below

mutual

/-- **Values are the same** under calls with the same outcomes. -/
theorem Below.assigned (h : CallsBelow call call') :
    ∀ e : Element, Below (assigned src call e) (assigned src call' e)
  | .keyword id text => by
    rw [Parse.assigned, Parse.assigned]
    exact refl _
  | .terminal id index => by
    rw [Parse.assigned, Parse.assigned]
    exact refl _
  | .call id rule => by
    rw [Parse.assigned, Parse.assigned]
    exact next _ fun _ => bind (h id rule) fun _ => refl _
  | .crossRef id target index => by
    rw [Parse.assigned, Parse.assigned]
    exact refl _
  | .alt id items => by
    rw [Parse.assigned, Parse.assigned]
    exact next _ fun _ => Below.firstAssigned h items
  | .assign _ _ _ _ => by
    rw [Parse.assigned, Parse.assigned]
    exact refl _
  | .seq _ _ => by
    rw [Parse.assigned, Parse.assigned]
    exact refl _
  | .repeated _ _ _ => by
    rw [Parse.assigned, Parse.assigned]
    exact refl _

theorem Below.firstAssigned (h : CallsBelow call call') :
    ∀ items : List Element, Below (firstAssigned src call items) (firstAssigned src call' items)
  | [] => by
    rw [Parse.firstAssigned, Parse.firstAssigned]
    exact refl _
  | item :: items => by
    rw [Parse.firstAssigned, Parse.firstAssigned]
    refine bind (Below.assigned h item).attempt fun a => ?_
    cases a with
    | some value => exact refl _
    | none => exact Below.firstAssigned h items

end

mutual

/-- **Elements match the same** under calls with the same outcomes. -/
theorem Below.element (h : CallsBelow call call') :
    ∀ e : Element, Below (element src call e) (element src call' e)
  | .keyword id text => by
    rw [Parse.element, Parse.element]
    exact refl _
  | .terminal id index => by
    rw [Parse.element, Parse.element]
    exact refl _
  | .call id rule => by
    rw [Parse.element, Parse.element]
    refine next _ fun _ => bind (h id rule) fun a => ?_
    cases a <;> exact refl _
  | .crossRef _ _ _ => by
    rw [Parse.element, Parse.element]
    exact refl _
  | .assign id feature op value => by
    rw [Parse.element, Parse.element]
    refine next _ fun _ => next _ fun s₀ => ?_
    cases s₀.node with
    | none => exact refl _
    | some node =>
      refine bind (Below.assigned h value) fun a => ?_
      cases a <;> exact refl _
  | .seq id items => by
    rw [Parse.element, Parse.element]
    exact next _ fun _ => Below.allElements h items
  | .alt id items => by
    rw [Parse.element, Parse.element]
    exact next _ fun _ => Below.firstElement h items
  | .repeated id cardinality body => by
    rw [Parse.element, Parse.element]
    exact next _ fun _ => next _ fun s₀ => bind (.rounds (Below.element h body) _) fun _ => refl _

theorem Below.allElements (h : CallsBelow call call') :
    ∀ items : List Element, Below (allElements src call items) (allElements src call' items)
  | [] => by
    rw [Parse.allElements, Parse.allElements]
    exact refl _
  | item :: items => by
    rw [Parse.allElements, Parse.allElements]
    refine bind (Below.element h item) fun b => ?_
    cases b with
    | true => exact Below.allElements h items
    | false => exact refl _

theorem Below.firstElement (h : CallsBelow call call') :
    ∀ items : List Element, Below (firstElement src call items) (firstElement src call' items)
  | [] => by
    rw [Parse.firstElement, Parse.firstElement]
    exact refl _
  | item :: items => by
    rw [Parse.firstElement, Parse.firstElement]
    refine bind (Below.element h item).attemptMatch fun b => ?_
    cases b with
    | true => exact refl _
    | false => exact Below.firstElement h items

end

/-- **Calls may be nested deeper.** -/
theorem Below.callRule (src : Source) {depth depth' : ℕ} (hle : depth ≤ depth') :
    CallsBelow (callRule src depth) (callRule src depth') := by
  induction depth generalizing depth' with
  | zero =>
    intro id index s r h
    cases h
  | succ depth ih =>
    intro id index s r h
    obtain ⟨more, rfl⟩ : ∃ more, depth' = more + 1 := ⟨depth' - 1, by omega⟩
    rw [Parse.callRule] at h ⊢
    dsimp only at h ⊢
    cases hrule : src.grammar.rules[index]? with
    | none =>
      rw [hrule] at h
      exact h
    | some rule =>
      rw [hrule] at h
      dsimp only at h ⊢
      exact Below.closeCall (Below.element (ih (by omega)) rule.body) _ _ h

/-! ## Repetitions -/

/-- What a repetition does after an attempt that has an outcome. -/
theorem rounds_of_ok {once b : Bool} {body : Step Bool} {s₁ : State} (n : ℕ)
    (h : attemptMatch body s = .ok (b, s₁)) :
    rounds once body (n + 1) s =
      if b = true then
        if once = true ∨ s₁.pos = s.pos then .ok (1, s₁)
        else (rounds once body n >>= fun count => return count + 1 : Step ℕ) s₁
      else .ok (0, s₁) := by
  rw [rounds]
  refine get_then.trans ?_
  refine (bind_of_ok h).trans ?_
  cases b with
  | false => rfl
  | true =>
    refine get_then.trans ?_
    simp only [Bool.or_eq_true, decide_eq_true_eq, if_true]
    split <;> rfl

/-- **A repetition does not meet its bound**, since each round but the last
one passes a token. -/
theorem rounds_bound {once : Bool} {body : Step Bool} {c : Prop} {n m : ℕ} (hs : Quiet src s)
    (hbody : ∀ s', Quiet src s' → s.pos ≤ s'.pos →
      Ends src s'.pos body s' fun b => b = true ∧ c)
    (hn : src.tokens.size - s.pos < n) (hm : src.tokens.size - s.pos < m) :
    rounds once body n s = rounds once body m s := by
  induction n generalizing m s with
  | zero => exact absurd hn (Nat.not_lt_zero _)
  | succ n ih =>
    obtain ⟨m, rfl⟩ : ∃ m', m = m' + 1 := ⟨m - 1, by omega⟩
    obtain ⟨b, s₁, hrun, hs₁, hle, -⟩ := (hbody s hs (Nat.le_refl _)).attemptMatch hs
    rw [rounds_of_ok n hrun, rounds_of_ok m hrun]
    by_cases hend : once = true ∨ s₁.pos = s.pos
    · rw [if_pos hend, if_pos hend]
    · -- a round that goes on has passed a token, so both bounds are still high enough
      have hpos := hs₁.pos
      have hsame : rounds once body n s₁ = rounds once body m s₁ :=
        ih hs₁ (fun s' hs' hle' => hbody s' hs' (Nat.le_trans hle hle')) (by omega) (by omega)
      rw [if_neg hend, if_neg hend]
      simp only [Bind.bind, StateT.bind, hsame]

end Parse

end Workbench
