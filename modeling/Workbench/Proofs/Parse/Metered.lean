import Workbench.Proofs.Parse.Kept
import Workbench.Proofs.Parse.Lossless
/-!
# Interrupts and the outcome of a parse

A parse asks its interrupt in one place, and nothing else in it looks at the
interrupt. So from each state a step asks a number of times that is the same
under every interrupt (`Metered`). If the interrupt fires before, the step is
given up, and otherwise it comes to the one end it has; a step without an end
asks again and again. This is shown for each way to put steps together, and
of a whole parse it says that an interrupt decides nothing but whether the
parse ends.
-/

namespace Workbench

namespace Interrupt

/-- So many checks in a row: the interrupt that is left, or nothing if it
fired. -/
def spend : ℕ → Interrupt → Option Interrupt
  | 0, i => some i
  | c + 1, i => i.check.bind (spend c)

theorem spend_add (c d : ℕ) (i : Interrupt) : i.spend (c + d) = (i.spend c).bind (spend d) := by
  induction c generalizing i with
  | zero => rw [Nat.zero_add, spend, Option.bind_some]
  | succ c ih =>
    rw [Nat.succ_add, spend, spend, Option.bind_assoc]
    exact Option.bind_congr fun left _ => ih left

theorem spend_never (c : ℕ) : never.spend c = some never := by
  induction c with
  | zero => rfl
  | succ c ih => rw [spend, check_never, Option.bind_some, ih]

/-- **An interrupt that lets `n` checks pass** lets no more pass. -/
theorem spend_after (c n : ℕ) :
    (after n).spend c = if n < c then none else some (after (n - c)) := by
  induction c generalizing n with
  | zero => simp [spend]
  | succ c ih =>
    cases n with
    | zero =>
      rw [if_pos (Nat.succ_pos c)]
      rfl
    | succ n =>
      rw [spend, check_after_succ, Option.bind_some, ih, Nat.add_sub_add_right]
      simp only [Nat.add_lt_add_iff_right]

/-- Checks that pass do not decide whether a later one fails. -/
theorem firesAtLast_of_spend {c : ℕ} {i left : Interrupt} (h : i.spend c = some left) :
    left.firesAtLast = i.firesAtLast := by
  obtain ⟨_ | n⟩ := i
  · obtain rfl : never = left := Option.some.inj ((spend_never c).symm.trans h)
    rfl
  · have hspend := spend_after c n
    rw [after, h] at hspend
    split at hspend
    · cases hspend
    · obtain rfl := Option.some.inj hspend
      rfl

/-- Only an interrupt that fires gives anything up. -/
theorem firesAtLast_of_spend_eq_none {c : ℕ} {i : Interrupt} (h : i.spend c = none) :
    i.firesAtLast = true := by
  obtain ⟨_ | n⟩ := i
  · exact absurd ((spend_never c).symm.trans h) (by simp)
  · rfl

end Interrupt

namespace Parse

/-- A state under another interrupt. -/
def State.under (s : State) (i : Interrupt) : State := { s with interrupt := i }

/-- The end of a step that asks `c` times. -/
def endAfter {α : Type} (c : ℕ) (a : α) (s : State) (i : Interrupt) : Except Abort (α × State) :=
  match i.spend c with
  | none => .error .cancelled
  | some left => .ok (a, s.under left)

/-- What a step does from a state is the same under every interrupt that lets
it: it ends after a number of checks, or never. -/
def MeteredAt {α : Type} (x : Step α) (s : State) : Prop :=
  (∃ c a s', ∀ i, x (s.under i) = endAfter c a s' i) ∨ ∀ i, x (s.under i) = goOn (s.under i)

/-- **A step that asks as often under every interrupt.** -/
def Metered {α : Type} (x : Step α) : Prop := ∀ s, MeteredAt x s

namespace Metered

variable {α β : Type} {src : Source} {call : Call}

/-! ## Putting steps together -/

/-- A step that ends without asking. -/
theorem ofOk {x : Step α}
    (h : ∀ s : State, ∃ a, ∃ s' : State, ∀ i, x (s.under i) = .ok (a, s'.under i)) : Metered x := by
  intro s
  obtain ⟨a, s', hx⟩ := h s
  exact Or.inl ⟨0, a, s', hx⟩

theorem pure (a : α) : Metered (Pure.pure a : Step α) := ofOk fun s => ⟨a, s, fun _ => rfl⟩

theorem ofModify {f : State → State} (hf : ∀ s i, f (s.under i) = (f s).under i) :
    Metered (modify f : Step PUnit) :=
  ofOk fun s => ⟨⟨⟩, f s, fun i => congrArg (fun s => Except.ok (PUnit.unit, s)) (hf s i)⟩

/-- The checks of two steps add up. -/
theorem bind {x : Step α} {f : α → Step β} (hx : Metered x) (hf : ∀ a, Metered (f a)) :
    Metered (x >>= f) := by
  intro s
  have hopen : ∀ s : State, (x >>= f) s = match x s with
      | .error e => .error e
      | .ok (a, s') => f a s' := by
    intro s
    simp only [Bind.bind, StateT.bind, Except.bind]
    cases x s <;> rfl
  rcases hx s with ⟨c, a, s', hend⟩ | hgoes
  · -- the second step is given what the first has left of the checks
    rcases hf a s' with ⟨d, b, t, hend'⟩ | hgoes'
    · refine Or.inl ⟨c + d, b, t, fun i => ?_⟩
      rw [hopen, hend, endAfter, endAfter, Interrupt.spend_add]
      cases i.spend c with
      | none => rfl
      | some left => exact hend' left
    · refine Or.inr fun i => ?_
      rw [hopen, hend, endAfter]
      cases h : i.spend c with
      | none =>
        -- the first step ends, the second goes on for ever: whatever is left of the checks, it ends
        -- as the interrupt does
        have hfires : (s.under i).interrupt.firesAtLast = true :=
          Interrupt.firesAtLast_of_spend_eq_none h
        rw [goOn, hfires]
        rfl
      | some left =>
        have hfires : (s'.under left).interrupt.firesAtLast = (s.under i).interrupt.firesAtLast :=
          Interrupt.firesAtLast_of_spend h
        refine (hgoes' left).trans ?_
        rw [goOn, goOn, hfires]
  · refine Or.inr fun i => ?_
    rw [hopen, hgoes]
    rfl

/-- A step that begins by looking at a part of the state which is not the
interrupt. -/
theorem get_bind {f : State → Step β} (hsame : ∀ s i, f (s.under i) = f s)
    (hf : ∀ s, Metered (f s)) : Metered (get >>= f) := by
  intro s
  have hopen : ∀ i, ((get : Step State) >>= f) (s.under i) = f s (s.under i) :=
    fun i => congrFun (hsame s i) (s.under i)
  rcases hf s s with ⟨c, a, s', hend⟩ | hgoes
  · exact Or.inl ⟨c, a, s', fun i => (hopen i).trans (hend i)⟩
  · exact Or.inr fun i => (hopen i).trans (hgoes i)

/-- A step that finishes off what another one did, from another state. -/
theorem finish {x : Step α} {y : Step β} {s t : State}
    (close : Except Abort (α × State) → Except Abort (β × State)) (hx : MeteredAt x t)
    (hy : ∀ i, y (s.under i) = close (x (t.under i))) (herror : ∀ e, close (.error e) = .error e)
    (hok : ∀ a, ∀ t' : State, ∃ b, ∃ s' : State, ∀ i,
      close (.ok (a, t'.under i)) = .ok (b, s'.under i)) :
    MeteredAt y s := by
  rcases hx with ⟨c, a, t', hend⟩ | hgoes
  · obtain ⟨b, s', hclose⟩ := hok a t'
    refine Or.inl ⟨c, b, s', fun i => ?_⟩
    rw [hy, hend, endAfter, endAfter]
    cases i.spend c with
    | none => exact herror _
    | some left => exact hclose left
  · refine Or.inr fun i => ?_
    rw [hy, hgoes]
    exact herror _

/-- **The only place where an interrupt is asked.** -/
theorem check : Metered check := by
  intro s
  refine Or.inl ⟨1, (), s, fun i => ?_⟩
  have hasked : (s.under i).interrupt = i := rfl
  rw [Parse.check, hasked, endAfter, Interrupt.spend]
  cases i.check <;> rfl

theorem tick : Metered tick := by
  intro s
  have hopen : ∀ i, Parse.tick (s.under i) =
      if (s.steps + 1) % checkInterval = 0 then
        Parse.check (({ s with steps := s.steps + 1 } : State).under i)
      else .ok ((), ({ s with steps := s.steps + 1 } : State).under i) := fun _ => rfl
  by_cases h : (s.steps + 1) % checkInterval = 0
  · simp only [MeteredAt, hopen, if_pos h]
    exact check { s with steps := s.steps + 1 }
  · simp only [MeteredAt, hopen, if_neg h]
    exact Or.inl ⟨0, (), _, fun _ => rfl⟩

/-! ## Tokens and attempts -/

theorem attachHidden (n : ℕ) (s : State) (i : Interrupt) :
    (s.under i).attachHidden src n = (s.attachHidden src n).under i := by
  induction n generalizing s with
  | zero => rfl
  | succ n ih =>
    have hpos : (s.under i).pos = s.pos := rfl
    rw [State.attachHidden, State.attachHidden, hpos]
    cases src.tokens[s.pos]? with
    | none => rfl
    | some token =>
      dsimp only
      rw [← ih]
      by_cases h : token.hidden = true
      · simp only [h, if_true]
        rfl
      · simp only [h, Bool.false_eq_true, if_false]
        rfl

theorem consume (index : ℕ) (tok : Token) (source : Option ElementId) (s : State) (i : Interrupt) :
    (s.under i).consume src index tok source = (s.consume src index tok source).under i := by
  rw [State.consume, State.consume]
  show ({ ((s.under i).attachHidden src (index - s.pos)).pushLeaf tok source with
    pos := index + 1 } : State) = _
  rw [attachHidden]
  rfl

theorem expect (label : String) (s : State) (i : Interrupt) :
    (s.under i).expect src label = (s.expect src label).under i := by
  have hnext : (s.under i).nextSignificant src = s.nextSignificant src := rfl
  have hfurthest : (s.under i).furthest = s.furthest := rfl
  rw [State.expect, State.expect]
  simp only [hnext, hfurthest]
  split
  · rfl
  · split <;> rfl

theorem token (id : ElementId) (kind : LexemeKind) (label : String) :
    Metered (token src id kind label) := by
  refine ofOk fun s => ?_
  -- What is found is the same, since the interrupt has no part in it.
  have hnext : ∀ i, (s.under i).nextSignificant src = s.nextSignificant src := fun _ => rfl
  simp only [Parse.token, hnext]
  split
  · next index tok _ =>
    refine ⟨some (⟨(s.consume src index tok (some id)).cst.size - 1⟩, tok),
      s.consume src index tok (some id), fun i => ?_⟩
    rw [consume index tok (some id) s i]
    rfl
  · exact ⟨none, s.expect src label, fun i => by rw [expect]⟩

/-- Marks say nothing of the interrupt, and going back does not touch it. -/
theorem attempt {step : Step (Option α)} (h : Metered step) : Metered (attempt step) := by
  intro s
  refine finish (fun r => orRestore s.mark (fun _ => r) s) (h s) (fun _ => rfl) (fun _ => rfl) ?_
  rintro (_ | a) s'
  · exact ⟨none, s'.restore s.mark, fun _ => rfl⟩
  · exact ⟨some a, s', fun _ => rfl⟩

theorem attemptMatch {step : Step Bool} (h : Metered step) : Metered (attemptMatch step) := by
  intro s
  refine finish (fun r => matchOrRestore s.mark (fun _ => r) s) (h s) (fun _ => rfl)
    (fun _ => rfl) ?_
  rintro (_ | _) s'
  · exact ⟨false, s'.restore s.mark, fun _ => rfl⟩
  · exact ⟨true, s', fun _ => rfl⟩

theorem rounds {once : Bool} {body : Step Bool} (h : Metered body) :
    ∀ n, Metered (rounds once body n)
  | 0 => .pure 0
  | n + 1 => by
    rw [Parse.rounds]
    refine .get_bind (fun _ _ => rfl) fun start => h.attemptMatch.bind fun matched => ?_
    cases matched with
    | false => exact .pure 0
    | true =>
      refine .get_bind (fun _ _ => rfl) fun now => ?_
      split
      · exact .pure 1
      · exact (rounds h n).bind fun k => .pure (k + 1)

/-! ## The interpreter -/

mutual

/-- The value of an element is looked for. -/
theorem assigned (hcall : ∀ id rule, Metered (call id rule)) :
    ∀ e : Element, Metered (assigned src call e)
  | .keyword id text => by
    rw [Parse.assigned]
    exact tick.bind fun _ => (token id _ _).bind fun _ => .pure _
  | .terminal id index => by
    rw [Parse.assigned]
    exact tick.bind fun _ => (token id _ _).bind fun _ => .pure _
  | .call id rule => by
    rw [Parse.assigned]
    exact tick.bind fun _ => (hcall id rule).bind fun _ => .pure _
  | .crossRef id target index => by
    rw [Parse.assigned]
    exact tick.bind fun _ => (token id _ _).bind fun _ => .pure _
  | .alt _ items => by
    rw [Parse.assigned]
    exact tick.bind fun _ => firstAssigned hcall items
  | .assign _ _ _ _ => by
    rw [Parse.assigned]
    exact tick.bind fun _ => .pure _
  | .seq _ _ => by
    rw [Parse.assigned]
    exact tick.bind fun _ => .pure _
  | .repeated _ _ _ => by
    rw [Parse.assigned]
    exact tick.bind fun _ => .pure _

/-- The first value of several elements is looked for. -/
theorem firstAssigned (hcall : ∀ id rule, Metered (call id rule)) :
    ∀ items : List Element, Metered (firstAssigned src call items)
  | [] => by
    rw [Parse.firstAssigned]
    exact .pure none
  | item :: items => by
    rw [Parse.firstAssigned]
    refine (assigned hcall item).attempt.bind fun found => ?_
    cases found with
    | some value => exact .pure (some value)
    | none => exact firstAssigned hcall items

end

mutual

/-- **An element is matched.** -/
theorem element (hcall : ∀ id rule, Metered (call id rule)) :
    ∀ e : Element, Metered (element src call e)
  | .keyword id text => by
    rw [Parse.element]
    exact tick.bind fun _ => (token id _ _).bind fun _ => .pure _
  | .terminal id index => by
    rw [Parse.element]
    exact tick.bind fun _ => (token id _ _).bind fun _ => .pure _
  | .call id rule => by
    rw [Parse.element]
    refine tick.bind fun _ => (hcall id rule).bind fun found => ?_
    cases found with
    | none => exact .pure false
    | some node =>
      have hproduce : Metered (modify fun s => { s with produced := some node } : Step PUnit) :=
        .ofModify fun _ _ => rfl
      exact hproduce.bind fun _ => .pure true
  | .crossRef _ _ _ => by
    rw [Parse.element]
    exact tick.bind fun _ => .pure false
  | .assign _ feature op value => by
    rw [Parse.element]
    refine tick.bind fun _ => .get_bind (fun _ _ => rfl) fun s => ?_
    cases s.node with
    | none => exact .pure false
    | some node =>
      refine (assigned hcall value).bind fun found => ?_
      cases found with
      | none => exact .pure false
      | some value =>
        refine (Metered.ofModify fun s i => ?_).bind fun _ => .pure true
        cases value <;> rfl
  | .seq _ items => by
    rw [Parse.element]
    exact tick.bind fun _ => allElements hcall items
  | .alt _ items => by
    rw [Parse.element]
    exact tick.bind fun _ => firstElement hcall items
  | .repeated _ cardinality body => by
    rw [Parse.element]
    exact tick.bind fun _ => .get_bind (fun _ _ => rfl) fun s =>
      (rounds (element hcall body) _).bind fun _ => .pure _

/-- Elements are matched one after the other. -/
theorem allElements (hcall : ∀ id rule, Metered (call id rule)) :
    ∀ items : List Element, Metered (allElements src call items)
  | [] => by
    rw [Parse.allElements]
    exact .pure true
  | item :: items => by
    rw [Parse.allElements]
    refine (element hcall item).bind fun matched => ?_
    cases matched with
    | false => exact .pure false
    | true => exact allElements hcall items

/-- The first of several elements is matched. -/
theorem firstElement (hcall : ∀ id rule, Metered (call id rule)) :
    ∀ items : List Element, Metered (firstElement src call items)
  | [] => by
    rw [Parse.firstElement]
    exact .pure false
  | item :: items => by
    rw [Parse.firstElement]
    refine (element hcall item).attemptMatch.bind fun matched => ?_
    cases matched with
    | true => exact .pure true
    | false => exact firstElement hcall items

end

/-- **A rule runs.** Calls nested without end go on for ever. -/
theorem callRule (src : Source) : ∀ depth source index, Metered (callRule src depth source index)
  | 0, _, _ => fun _ => Or.inr fun _ => rfl
  | depth + 1, source, index => by
    intro s
    cases hrule : src.grammar.rules[index]? with
    | none =>
      refine Or.inl ⟨0, none, s, fun i => ?_⟩
      rw [Parse.callRule, hrule]
      rfl
    | some rule =>
      have hbody : MeteredAt (Parse.element src (Parse.callRule src depth) rule.body)
          (openCall rule source s.mark s) :=
        element (callRule src depth) rule.body _
      refine finish (fun r => closeCall rule s.mark (fun _ => r) s) hbody (fun i => ?_)
        (fun _ => rfl) ?_
      · rw [Parse.callRule, hrule]
        rfl
      · intro matched s'
        have hproduced : ∀ i, (s'.under i).produced = s'.produced := fun _ => rfl
        -- what becomes of the body does not depend on the interrupt
        let t : State := { s' with
          composite := s.mark.composite
          node := s.mark.node.map Prod.fst
          produced := s.mark.produced }
        cases matched with
        | false => exact ⟨none, t.restore s.mark, fun _ => rfl⟩
        | true =>
          cases hproduct : (ownNode rule s.mark).or s'.produced with
          | none =>
            refine ⟨none, t.restore s.mark, fun i => ?_⟩
            simp only [closeCall, hproduced, hproduct]
            rfl
          | some node =>
            refine ⟨some node, t.linkCst ⟨s.mark.cst⟩ (some node), fun i => ?_⟩
            simp only [closeCall, hproduced, hproduct]
            rfl

/-! ## The entry rule -/

theorem skipTokens (n : ℕ) (s : State) (i : Interrupt) :
    skipTokens src n (s.under i) = (skipTokens src n s).under i := by
  induction n generalizing s with
  | zero => rfl
  | succ n ih =>
    have hpos : (s.under i).pos = s.pos := rfl
    rw [Parse.skipTokens, Parse.skipTokens, hpos]
    cases src.tokens[s.pos]? with
    | none => rfl
    | some token => exact ih { s.pushLeaf token none with pos := s.pos + 1 }

theorem skipped (next : ℕ) (s : State) (i : Interrupt) :
    skipped src next (s.under i) = (skipped src next s).under i := by
  rw [Parse.skipped, Parse.skipped]
  show ({ Parse.skipTokens src _ (s.under i) with
    furthest := ⟨(Parse.skipTokens src _ (s.under i)).pos, []⟩ } : State) = _
  rw [skipTokens]
  rfl

theorem recover {body : Step Bool} (h : Metered body) : ∀ n, Metered (recover src body n)
  | 0 => .pure ()
  | n + 1 => by
    rw [Parse.recover]
    refine h.attemptMatch.bind fun matched => .get_bind (fun _ _ => rfl) fun s => ?_
    have hreport : Metered (modify (reported src) : Step PUnit) := .ofModify fun _ _ => rfl
    have hrest : ∀ next : ℕ, Metered (do
        modify (Parse.skipped src next)
        Parse.recover src body n : Step Unit) := fun next =>
      (Metered.ofModify (skipped next)).bind fun _ => recover h n
    cases matched with
    | false =>
      refine check.bind fun _ => hreport.bind fun _ => ?_
      cases s.nextSignificant src with
      | none => exact .pure ()
      | some next => exact hrest next
    | true =>
      cases s.nextSignificant src with
      | none => exact .pure ()
      | some next => exact check.bind fun _ => hreport.bind fun _ => hrest next

theorem entry (src : Source) (rule : Rule) : Metered (entry src rule) := by
  rw [Parse.entry]
  exact (recover (element (callRule src _) rule.body) _).bind fun _ => .ofModify fun s i =>
    attachHidden _ s i

end Metered

/-- The result of a parse that ends in a state. -/
def resultOf (text : String) (lexemes : List Lexeme) (s : State) : ParseResult :=
  ⟨⟨s.ast, s.cst, s.references, ⟨0⟩, ⟨0⟩⟩,
    (Lexeme.withRanges text.toList lexemes).filterMap (fun e => e.1.error? e.2), s.errors⟩

/-- A run is what the entry rule does with the tokens of the text. -/
theorem run_eq {g : Grammar} {rule : Rule} {text : String} {interrupt start : Interrupt}
    {lexemes : List Lexeme} (hstart : interrupt.check = some start)
    (hlexemes : Lexeme.ofText? g text.toList = some lexemes) :
    run g rule text interrupt =
      (entry (sourceOf g text lexemes) rule (State.start (sourceOf g text lexemes) rule start)).map
        fun r => (resultOf text lexemes r.2, r.2.interrupt) := by
  rw [run, hstart]
  dsimp only
  rw [hlexemes]
  dsimp only
  rw [← sourceOf]
  cases entry (sourceOf g text lexemes) rule (State.start (sourceOf g text lexemes) rule start) <;>
    rfl

/-- The end of a parse that asks `c` times. -/
def outcomeAfter (c : ℕ) (r : Except Abort ParseResult) (i : Interrupt) :
    Except Abort (ParseResult × Interrupt) :=
  match i.spend c with
  | none => .error .cancelled
  | some left => r.map (·, left)

theorem outcomeAfter_never (c : ℕ) (r : Except Abort ParseResult) :
    outcomeAfter c r .never = r.map (·, .never) := by
  rw [outcomeAfter, Interrupt.spend_never]

/-- One check comes before everything else. -/
theorem run_first {g : Grammar} {rule : Rule} {text : String} {c : ℕ}
    {r : Except Abort ParseResult}
    (h : ∀ i left, i.check = some left → run g rule text i = outcomeAfter c r left) (i : Interrupt) :
    run g rule text i = outcomeAfter (c + 1) r i := by
  rw [outcomeAfter, Interrupt.spend]
  cases hcheck : i.check with
  | none =>
    rw [run, hcheck]
    rfl
  | some left => exact h i left hcheck

/-- **A run ends in one way after a number of checks, or goes on for ever.** -/
theorem run_metered (g : Grammar) (rule : Rule) (text : String) :
    (∃ c r, (∀ name, r ≠ .error (.invalidEntry name)) ∧
      ∀ i, run g rule text i = outcomeAfter c r i) ∨
    ∀ i, run g rule text i = .error (if i.firesAtLast then .cancelled else .endless) := by
  cases hlexemes : Lexeme.ofText? g text.toList with
  | none =>
    refine Or.inl ⟨1, .error .endless, by simp, run_first fun i left hcheck => ?_⟩
    rw [run, hcheck]
    dsimp only
    rw [hlexemes]
    rfl
  | some lexemes =>
    -- a start reads the interrupt into its own field, and nowhere else
    have hstart : ∀ i, State.start (sourceOf g text lexemes) rule i =
      (State.start (sourceOf g text lexemes) rule .never).under i := fun _ => rfl
    rcases Metered.entry (sourceOf g text lexemes) rule
      (State.start (sourceOf g text lexemes) rule .never) with ⟨c, a, s, hend⟩ | hgoes
    · refine Or.inl ⟨c + 1, .ok (resultOf text lexemes s), by simp, run_first fun i left hcheck => ?_⟩
      rw [run_eq hcheck hlexemes, hstart, hend, endAfter, outcomeAfter]
      cases left.spend c <;> rfl
    · refine Or.inr fun i => ?_
      have hspend : i.spend 1 = i.check := by
        rw [Interrupt.spend]
        cases i.check <;> rfl
      cases hcheck : i.check with
      | none =>
        rw [run, hcheck, Interrupt.firesAtLast_of_spend_eq_none (hspend.trans hcheck)]
        rfl
      | some left =>
        rw [run_eq hcheck hlexemes, hstart, hgoes,
          ← Interrupt.firesAtLast_of_spend (hspend.trans hcheck)]
        rfl

end Parse

namespace Grammar

variable {g : Grammar} {text : String} {name : Option String}

theorem parse_of_entryRule {rule : Rule} (h : g.entryRule name = .ok rule) (i : Interrupt) :
    g.parse text name i = Parse.run g rule text i := by
  rw [parse, h]
  rfl

theorem parse_of_entryRule_error {e : Parse.Abort} (h : g.entryRule name = .error e)
    (i : Interrupt) : g.parse text name i = .error e := by
  rw [parse, h]
  rfl

/-- **A parse ends in one way after a number of checks, or goes on for
ever**, under every interrupt. -/
theorem parse_metered (g : Grammar) (text : String) (name : Option String) :
    (∃ c r, ∀ i, g.parse text name i = Parse.outcomeAfter c r i) ∨
      ∀ i, g.parse text name i = .error (if i.firesAtLast then .cancelled else .endless) := by
  cases hrule : g.entryRule name with
  | error e => exact Or.inl ⟨0, .error e, parse_of_entryRule_error hrule⟩
  | ok rule =>
    refine (Parse.run_metered g rule text).imp ?_ ?_
    · rintro ⟨c, r, -, h⟩
      exact ⟨c, r, fun i => (parse_of_entryRule hrule i).trans (h i)⟩
    · intro h i
      exact (parse_of_entryRule hrule i).trans (h i)

/-- **An interrupt decides only whether a parse ends.** A result is the one of
the parse that nothing interrupts, and so is every error but a cancellation. -/
theorem parse_never (g : Grammar) (text : String) (name : Option String)
    (interrupt : Interrupt) :
    (∀ r left, g.parse text name interrupt = .ok (r, left) →
      g.parse text name .never = .ok (r, .never)) ∧
    ∀ e, g.parse text name interrupt = .error e →
      e = .cancelled ∨ g.parse text name .never = .error e := by
  rcases parse_metered g text name with ⟨c, r, h⟩ | h
  · rw [h, h, Parse.outcomeAfter_never, Parse.outcomeAfter]
    cases interrupt.spend c with
    | none => exact ⟨by simp, fun e he => Or.inl (by cases he; rfl)⟩
    | some left => cases r <;> simp [Except.map]
  · rw [h, h]
    refine ⟨by simp, fun e he => ?_⟩
    cases hfires : interrupt.firesAtLast with
    | true =>
      rw [hfires] at he
      cases he
      exact Or.inl rfl
    | false =>
      rw [hfires] at he
      cases he
      exact Or.inr rfl

end Grammar

end Workbench
