import Workbench.Parse.Basic
import Workbench.Proofs.Grammar.Kinds
import Workbench.Proofs.Grammar.Sources
import Workbench.Proofs.Parse.Expression
import Mathlib.Data.List.Basic
/-!
# What every step of a parse keeps

Bodies are interpreted by recursion over elements, but all that happens to
the state on the way are a few things: elements are counted, tokens are
consumed, failures are noted, values are stored, nodes are produced, and
attempts are undone. `KeptAt` lists them for a relation between the states
before and after. A relation that is kept by each of them, and by the calls,
is kept by the whole interpreter. Where all that matters of the elements that
are met are their numbers, `Kept` is enough.

Before that, every step that came through is taken apart once: what it did is
told by one lemma for each element. What is shown of steps that came through
rests on these, and does not look into the interpreter again.
-/

namespace Workbench

/-- A parse starts from a rule of the grammar: from the entry, or from one that
makes nodes. -/
theorem Grammar.entryRule_cases {g : Grammar} {name : Option String} {rule : Rule}
    (h : g.entryRule name = .ok rule) :
    rule ∈ g.rules ∧ (g.rules[g.entry]? = some rule ∨ rule.isUnion = false) := by
  cases name with
  | none =>
    rw [Grammar.entryRule] at h
    split at h <;> cases h
    next hrule => exact ⟨Array.mem_of_getElem? hrule, Or.inl hrule⟩
  | some name =>
    rw [Grammar.entryRule] at h
    split at h
    next found hfound =>
      obtain ⟨i, -, hi⟩ := Option.bind_eq_some_iff.mp hfound
      split at h <;> cases h
      next hunion => exact ⟨Array.mem_of_getElem? hi, Or.inr (by simpa using hunion)⟩
    next => cases h

/-- The grammar that stands for a definition that does not compile has no
rules, so it does not even start to parse. -/
theorem Definition.build_of_parse {d : Definition} {text : String} {name : Option String}
    {i : Interrupt} {r : ParseResult × Interrupt} (h : d.grammar.parse text name i = .ok r) :
    d.build = .ok d.grammar := by
  rw [Grammar.parse] at h
  obtain ⟨rule, hrule, -⟩ := bind_eq_ok h
  have hmem := (Grammar.entryRule_cases hrule).1
  rw [Definition.grammar] at hmem ⊢
  split at hmem
  next g hbuild => rw [hbuild]
  next => exact absurd hmem (Array.not_mem_empty rule)

namespace Parse

/-! ## Taking steps apart -/

variable {α β : Type} {s s' : State}

/-- Two steps one after the other. -/
theorem bind_ok {x : Step α} {f : α → Step β} {b : β} (h : (x >>= f) s = .ok (b, s')) :
    ∃ a s₁, x s = .ok (a, s₁) ∧ f a s₁ = .ok (b, s') := by
  simp only [bind, StateT.bind, Except.bind] at h
  cases hx : x s with
  | error abort => rw [hx] at h; cases h
  | ok r => rw [hx] at h; exact ⟨r.1, r.2, rfl, h⟩

/-- What comes after a step that has an outcome. -/
theorem bind_of_ok {x : Step α} {f : α → Step β} {a : α} (h : x s = .ok (a, s')) :
    (x >>= f) s = f a s' := by
  simp only [Bind.bind, StateT.bind, Except.bind, h]

/-- What comes after looking at the state. -/
theorem get_then {f : State → Step α} : ((get : Step State) >>= f) s = f s s := rfl

theorem pure_ok {a b : α} (h : (pure a : Step α) s = .ok (b, s')) : a = b ∧ s = s' := by
  cases h
  exact ⟨rfl, rfl⟩

theorem get_ok {a : State} (h : (get : Step State) s = .ok (a, s')) : s = a ∧ s = s' := by
  simp only [get, getThe, MonadStateOf.get, StateT.get, pure, Except.pure, Except.ok.injEq,
    Prod.mk.injEq] at h
  exact h

theorem modify_ok {f : State → State} {u : PUnit} (h : (modify f : Step PUnit) s = .ok (u, s')) :
    s' = f s := by
  simp only [modify, modifyGet, MonadStateOf.modifyGet, StateT.modifyGet, pure, Except.pure,
    Except.ok.injEq, Prod.mk.injEq] at h
  exact h.2.symm

/-- A check that passes changes nothing but the interrupt. -/
theorem check_ok {u : Unit} (h : check s = .ok (u, s')) :
    ∃ interrupt, s' = { s with interrupt } := by
  rw [check] at h
  split at h <;> cases h
  exact ⟨_, rfl⟩

/-- An element is counted, and the interrupt may be asked. -/
theorem tick_ok {u : Unit} (h : tick s = .ok (u, s')) :
    ∃ steps interrupt, s' = { s with steps, interrupt } := by
  rw [tick] at h
  split at h
  · obtain ⟨interrupt, rfl⟩ := check_ok h
    exact ⟨_, interrupt, rfl⟩
  · cases h
    exact ⟨_, _, rfl⟩

/-- **A token is consumed or its absence is noted.** -/
theorem token_ok {src : Source} {id : ElementId} {kind : LexemeKind} {label : String}
    {a : Option (CstId × Token)} (h : token src id kind label s = .ok (a, s')) :
    (∃ index tok, s.nextSignificant src = some index ∧ src.tokens[index]? = some tok ∧
      s' = s.consume src index tok (some id) ∧ a = some (⟨s'.cst.size - 1⟩, tok)) ∨
    (a = none ∧ s' = s.expect src label) := by
  simp only [token] at h
  split at h
  · next index tok hfound =>
    simp only [Except.ok.injEq, Prod.mk.injEq] at h
    obtain ⟨rfl, rfl⟩ := h
    left
    simp only [bind, Option.bind] at hfound
    cases hnext : s.nextSignificant src with
    | none => rw [hnext] at hfound; cases hfound
    | some i =>
      rw [hnext] at hfound
      cases htok : src.tokens[i]? with
      | none => simp only [htok] at hfound; cases hfound
      | some t =>
        simp only [htok] at hfound
        split at hfound
        · simp only [Option.some.injEq, Prod.mk.injEq] at hfound
          obtain ⟨rfl, rfl⟩ := hfound
          exact ⟨i, t, rfl, htok, rfl, rfl⟩
        · cases hfound
  · simp only [Except.ok.injEq, Prod.mk.injEq] at h
    exact Or.inr ⟨h.1.symm, h.2.symm⟩

/-- A token that was consumed is of the kind that was asked for. -/
theorem token_kind {src : Source} {id : ElementId} {kind : LexemeKind} {label : String}
    {leaf : CstId} {tok : Token} (h : token src id kind label s = .ok (some (leaf, tok), s')) :
    tok.kind = kind := by
  simp only [token] at h
  split at h
  · next index tok' hfound =>
    simp only [Except.ok.injEq, Prod.mk.injEq, Option.some.injEq] at h
    obtain ⟨⟨-, rfl⟩, -⟩ := h
    obtain ⟨i, -, hfound⟩ := Option.bind_eq_some_iff.mp hfound
    obtain ⟨t, -, hfound⟩ := Option.bind_eq_some_iff.mp hfound
    obtain ⟨hkind, heq⟩ := Option.ite_none_right_eq_some.mp hfound
    cases heq
    exact hkind
  · cases h

/-! An attempt is what the step does, or is undone. -/

theorem attempt_some {step : Step (Option α)} {a : α} (h : attempt step s = .ok (some a, s')) :
    step s = .ok (some a, s') := by
  rw [attempt, orRestore] at h
  split at h <;> cases h
  assumption

theorem attempt_isNone {step : Step (Option α)} (h : attempt step s = .ok (none, s')) :
    ∃ s₁, step s = .ok (none, s₁) ∧ s' = s₁.restore s.mark := by
  rw [attempt, orRestore] at h
  split at h <;> cases h
  exact ⟨_, by assumption, rfl⟩

theorem attemptMatch_ok {step : Step Bool} (h : attemptMatch step s = .ok (true, s')) :
    step s = .ok (true, s') := by
  rw [attemptMatch, matchOrRestore] at h
  split at h <;> cases h
  assumption

theorem attemptMatch_isFalse {step : Step Bool} (h : attemptMatch step s = .ok (false, s')) :
    ∃ s₁, step s = .ok (false, s₁) ∧ s' = s₁.restore s.mark := by
  rw [attemptMatch, matchOrRestore] at h
  split at h <;> cases h
  exact ⟨_, by assumption, rfl⟩

/-- The state after an error has been reported. -/
def reported (src : Source) (s : State) : State :=
  { s with errors := s.errors ++ [furthestError src s] }

/-- The state after everything up to the furthest failure is skipped. -/
def skipped (src : Source) (next : ℕ) (s : State) : State :=
  let last := min (max s.furthest.pos next) (src.tokens.size - 1)
  let s := skipTokens src (last + 1 - s.pos) s
  { s with furthest := ⟨s.pos, []⟩ }

/-- **One round of the entry rule**: it is the last if the body matches all
tokens, or none is left; else an error is reported and some are skipped. -/
theorem recover_ok {src : Source} {body : Step Bool} {n : ℕ} {u : Unit}
    (h : recover src body (n + 1) s = .ok (u, s')) :
    ∃ matched s₁, attemptMatch body s = .ok (matched, s₁) ∧
      ((matched = true ∧ s₁.nextSignificant src = none ∧ s' = s₁) ∨
        ∃ s₂, check s₁ = .ok ((), s₂) ∧
          ((s₁.nextSignificant src = none ∧ s' = reported src s₂) ∨
            ∃ next, s₁.nextSignificant src = some next ∧
              recover src body n (skipped src next (reported src s₂)) = .ok (u, s'))) := by
  rw [recover] at h
  obtain ⟨matched, s₁, hmatch, h⟩ := bind_ok h
  obtain ⟨_, _, hget, h⟩ := bind_ok h
  obtain ⟨rfl, rfl⟩ := get_ok hget
  refine ⟨matched, s₁, hmatch, ?_⟩
  generalize s₁.nextSignificant src = found at h ⊢
  by_cases hlast : matched = true ∧ found = none
  · obtain ⟨rfl, rfl⟩ := hlast
    obtain ⟨-, rfl⟩ := pure_ok h
    exact Or.inl ⟨rfl, rfl, rfl⟩
  · have h' : (do
        check
        modify (reported src)
        found.elim (return ()) fun next => do
          modify (skipped src next)
          recover src body n : Step Unit) s₁ = .ok (u, s') := by
      cases matched with
      | false => cases found <;> exact h
      | true =>
        cases found with
        | none => exact absurd ⟨rfl, rfl⟩ hlast
        | some next => exact h
    obtain ⟨_, s₂, hcheck, h'⟩ := bind_ok h'
    refine Or.inr ⟨s₂, hcheck, ?_⟩
    obtain ⟨_, s₃, hmod, h'⟩ := bind_ok h'
    obtain rfl := modify_ok hmod
    cases found with
    | none =>
      obtain ⟨-, rfl⟩ := pure_ok h'
      exact Or.inl ⟨rfl, rfl⟩
    | some next =>
      obtain ⟨_, s₄, hmod', h'⟩ := bind_ok h'
      obtain rfl := modify_ok hmod'
      exact Or.inr ⟨next, rfl, h'⟩

section Entry

variable {P : State → Prop} {src : Source}
variable (hnoted : ∀ {s : State} pos furthest steps interrupt errors, s.pos ≤ pos → P s →
  P { s with pos, furthest, steps, interrupt, errors })
variable (hleaf : ∀ {s : State} tok, P s → P (s.pushLeaf tok none))
include hnoted hleaf

theorem skipTokens_keeps (n : ℕ) (h : P s) : P (skipTokens src n s) := by
  induction n generalizing s with
  | zero => exact h
  | succ n ih =>
    rw [skipTokens]
    split
    · exact h
    · next tok _ => exact ih (hnoted _ _ _ _ _ (Nat.le_succ _) (hleaf tok h))

theorem attachHidden_keeps (n : ℕ) (h : P s) : P (s.attachHidden src n) := by
  induction n generalizing s with
  | zero => exact h
  | succ n ih =>
    rw [State.attachHidden]
    split
    · exact h
    · next tok _ =>
      dsimp only
      split
      · exact ih (hnoted _ _ _ _ _ (Nat.le_succ _) (hleaf tok h))
      · exact ih (hnoted _ _ _ _ _ (Nat.le_succ _) h)

theorem recover_keeps {body : Step Bool}
    (hbody : ∀ s b s', attemptMatch body s = .ok (b, s') → P s → P s') :
    ∀ n s u s', recover src body n s = .ok (u, s') → P s → P s' := by
  intro n
  induction n with
  | zero =>
    intro s u s' h hs
    obtain ⟨-, rfl⟩ := pure_ok h
    exact hs
  | succ n ih =>
    intro s u s' h hs
    obtain ⟨matched, s₁, hmatch, hcases⟩ := recover_ok h
    have hs₁ := hbody s matched s₁ hmatch hs
    rcases hcases with ⟨-, -, rfl⟩ | ⟨s₂, hcheck, hcases⟩
    · exact hs₁
    · have hs₂ : P s₂ := by
        obtain ⟨interrupt, rfl⟩ := check_ok hcheck
        exact hnoted _ _ _ _ _ (Nat.le_refl _) hs₁
      have hs₃ : P (reported src s₂) := hnoted _ _ _ _ _ (Nat.le_refl _) hs₂
      rcases hcases with ⟨-, rfl⟩ | ⟨next, -, hrest⟩
      · exact hs₃
      · refine ih _ _ _ hrest (hnoted _ _ _ _ _ ?_ (skipTokens_keeps hnoted hleaf _ hs₃))
        exact Nat.le_refl _

/-- **What the rounds of the entry rule keep is kept by the whole parse**, if
it has nothing to do with errors and the leaves of skipped tokens, and the
place may move on. -/
theorem entry_keeps {rule : Rule} {u : Unit}
    (hbody : ∀ s b s', attemptMatch (element src (callRule src (callDepth src)) rule.body) s =
      .ok (b, s') → P s → P s')
    (h : entry src rule s = .ok (u, s')) (hs : P s) : P s' := by
  rw [entry] at h
  obtain ⟨_, s₁, hrecover, h⟩ := bind_ok h
  obtain rfl := modify_ok h
  exact attachHidden_keeps hnoted hleaf _ (recover_keeps hnoted hleaf hbody _ _ _ _ hrecover hs)

end Entry

/-- What a text is parsed as. -/
def sourceOf (g : Grammar) (text : String) (lexemes : List Lexeme) : Source :=
  ⟨g, text, text.toList, ((Lexeme.withRanges text.toList lexemes).filterMap fun (l, range) =>
    Token.ofLexeme? g l range).toArray⟩

/-- **A parse that ends**: the entry rule ends on the tokens of the text, and
the result holds the arenas and errors that it leaves. -/
theorem parse_ok {g : Grammar} {text : String} {name : Option String} {interrupt left : Interrupt}
    {r : ParseResult} (h : g.parse text name interrupt = .ok (r, left)) :
    ∃ rule, ∃ i : ℕ, ∃ lexemes start s, g.rules[i]? = some rule ∧ g.entryRule name = .ok rule ∧
      interrupt.check = some start ∧ Lexeme.ofText? g text.toList = some lexemes ∧
      entry (sourceOf g text lexemes) rule
        (State.start (sourceOf g text lexemes) rule start) = .ok ((), s) ∧
      left = s.interrupt ∧ r.tree = ⟨s.ast, s.cst, s.references, ⟨0⟩, ⟨0⟩⟩ ∧
      r.lexerErrors = (Lexeme.withRanges text.toList lexemes).filterMap (fun (l, range) =>
        l.error? range) ∧
      r.parserErrors = s.errors := by
  rw [Grammar.parse] at h
  obtain ⟨rule, hrule, h⟩ := bind_eq_ok h
  obtain ⟨i, hi⟩ := Array.getElem?_of_mem (Grammar.entryRule_cases hrule).1
  rw [run] at h
  split at h
  · cases h
  · next start hstart =>
    dsimp only at h
    split at h
    · cases h
    · next lexemes hlexemes =>
      split at h
      · cases h
      · next s hentry =>
        cases h
        exact ⟨rule, i, lexemes, start, s, hi, hrule, hstart, hlexemes, hentry, rfl, rfl, rfl, rfl⟩

/-! ## Elements

What a step that came through has done, one lemma for each element that does
more than to count itself. -/

section Elements

variable {src : Source} {call : Call} {a : Option Assigned} {b : Bool}

/-- The value that a token gives where an element stands for it. -/
def taken (src : Source) : Element → CstId × Token → Assigned
  | .keyword _ text, _ => .scalar (.str text)
  | .terminal _ index, (_, tok) =>
    .scalar (convert ((src.grammar.terminals[index]?.map Terminal.value).getD .text) tok.text)
  | .crossRef _ target _, (leaf, tok) => .reference tok.text leaf target
  | _, _ => .scalar (.bool false)

/-- Where a token is a value, the element is counted and the token consumed. -/
theorem assigned_single_ok {e : Element} {kind : LexemeKind} (hsingle : e.single? = some kind)
    (h : assigned src call e s = .ok (a, s')) :
    ∃ u s₁ label found, tick s = .ok (u, s₁) ∧ token src e.id kind label s₁ = .ok (found, s') ∧
      a = found.map (taken src e) := by
  cases e with
  | keyword id text | terminal id index | crossRef id target index =>
    cases hsingle
    rw [assigned] at h
    obtain ⟨u, s₁, htick, h⟩ := bind_ok h
    obtain ⟨found, s₂, htoken, h⟩ := bind_ok h
    obtain ⟨rfl, rfl⟩ := pure_ok h
    exact ⟨u, s₁, _, found, htick, htoken, rfl⟩
  | _ => cases hsingle

/-- Where a token is matched, no more is asked than whether there is one; a
cross-reference matches as a value only. -/
theorem element_single_ok {e : Element} {kind : LexemeKind} (hsingle : e.single? = some kind)
    (hcross : ∀ id target index, e ≠ .crossRef id target index)
    (h : element src call e s = .ok (b, s')) :
    ∃ u s₁ label found, tick s = .ok (u, s₁) ∧ token src e.id kind label s₁ = .ok (found, s') ∧
      b = found.isSome := by
  cases e with
  | keyword id text | terminal id index =>
    cases hsingle
    rw [element] at h
    obtain ⟨u, s₁, htick, h⟩ := bind_ok h
    obtain ⟨found, s₂, htoken, h⟩ := bind_ok h
    obtain ⟨rfl, rfl⟩ := pure_ok h
    exact ⟨u, s₁, _, found, htick, htoken, rfl⟩
  | crossRef id target index => exact absurd rfl (hcross id target index)
  | _ => cases hsingle

/-- The value of a call is the node that it makes. -/
theorem assigned_call_ok {id : ElementId} {rule : ℕ}
    (h : assigned src call (.call id rule) s = .ok (a, s')) :
    ∃ u s₁ found, tick s = .ok (u, s₁) ∧ call id rule s₁ = .ok (found, s') ∧
      a = found.map .node := by
  rw [assigned] at h
  obtain ⟨u, s₁, htick, h⟩ := bind_ok h
  obtain ⟨found, s₂, hcall, h⟩ := bind_ok h
  obtain ⟨rfl, rfl⟩ := pure_ok h
  exact ⟨u, s₁, found, htick, hcall, rfl⟩

theorem assigned_alt_ok {id : ElementId} {items : List Element}
    (h : assigned src call (.alt id items) s = .ok (a, s')) :
    ∃ u s₁, tick s = .ok (u, s₁) ∧ firstAssigned src call items s₁ = .ok (a, s') := by
  rw [assigned_alt] at h
  exact bind_ok h

/-- The first value is that of the first item, or one of the others after an
attempt that was undone. -/
theorem firstAssigned_cons_ok {item : Element} {items : List Element}
    (h : firstAssigned src call (item :: items) s = .ok (a, s')) :
    (∃ value, assigned src call item s = .ok (some value, s') ∧ a = some value) ∨
      ∃ s₁, attempt (assigned src call item) s = .ok (none, s₁) ∧
        firstAssigned src call items s₁ = .ok (a, s') := by
  rw [firstAssigned] at h
  obtain ⟨found, s₁, hattempt, h⟩ := bind_ok h
  cases found with
  | some value =>
    obtain ⟨rfl, rfl⟩ := pure_ok h
    exact Or.inl ⟨value, attempt_some hattempt, rfl⟩
  | none => exact Or.inr ⟨s₁, hattempt, h⟩

/-- A call that is not assigned leaves its node as the product. -/
theorem element_call_ok {id : ElementId} {rule : ℕ}
    (h : element src call (.call id rule) s = .ok (b, s')) :
    ∃ u s₁, tick s = .ok (u, s₁) ∧ ((call id rule s₁ = .ok (none, s') ∧ b = false) ∨
      ∃ node s₂, call id rule s₁ = .ok (some node, s₂) ∧ b = true ∧
        s' = { s₂ with produced := some node }) := by
  rw [element] at h
  obtain ⟨u, s₁, htick, h⟩ := bind_ok h
  refine ⟨u, s₁, htick, ?_⟩
  obtain ⟨found, s₂, hcall, h⟩ := bind_ok h
  cases found with
  | none =>
    obtain ⟨rfl, rfl⟩ := pure_ok h
    exact Or.inl ⟨hcall, rfl⟩
  | some node =>
    obtain ⟨_, s₃, hmod, h⟩ := bind_ok h
    obtain ⟨rfl, rfl⟩ := pure_ok h
    exact Or.inr ⟨node, s₂, hcall, rfl, modify_ok hmod⟩

/-- An assignment stores a value that was found, in a node that is there. -/
theorem element_assign_ok {id : ElementId} {feature : String} {op : AssignOp} {value : Element}
    (h : element src call (.assign id feature op value) s = .ok (b, s')) :
    ∃ u s₁, tick s = .ok (u, s₁) ∧ ((s₁.node = none ∧ b = false ∧ s' = s₁) ∨
      ∃ node, s₁.node = some node ∧ ((assigned src call value s₁ = .ok (none, s') ∧ b = false) ∨
        ∃ v s₂, assigned src call value s₁ = .ok (some v, s₂) ∧ b = true ∧
          s' = s₂.store node feature op v)) := by
  rw [element] at h
  obtain ⟨u, s₁, htick, h⟩ := bind_ok h
  refine ⟨u, s₁, htick, ?_⟩
  obtain ⟨_, _, hget, h⟩ := bind_ok h
  obtain ⟨rfl, rfl⟩ := get_ok hget
  cases hnode : s₁.node with
  | none =>
    simp only [hnode] at h
    obtain ⟨rfl, rfl⟩ := pure_ok h
    exact Or.inl ⟨rfl, rfl, rfl⟩
  | some node =>
    simp only [hnode] at h
    obtain ⟨found, s₂, hfound, h⟩ := bind_ok h
    cases found with
    | none =>
      obtain ⟨rfl, rfl⟩ := pure_ok h
      exact Or.inr ⟨node, rfl, Or.inl ⟨hfound, rfl⟩⟩
    | some v =>
      obtain ⟨_, s₃, hmod, h⟩ := bind_ok h
      obtain ⟨rfl, rfl⟩ := pure_ok h
      exact Or.inr ⟨node, rfl, Or.inr ⟨v, s₂, hfound, rfl, modify_ok hmod⟩⟩

theorem element_seq_ok {id : ElementId} {items : List Element}
    (h : element src call (.seq id items) s = .ok (b, s')) :
    ∃ u s₁, tick s = .ok (u, s₁) ∧ allElements src call items s₁ = .ok (b, s') := by
  rw [element_seq] at h
  exact bind_ok h

theorem element_alt_ok {id : ElementId} {items : List Element}
    (h : element src call (.alt id items) s = .ok (b, s')) :
    ∃ u s₁, tick s = .ok (u, s₁) ∧ firstElement src call items s₁ = .ok (b, s') := by
  rw [element_alt] at h
  exact bind_ok h

/-- A repetition counts its rounds, of which there may be one more than there
are tokens left. -/
theorem element_repeated_ok {id : ElementId} {cardinality : Cardinality} {body : Element}
    (h : element src call (.repeated id cardinality body) s = .ok (b, s')) :
    ∃ u s₁ count, tick s = .ok (u, s₁) ∧ rounds (decide (cardinality = .optional))
        (element src call body) (src.tokens.size - s₁.pos + 1) s₁ = .ok (count, s') ∧
      b = (decide (count > 0) || cardinality != .atLeastOne) := by
  rw [element] at h
  obtain ⟨u, s₁, htick, h⟩ := bind_ok h
  obtain ⟨_, _, hget, h⟩ := bind_ok h
  obtain ⟨rfl, rfl⟩ := get_ok hget
  obtain ⟨count, s₂, hrounds, h⟩ := bind_ok h
  obtain ⟨rfl, rfl⟩ := pure_ok h
  exact ⟨u, s₁, count, htick, hrounds, rfl⟩

/-- **One round of a repetition**: it does not match, or it is the last one,
or it has passed a token and others follow. -/
theorem rounds_ok {once : Bool} {body : Step Bool} {n count : ℕ}
    (h : rounds once body (n + 1) s = .ok (count, s')) :
    (attemptMatch body s = .ok (false, s') ∧ count = 0) ∨
      ∃ s₁, attemptMatch body s = .ok (true, s₁) ∧
        (((once = true ∨ s₁.pos = s.pos) ∧ s' = s₁ ∧ count = 1) ∨
          (once = false ∧ s₁.pos ≠ s.pos ∧
            ∃ more, rounds once body n s₁ = .ok (more, s') ∧ count = more + 1)) := by
  rw [rounds] at h
  obtain ⟨_, _, hget, h⟩ := bind_ok h
  obtain ⟨rfl, rfl⟩ := get_ok hget
  obtain ⟨matched, s₁, hmatch, h⟩ := bind_ok h
  cases matched with
  | false =>
    obtain ⟨rfl, rfl⟩ := pure_ok h
    exact Or.inl ⟨hmatch, rfl⟩
  | true =>
    refine Or.inr ⟨s₁, hmatch, ?_⟩
    obtain ⟨_, _, hget, h⟩ := bind_ok h
    obtain ⟨rfl, rfl⟩ := get_ok hget
    split at h
    · next hlast =>
      obtain ⟨rfl, rfl⟩ := pure_ok h
      rw [Bool.or_eq_true, decide_eq_true_eq] at hlast
      exact Or.inl ⟨hlast, rfl, rfl⟩
    · next hmore =>
      obtain ⟨more, s₂, hrest, h⟩ := bind_ok h
      obtain ⟨rfl, rfl⟩ := pure_ok h
      rw [Bool.or_eq_true, decide_eq_true_eq, not_or, Bool.not_eq_true] at hmore
      exact Or.inr ⟨hmore.1, hmore.2, more, hrest, rfl⟩

/-- A sequence goes on after an item that matches. -/
theorem allElements_cons_ok {item : Element} {items : List Element}
    (h : allElements src call (item :: items) s = .ok (b, s')) :
    (element src call item s = .ok (false, s') ∧ b = false) ∨
      ∃ s₁, element src call item s = .ok (true, s₁) ∧
        allElements src call items s₁ = .ok (b, s') := by
  rw [allElements] at h
  obtain ⟨matched, s₁, hmatch, h⟩ := bind_ok h
  cases matched with
  | false =>
    obtain ⟨rfl, rfl⟩ := pure_ok h
    exact Or.inl ⟨hmatch, rfl⟩
  | true => exact Or.inr ⟨s₁, hmatch, h⟩

/-- An alternative goes on after an attempt that was undone. -/
theorem firstElement_cons_ok {item : Element} {items : List Element}
    (h : firstElement src call (item :: items) s = .ok (b, s')) :
    (element src call item s = .ok (true, s') ∧ b = true) ∨
      ∃ s₁, attemptMatch (element src call item) s = .ok (false, s₁) ∧
        firstElement src call items s₁ = .ok (b, s') := by
  rw [firstElement] at h
  obtain ⟨matched, s₁, hmatch, h⟩ := bind_ok h
  cases matched with
  | true =>
    obtain ⟨rfl, rfl⟩ := pure_ok h
    exact Or.inl ⟨attemptMatch_ok hmatch, rfl⟩
  | false => exact Or.inr ⟨s₁, hmatch, h⟩

end Elements

/-! ## Kinds of values -/

/-- The kind of a value. -/
def Assigned.kind : Assigned → ItemKind
  | scalar _ => .scalar
  | node _ => .node
  | reference _ _ _ => .reference

mutual

/-- **A value is of a kind of its element.** -/
theorem assigned_kind {src : Source} {call : Call} :
    ∀ (e : Element) {value : Assigned} {s s' : State},
      assigned src call e s = .ok (some value, s') → value.kind ∈ e.kinds
  | .keyword id text, _, _, _, h => by
    obtain ⟨_, _, _, _, -, -, hvalue⟩ := assigned_single_ok rfl h
    obtain ⟨_, -, rfl⟩ := Option.map_eq_some_iff.mp hvalue.symm
    exact List.mem_cons_self
  | .terminal id index, _, _, _, h => by
    obtain ⟨_, _, _, _, -, -, hvalue⟩ := assigned_single_ok rfl h
    obtain ⟨_, -, rfl⟩ := Option.map_eq_some_iff.mp hvalue.symm
    exact List.mem_cons_self
  | .call id rule, _, _, _, h => by
    obtain ⟨_, _, _, -, -, hvalue⟩ := assigned_call_ok h
    obtain ⟨_, -, rfl⟩ := Option.map_eq_some_iff.mp hvalue.symm
    exact List.mem_cons_self
  | .crossRef id target index, _, _, _, h => by
    obtain ⟨_, _, _, _, -, -, hvalue⟩ := assigned_single_ok rfl h
    obtain ⟨_, -, rfl⟩ := Option.map_eq_some_iff.mp hvalue.symm
    exact List.mem_cons_self
  | .alt _ items, _, _, _, h => by
    obtain ⟨_, _, -, hfirst⟩ := assigned_alt_ok h
    exact firstAssigned_kind items hfirst
  | .assign _ _ _ _, _, _, _, h => by
    rw [assigned] at h
    obtain ⟨_, _, -, h⟩ := bind_ok h
    cases (pure_ok h).1
  | .seq _ _, _, _, _, h => by
    rw [assigned] at h
    obtain ⟨_, _, -, h⟩ := bind_ok h
    cases (pure_ok h).1
  | .repeated _ _ _, _, _, _, h => by
    rw [assigned] at h
    obtain ⟨_, _, -, h⟩ := bind_ok h
    cases (pure_ok h).1

/-- A value is of a kind of one of its elements. -/
theorem firstAssigned_kind {src : Source} {call : Call} :
    ∀ (items : List Element) {value : Assigned} {s s' : State},
      firstAssigned src call items s = .ok (some value, s') → value.kind ∈ Element.kindsOf items
  | [], _, _, _, h => by
    rw [firstAssigned] at h
    cases (pure_ok h).1
  | item :: items, _, _, _, h => by
    rcases firstAssigned_cons_ok h with ⟨_, hitem, ⟨⟩⟩ | ⟨s₁, -, hrest⟩
    · exact List.mem_append_left _ (assigned_kind item hitem)
    · exact List.mem_append_right _ (firstAssigned_kind items hrest)

end

/-- What assignments store is of kinds that may be stored. -/
def StoredBy (Stores : String → AssignOp → ItemKind → Prop)
    (assignments : List (String × AssignOp × Element)) : Prop :=
  ∀ a ∈ assignments, ∀ k ∈ a.2.2.kinds, Stores a.1 a.2.1 k

namespace StoredBy

variable {Stores : String → AssignOp → ItemKind → Prop}
variable {l l' : List (String × AssignOp × Element)}

theorem left (h : StoredBy Stores (l ++ l')) : StoredBy Stores l :=
  fun a ha => h a (List.mem_append_left _ ha)

theorem right (h : StoredBy Stores (l ++ l')) : StoredBy Stores l' :=
  fun a ha => h a (List.mem_append_right _ ha)

end StoredBy

/-! ## Relations that are kept -/

/-- **What keeps a relation** between the states before and after. `Value`
says in addition what is known about a value that was found between the two;
`Known` are the elements that may be met, with the features that are assigned
around them, and `Stores` are the kinds of values that may be stored under a
feature. -/
structure KeptAt (src : Source) (Known : Option String → Element → Prop)
    (Stores : String → AssignOp → ItemKind → Prop) (Rel : State → State → Prop)
    (Value : State → Assigned → State → Prop) : Prop where
  refl : ∀ s, Rel s s
  trans : ∀ {s₁ s₂ s₃}, Rel s₁ s₂ → Rel s₂ s₃ → Rel s₁ s₃
  /-- A value may be found after something else. -/
  later : ∀ {s₁ s₂ s₃ value}, Rel s₁ s₂ → Value s₂ value s₃ → Value s₁ value s₃
  /-- Elements are counted. -/
  tick : ∀ {s s' u}, tick s = .ok (u, s') → Rel s s'
  /-- Failures are noted. -/
  expect : ∀ s label, Rel s (s.expect src label)
  /-- Tokens are consumed. -/
  consume : ∀ {s index tok feature e}, Known feature e → e.single? = some tok.kind →
    s.nextSignificant src = some index → src.tokens[index]? = some tok →
    Rel s (s.consume src index tok (some e.id))
  /-- The token may be the value. -/
  scalar : ∀ {s s' index tok feature e value}, Known feature e → e.single? = some tok.kind →
    s.nextSignificant src = some index → src.tokens[index]? = some tok →
    s' = s.consume src index tok (some e.id) → Value s (.scalar value) s'
  /-- The token may be a reference. -/
  reference : ∀ {s s' index tok feature e target}, Known feature e → e.single? = some tok.kind →
    s.nextSignificant src = some index → src.tokens[index]? = some tok →
    s' = s.consume src index tok (some e.id) →
    Value s (.reference tok.text ⟨s'.cst.size - 1⟩ target) s'
  /-- Values are stored. -/
  store : ∀ {s s' node feature op value}, Stores feature op value.kind → s.node = some node →
    Value s value s' → Rel s (s'.store node feature op value)
  /-- Nodes are produced. -/
  produce : ∀ {s s' node}, Value s (.node node) s' → Rel s { s' with produced := some node }
  /-- Attempts are undone. -/
  restore : ∀ {s s'}, Rel s s' → Rel s (s'.restore s.mark)

/-- Everything in a body may be met. -/
def AllKnown (Known : Option String → Element → Prop) (sites : List (Option String × Element)) :
    Prop :=
  ∀ site ∈ sites, Known site.1 site.2

namespace AllKnown

variable {Known : Option String → Element → Prop} {site : Option String × Element}
variable {l l' : List (Option String × Element)}

theorem head (h : AllKnown Known (site :: l)) : Known site.1 site.2 := h site List.mem_cons_self

theorem tail (h : AllKnown Known (site :: l)) : AllKnown Known l :=
  fun x hx => h x (List.mem_cons_of_mem _ hx)

theorem left (h : AllKnown Known (l ++ l')) : AllKnown Known l :=
  fun x hx => h x (List.mem_append_left _ hx)

theorem right (h : AllKnown Known (l ++ l')) : AllKnown Known l' :=
  fun x hx => h x (List.mem_append_right _ hx)

end AllKnown

/-- The calls of elements that may be met keep the relation, and what they give
is a value. -/
def KeptByAt (Known : Option String → Element → Prop) (Rel : State → State → Prop)
    (Value : State → Assigned → State → Prop) (call : Call) : Prop :=
  ∀ feature id rule s a s', Known feature (.call id rule) → call id rule s = .ok (a, s') →
    Rel s s' ∧ ∀ node, a = some node → Value s (.node node) s'

namespace KeptAt

variable {src : Source} {Known : Option String → Element → Prop} {Rel : State → State → Prop}
variable {Stores : String → AssignOp → ItemKind → Prop}
variable {Value : State → Assigned → State → Prop} {call : Call}

theorem token (h : KeptAt src Known Stores Rel Value) {feature : Option String} {e : Element}
    (he : Known feature e) {kind : LexemeKind} (hkind : e.single? = some kind) {label : String}
    {a : Option (CstId × Token)} (ht : Parse.token src e.id kind label s = .ok (a, s')) :
    Rel s s' := by
  rcases token_ok ht with ⟨index, tok, hnext, htok, rfl, rfl⟩ | ⟨-, rfl⟩
  · exact h.consume he (by rw [token_kind ht]; exact hkind) hnext htok
  · exact h.expect s label

/-- A token that is found is a value. -/
theorem tokenValue (h : KeptAt src Known Stores Rel Value) {feature : Option String} {e : Element}
    (he : Known feature e) {kind : LexemeKind} (hkind : e.single? = some kind) {label : String}
    {leaf : CstId} {tok : Token} (ht : Parse.token src e.id kind label s = .ok (some (leaf, tok), s')) :
    Value s (taken src e (leaf, tok)) s' := by
  have hsingle : e.single? = some tok.kind := by rw [token_kind ht]; exact hkind
  rcases token_ok ht with ⟨index, tok', hnext, htok, hs', hfound⟩ | ⟨hnone, -⟩
  · obtain ⟨rfl, rfl⟩ := Prod.mk.inj (Option.some.inj hfound)
    cases e with
    | keyword id text | terminal id rule => exact h.scalar he hsingle hnext htok hs'
    | crossRef id target rule => exact h.reference he hsingle hnext htok hs'
    | _ => cases hkind
  · cases hnone

theorem attempt (h : KeptAt src Known Stores Rel Value) {step : Step (Option α)}
    (hstep : ∀ s a s', step s = .ok (a, s') → Rel s s') {a : Option α}
    (ha : Parse.attempt step s = .ok (a, s')) : Rel s s' := by
  cases a with
  | some a => exact hstep s _ _ (attempt_some ha)
  | none =>
    obtain ⟨s₁, hs, rfl⟩ := attempt_isNone ha
    exact h.restore (hstep s _ _ hs)

theorem attemptMatch (h : KeptAt src Known Stores Rel Value) {step : Step Bool}
    (hstep : ∀ s b s', step s = .ok (b, s') → Rel s s') {b : Bool}
    (hb : Parse.attemptMatch step s = .ok (b, s')) : Rel s s' := by
  cases b with
  | true => exact hstep s _ _ (attemptMatch_ok hb)
  | false =>
    obtain ⟨s₁, hs, rfl⟩ := attemptMatch_isFalse hb
    exact h.restore (hstep s _ _ hs)

theorem rounds (h : KeptAt src Known Stores Rel Value) {once : Bool} {body : Step Bool}
    (hbody : ∀ s b s', body s = .ok (b, s') → Rel s s') :
    ∀ n s k s', Parse.rounds once body n s = .ok (k, s') → Rel s s' := by
  intro n
  induction n with
  | zero =>
    intro s k s' hr
    obtain ⟨-, rfl⟩ := pure_ok hr
    exact h.refl s
  | succ n ih =>
    intro s k s' hr
    rcases rounds_ok hr with ⟨hmatch, -⟩ | ⟨s₁, hmatch, ⟨-, rfl, -⟩ | ⟨-, -, more, hrest, -⟩⟩
    · exact h.attemptMatch hbody hmatch
    · exact h.attemptMatch hbody hmatch
    · exact h.trans (h.attemptMatch hbody hmatch) (ih _ _ _ hrest)

/-! ## The interpreter -/

/-- An element that stands for a token finds it, or nothing. -/
theorem assigned_single (h : KeptAt src Known Stores Rel Value) {feature : Option String}
    {e : Element} (he : Known feature e) {kind : LexemeKind} (hkind : e.single? = some kind)
    {a : Option Assigned} (ha : Parse.assigned src call e s = .ok (a, s')) :
    Rel s s' ∧ ∀ value, a = some value → Value s value s' := by
  obtain ⟨_, s₁, _, found, htick, htoken, rfl⟩ := assigned_single_ok hkind ha
  refine ⟨h.trans (h.tick htick) (h.token he hkind htoken), ?_⟩
  intro value hvalue
  obtain ⟨⟨leaf, tok⟩, rfl, rfl⟩ := Option.map_eq_some_iff.mp hvalue
  exact h.later (h.tick htick) (h.tokenValue he hkind htoken)

mutual

/-- The value of an element is found. -/
theorem assigned (h : KeptAt src Known Stores Rel Value) (hcall : KeptByAt Known Rel Value call) :
    ∀ (e : Element) {feature : Option String}, AllKnown Known (e.sites feature) →
    ∀ s a s', Parse.assigned src call e s = .ok (a, s') →
      Rel s s' ∧ ∀ value, a = some value → Value s value s'
  | .keyword id text, feature, hknown, s, a, s', ha => by
    exact h.assigned_single hknown.head rfl ha
  | .terminal id index, feature, hknown, s, a, s', ha => by
    exact h.assigned_single hknown.head rfl ha
  | .call id rule, feature, hknown, s, a, s', ha => by
    obtain ⟨_, s₁, found, htick, hc, rfl⟩ := assigned_call_ok ha
    obtain ⟨hrel, hnode⟩ := hcall feature id rule s₁ found s' hknown.head hc
    refine ⟨h.trans (h.tick htick) hrel, ?_⟩
    intro value hvalue
    obtain ⟨node, hfound, rfl⟩ := Option.map_eq_some_iff.mp hvalue
    exact h.later (h.tick htick) (hnode node hfound)
  | .crossRef id target index, feature, hknown, s, a, s', ha => by
    exact h.assigned_single hknown.head rfl ha
  | .alt id items, feature, hknown, s, a, s', ha => by
    obtain ⟨_, s₁, htick, hfirst⟩ := assigned_alt_ok ha
    obtain ⟨hrel, hvalue⟩ := firstAssigned h hcall items hknown.tail s₁ a s' hfirst
    exact ⟨h.trans (h.tick htick) hrel, fun value hv => h.later (h.tick htick) (hvalue value hv)⟩
  | .assign _ _ _ _, _, _, s, a, s', ha => by
    rw [Parse.assigned] at ha
    obtain ⟨_, s₁, htick, ha⟩ := bind_ok ha
    obtain ⟨rfl, rfl⟩ := pure_ok ha
    exact ⟨h.tick htick, nofun⟩
  | .seq _ _, _, _, s, a, s', ha => by
    rw [Parse.assigned] at ha
    obtain ⟨_, s₁, htick, ha⟩ := bind_ok ha
    obtain ⟨rfl, rfl⟩ := pure_ok ha
    exact ⟨h.tick htick, nofun⟩
  | .repeated _ _ _, _, _, s, a, s', ha => by
    rw [Parse.assigned] at ha
    obtain ⟨_, s₁, htick, ha⟩ := bind_ok ha
    obtain ⟨rfl, rfl⟩ := pure_ok ha
    exact ⟨h.tick htick, nofun⟩

/-- The first value of several elements is found. -/
theorem firstAssigned (h : KeptAt src Known Stores Rel Value)
    (hcall : KeptByAt Known Rel Value call) :
    ∀ (items : List Element) {feature : Option String},
    AllKnown Known (Element.sitesOf feature items) →
    ∀ s a s', Parse.firstAssigned src call items s = .ok (a, s') →
      Rel s s' ∧ ∀ value, a = some value → Value s value s'
  | [], _, _, s, a, s', ha => by
    rw [Parse.firstAssigned] at ha
    obtain ⟨rfl, rfl⟩ := pure_ok ha
    exact ⟨h.refl s, nofun⟩
  | item :: items, feature, hknown, s, a, s', ha => by
    have hitem := assigned h hcall item hknown.left
    rcases firstAssigned_cons_ok ha with ⟨value, hfound, rfl⟩ | ⟨s₁, hatt, hrest⟩
    · exact hitem s _ s' hfound
    · have hrel := h.attempt (fun s a s' hs => (hitem s a s' hs).1) hatt
      obtain ⟨hrel', hvalue⟩ := firstAssigned h hcall items hknown.right s₁ a s' hrest
      exact ⟨h.trans hrel hrel', fun value hv => h.later hrel (hvalue value hv)⟩

end

mutual

/-- **An element is matched or not.** -/
theorem element (h : KeptAt src Known Stores Rel Value) (hcall : KeptByAt Known Rel Value call) :
    ∀ (e : Element) {feature : Option String}, AllKnown Known (e.sites feature) →
    StoredBy Stores e.assignments →
    ∀ s b s', Parse.element src call e s = .ok (b, s') → Rel s s'
  | .keyword id text, feature, hknown, _, s, b, s', hb => by
    obtain ⟨_, s₁, _, found, htick, htoken, -⟩ := element_single_ok rfl (by nofun) hb
    exact h.trans (h.tick htick) (h.token hknown.head rfl htoken)
  | .terminal id index, feature, hknown, _, s, b, s', hb => by
    obtain ⟨_, s₁, _, found, htick, htoken, -⟩ := element_single_ok rfl (by nofun) hb
    exact h.trans (h.tick htick) (h.token hknown.head rfl htoken)
  | .call id rule, feature, hknown, _, s, b, s', hb => by
    obtain ⟨_, s₁, htick, ⟨hc, -⟩ | ⟨node, s₂, hc, -, rfl⟩⟩ := element_call_ok hb
    · exact h.trans (h.tick htick) (hcall feature id rule s₁ none s' hknown.head hc).1
    · obtain ⟨-, hnode⟩ := hcall feature id rule s₁ _ s₂ hknown.head hc
      exact h.trans (h.tick htick) (h.produce (hnode node rfl))
  | .crossRef _ _ _, _, _, _, s, b, s', hb => by
    rw [Parse.element] at hb
    obtain ⟨_, s₁, htick, hb⟩ := bind_ok hb
    obtain ⟨-, rfl⟩ := pure_ok hb
    exact h.tick htick
  | .assign _ feature op value, _, hknown, hstores, s, b, s', hb => by
    have hfinds := assigned h hcall value hknown.tail
    obtain ⟨_, s₁, htick, hcases⟩ := element_assign_ok hb
    refine h.trans (h.tick htick) ?_
    rcases hcases with ⟨-, -, rfl⟩ | ⟨node, hnode, ⟨hfound, -⟩ | ⟨v, s₂, hfound, -, rfl⟩⟩
    · exact h.refl s'
    · exact (hfinds s₁ none s' hfound).1
    · have hvalue := (hfinds s₁ _ s₂ hfound).2 v rfl
      exact h.store (hstores _ List.mem_cons_self _ (assigned_kind value hfound)) hnode hvalue
  | .seq _ items, feature, hknown, hstores, s, b, s', hb => by
    obtain ⟨_, s₁, htick, hall⟩ := element_seq_ok hb
    exact h.trans (h.tick htick) (allElements h hcall items hknown.tail hstores s₁ b s' hall)
  | .alt _ items, feature, hknown, hstores, s, b, s', hb => by
    obtain ⟨_, s₁, htick, hfirst⟩ := element_alt_ok hb
    exact h.trans (h.tick htick) (firstElement h hcall items hknown.tail hstores s₁ b s' hfirst)
  | .repeated _ cardinality body, feature, hknown, hstores, s, b, s', hb => by
    obtain ⟨_, s₁, count, htick, hrounds, -⟩ := element_repeated_ok hb
    have hbody := element h hcall body hknown.tail hstores
    exact h.trans (h.tick htick) (h.rounds hbody _ _ _ _ hrounds)

/-- Elements are matched one after the other. -/
theorem allElements (h : KeptAt src Known Stores Rel Value)
    (hcall : KeptByAt Known Rel Value call) :
    ∀ (items : List Element) {feature : Option String},
    AllKnown Known (Element.sitesOf feature items) →
    StoredBy Stores (Element.assignmentsOf items) →
    ∀ s b s', Parse.allElements src call items s = .ok (b, s') → Rel s s'
  | [], _, _, _, s, b, s', hb => by
    rw [Parse.allElements] at hb
    obtain ⟨-, rfl⟩ := pure_ok hb
    exact h.refl s
  | item :: items, feature, hknown, hstores, s, b, s', hb => by
    have hitem := element h hcall item hknown.left hstores.left
    rcases allElements_cons_ok hb with ⟨hmatch, -⟩ | ⟨s₁, hmatch, hrest⟩
    · exact hitem s _ s' hmatch
    · exact h.trans (hitem s _ s₁ hmatch)
        (allElements h hcall items hknown.right hstores.right s₁ b s' hrest)

/-- The first of several elements is matched. -/
theorem firstElement (h : KeptAt src Known Stores Rel Value)
    (hcall : KeptByAt Known Rel Value call) :
    ∀ (items : List Element) {feature : Option String},
    AllKnown Known (Element.sitesOf feature items) →
    StoredBy Stores (Element.assignmentsOf items) →
    ∀ s b s', Parse.firstElement src call items s = .ok (b, s') → Rel s s'
  | [], _, _, _, s, b, s', hb => by
    rw [Parse.firstElement] at hb
    obtain ⟨-, rfl⟩ := pure_ok hb
    exact h.refl s
  | item :: items, feature, hknown, hstores, s, b, s', hb => by
    have hitem := element h hcall item hknown.left hstores.left
    rcases firstElement_cons_ok hb with ⟨hmatch, -⟩ | ⟨s₁, hmatch, hrest⟩
    · exact hitem s _ s' hmatch
    · exact h.trans (h.attemptMatch hitem hmatch)
        (firstElement h hcall items hknown.right hstores.right s₁ b s' hrest)

end

end KeptAt

/-! ## Numbers are enough -/

/-- **What keeps a relation**, told only the numbers of the elements that are
met. -/
structure Kept (src : Source) (Known : ElementId → Prop)
    (Stores : String → AssignOp → ItemKind → Prop) (Rel : State → State → Prop)
    (Value : State → Assigned → State → Prop) : Prop where
  refl : ∀ s, Rel s s
  trans : ∀ {s₁ s₂ s₃}, Rel s₁ s₂ → Rel s₂ s₃ → Rel s₁ s₃
  /-- A value may be found after something else. -/
  later : ∀ {s₁ s₂ s₃ value}, Rel s₁ s₂ → Value s₂ value s₃ → Value s₁ value s₃
  /-- Elements are counted. -/
  tick : ∀ {s s' u}, tick s = .ok (u, s') → Rel s s'
  /-- Failures are noted. -/
  expect : ∀ s label, Rel s (s.expect src label)
  /-- Tokens are consumed. -/
  consume : ∀ {s index tok id}, Known id → s.nextSignificant src = some index →
    src.tokens[index]? = some tok → Rel s (s.consume src index tok (some id))
  /-- The token may be the value. -/
  scalar : ∀ {s s' index tok id value}, Known id → s.nextSignificant src = some index →
    src.tokens[index]? = some tok → s' = s.consume src index tok (some id) →
    Value s (.scalar value) s'
  /-- The token may be a reference. -/
  reference : ∀ {s s' index tok id target}, Known id → s.nextSignificant src = some index →
    src.tokens[index]? = some tok → s' = s.consume src index tok (some id) →
    Value s (.reference tok.text ⟨s'.cst.size - 1⟩ target) s'
  /-- Values are stored. -/
  store : ∀ {s s' node feature op value}, Stores feature op value.kind → s.node = some node →
    Value s value s' → Rel s (s'.store node feature op value)
  /-- Nodes are produced. -/
  produce : ∀ {s s' node}, Value s (.node node) s' → Rel s { s' with produced := some node }
  /-- Attempts are undone. -/
  restore : ∀ {s s'}, Rel s s' → Rel s (s'.restore s.mark)

/-- The calls of known numbers keep the relation, and what they give is a value. -/
def KeptBy (Known : ElementId → Prop) (Rel : State → State → Prop)
    (Value : State → Assigned → State → Prop) (call : Call) : Prop :=
  ∀ id rule s a s', Known id → call id rule s = .ok (a, s') →
    Rel s s' ∧ ∀ node, a = some node → Value s (.node node) s'

namespace Kept

variable {src : Source} {Known : ElementId → Prop} {Rel : State → State → Prop}
variable {Stores : String → AssignOp → ItemKind → Prop}
variable {Value : State → Assigned → State → Prop} {call : Call}

/-- It keeps the relation for the elements that have the numbers. -/
theorem keptAt (h : Kept src Known Stores Rel Value) :
    KeptAt src (fun _ e => Known e.id) Stores Rel Value :=
  { h with
    consume := fun he _ => h.consume he
    scalar := fun he _ => h.scalar he
    reference := fun he _ => h.reference he }

theorem attemptMatch (h : Kept src Known Stores Rel Value) {step : Step Bool}
    (hstep : ∀ s b s', step s = .ok (b, s') → Rel s s') {b : Bool}
    (hb : Parse.attemptMatch step s = .ok (b, s')) : Rel s s' :=
  h.keptAt.attemptMatch hstep hb

theorem known_of_ids {e : Element} (hids : ∀ id ∈ e.ids, Known id) :
    AllKnown (fun _ e => Known e.id) (e.sites none) := by
  intro site hsite
  refine hids _ ?_
  rw [Element.ids_eq_map_sites none]
  exact List.mem_map_of_mem hsite

/-- The value of an element is found. -/
theorem assigned (h : Kept src Known Stores Rel Value) (hcall : KeptBy Known Rel Value call)
    (e : Element) (hids : ∀ id ∈ e.ids, Known id) (s : State) (a : Option Assigned) (s' : State)
    (ha : Parse.assigned src call e s = .ok (a, s')) :
    Rel s s' ∧ ∀ value, a = some value → Value s value s' :=
  h.keptAt.assigned (fun _ => hcall) e (known_of_ids hids) s a s' ha

/-- **An element is matched or not.** -/
theorem element (h : Kept src Known Stores Rel Value) (hcall : KeptBy Known Rel Value call)
    (e : Element) (hids : ∀ id ∈ e.ids, Known id) (hstores : StoredBy Stores e.assignments)
    (s : State) (b : Bool) (s' : State) (hb : Parse.element src call e s = .ok (b, s')) :
    Rel s s' :=
  h.keptAt.element (fun _ => hcall) e (known_of_ids hids) hstores s b s' hb

end Kept

end Parse

end Workbench
