import Workbench.Proofs.Parse.Lossless
import Workbench.Proofs.Parse.Recovery
/-!
# Where errors are reported

An error is reported at the furthest failure, but tokens are skipped from
where the match of the round ended. What is noted about failures survives
attempts that are undone (`Aimed`), and a match may go on behind it: then the
error is at a token that was read. The rounds of a parse are taken in turn
(`Recovery.turns`), each from where its error is reported to behind what it
skips, and an error is at a skipped token exactly if its turn had come no
further than the furthest failure.
-/

namespace Workbench

/-- An error at the end of a text. -/
def SyntaxError.AtEnd (e : SyntaxError) (text : String) : Prop :=
  e.offset = text.utf8ByteSize ∧ e.length = 0

/-- An error at one of some leaves. -/
def SyntaxError.At (e : SyntaxError) (leaves : List Leaf) : Prop :=
  ∃ leaf ∈ leaves, leaf.offset = e.offset ∧ leaf.length = e.length

/-- The leaf of a token that was skipped: it is not hidden, and comes of no
element. -/
def CstNode.skippedLeaf? (node : CstNode) : Option Leaf :=
  if node.source = none ∧ node.hidden = false then node.leaf? else none

/-- **The leaves of what was skipped**, in preorder. -/
def SyntaxTree.skippedLeaves (t : SyntaxTree) : List Leaf :=
  t.cstPreorder.filterMap fun id => (t.cst? id).bind CstNode.skippedLeaf?

namespace Parse

variable {src : Source} {s s' t : State} {body : Step Bool}

/-- No hidden token stands at an index; none at all may stand there. -/
def Source.Significant (src : Source) (index : ℕ) : Prop :=
  ∀ tok, src.tokens[index]? = some tok → tok.hidden = false

/-- The tokens between two indices that are not hidden. -/
def Source.significantIn (src : Source) (i j : ℕ) : List Token :=
  ((src.tokens.toList.drop i).take (j - i)).filter (!·.hidden)

theorem mem_significantIn {i j : ℕ} {tok : Token} :
    tok ∈ src.significantIn i j ↔
      ∃ k, i ≤ k ∧ k < j ∧ src.tokens[k]? = some tok ∧ tok.hidden = false := by
  have hget : ∀ k, ((src.tokens.toList.drop i).take (j - i))[k]? =
      if k < j - i then src.tokens[i + k]? else none := by
    intro k
    rw [List.getElem?_take, List.getElem?_drop, Array.getElem?_toList]
  rw [Source.significantIn, List.mem_filter, List.mem_iff_getElem?]
  constructor
  · rintro ⟨⟨k, hk⟩, hhidden⟩
    rw [hget] at hk
    split at hk
    · exact ⟨i + k, by omega, by omega, hk, by simpa using hhidden⟩
    · cases hk
  · rintro ⟨k, hle, hlt, htok, hhidden⟩
    refine ⟨⟨k - i, ?_⟩, by simpa using hhidden⟩
    rw [hget, if_pos (by omega), Nat.add_sub_cancel' hle, htok]

/-! ## The furthest failure -/

/-- **What a step notes about failures**: nothing, or that something was
expected as far on or further, and not where a hidden token stands. -/
structure Aimed (src : Source) (s s' : State) : Prop where
  le : s.furthest.pos ≤ s'.furthest.pos
  noted : s'.furthest = s.furthest ∨
    s'.furthest.expected ≠ [] ∧ src.Significant s'.furthest.pos

/-- The place of what is expected next. -/
theorem significant_next (src : Source) (s : State) :
    src.Significant ((s.nextSignificant src).getD src.tokens.size) := by
  intro tok htok
  cases hnext : s.nextSignificant src with
  | none =>
    rw [hnext, Option.getD_none, Array.getElem?_eq_none (Nat.le_refl _)] at htok
    cases htok
  | some next =>
    obtain ⟨tok', htok', hhidden, -⟩ := nextSignificant_spec hnext
    rw [hnext, Option.getD_some, htok'] at htok
    exact Option.some.inj htok ▸ hhidden

namespace Aimed

variable {s₁ s₂ s₃ : State}

theorem of_same (h : s'.furthest = s.furthest) : Aimed src s s' :=
  ⟨by rw [h], .inl h⟩

theorem trans (h₁ : Aimed src s₁ s₂) (h₂ : Aimed src s₂ s₃) : Aimed src s₁ s₃ where
  le := Nat.le_trans h₁.le h₂.le
  noted := by
    rcases h₂.noted with hsame | hnoted
    · rw [hsame]
      exact h₁.noted
    · exact .inr hnoted

theorem expect (s : State) (label : String) : Aimed src s (s.expect src label) := by
  have hplace := significant_next src s
  rw [State.expect]
  split
  next hlt => exact ⟨Nat.le_of_lt hlt, .inr ⟨List.cons_ne_nil _ _, hplace⟩⟩
  next =>
    split
    next h => exact ⟨Nat.le_refl _, .inr ⟨by simp, h.1 ▸ hplace⟩⟩
    next => exact of_same rfl

end Aimed

theorem furthest_attachHidden (n : ℕ) (s : State) :
    (s.attachHidden src n).furthest = s.furthest := by
  induction n generalizing s with
  | zero => rfl
  | succ n ih =>
    rw [State.attachHidden]
    split
    · rfl
    · dsimp only
      rw [ih]
      split <;> rfl

/-- **Every step aims at what is expected**, if calls do. -/
theorem kept_aimed (src : Source) :
    Kept src (fun _ => True) (fun _ _ _ => True) (Aimed src) fun s _ s' => Aimed src s s' where
  refl := fun s => .of_same rfl
  trans := Aimed.trans
  later := Aimed.trans
  tick := by
    intro s s' u htick
    obtain ⟨steps, interrupt, rfl⟩ := tick_ok htick
    exact .of_same rfl
  expect := Aimed.expect
  consume := fun _ _ _ => .of_same (furthest_attachHidden _ _)
  scalar := by
    rintro s _ index tok id value - - - rfl
    exact .of_same (furthest_attachHidden _ _)
  reference := by
    rintro s _ index tok id target - - - rfl
    exact .of_same (furthest_attachHidden _ _)
  store := by
    rintro s s' node feature op value - - haimed
    refine haimed.trans (.of_same ?_)
    cases value <;> rfl
  produce := fun haimed => haimed.trans (.of_same rfl)
  restore := fun haimed => haimed.trans (.of_same rfl)

/-- **Calls aim at what is expected.** -/
theorem keptBy_aimed (src : Source) (depth : ℕ) :
    KeptBy (fun _ => True) (Aimed src) (fun s _ s' => Aimed src s s') (callRule src depth) := by
  induction depth using Nat.strong_induction_on with
  | _ depth ih =>
    intro id index s a s' _ hcall
    -- what is noted outlives the call, whether it is closed or undone
    suffices haimed : Aimed src s s' from ⟨haimed, fun _ _ => haimed⟩
    rcases callRule_ok hcall with ⟨-, rfl⟩ | ⟨below, rule, s₁, b, rfl, -, hrun, -, hcases⟩
    · exact .of_same rfl
    · have hopen : Aimed src s (openCall rule id s.mark s) := .of_same rfl
      have hbody := (kept_aimed src).element (ih below (Nat.lt_succ_self below)) rule.body
        (fun _ _ => trivial) (fun _ _ _ _ => trivial) _ _ _ hrun
      rcases hcases with ⟨node, -, -, -, rfl⟩ | ⟨-, rfl⟩
      · exact (hopen.trans hbody).trans (.of_same rfl)
      · exact (hopen.trans hbody).trans (.of_same rfl)

/-- Attempts at elements aim at what is expected. -/
theorem Aimed.attemptMatch {depth : ℕ} {e : Element} {b : Bool}
    (h : Parse.attemptMatch (element src (callRule src depth) e) s = .ok (b, s')) :
    Aimed src s s' :=
  (kept_aimed src).attemptMatch ((kept_aimed src).element (keptBy_aimed src depth) e
    (fun _ _ => trivial) fun _ _ _ _ => trivial) h

/-! ## What is skipped -/

/-- The leaves so far of what was skipped. -/
def State.skippedLeaves (s : State) : List Leaf := s.cst.toList.filterMap CstNode.skippedLeaf?

theorem ofLeaves_skippedLeaf? : OfLeaves CstNode.skippedLeaf? where
  mapChildren := by
    intro node f
    rw [CstNode.skippedLeaf?, ofLeaves_leaf?.mapChildren]
    rfl
  link := fun _ _ => rfl
  composite := by
    intro node h
    rw [CstNode.skippedLeaf?, h, ite_self]

theorem skippedLeaves_pushLeaf (s : State) (tok : Token) (source : Option ElementId) :
    (s.pushLeaf tok source).skippedLeaves =
      s.skippedLeaves ++ if source = none ∧ tok.hidden = false then [tok.leaf] else [] := by
  rw [State.pushLeaf, State.skippedLeaves, ofLeaves_skippedLeaf?.pushCst,
    CstNode.skippedLeaf?]
  congr 1
  split <;> rfl

/-- Hidden tokens are not skipped but attached. -/
theorem skippedLeaves_attachHidden (n : ℕ) (s : State) :
    (s.attachHidden src n).skippedLeaves = s.skippedLeaves := by
  induction n generalizing s with
  | zero => rfl
  | succ n ih =>
    rw [State.attachHidden]
    split
    · rfl
    · next tok _ =>
      dsimp only
      rw [ih]
      show (if tok.hidden = true then s.pushLeaf tok none else s).skippedLeaves = _
      split
      next hhidden =>
        rw [skippedLeaves_pushLeaf, if_neg (by simp [hhidden]), List.append_nil]
      next => rfl

/-- **What is skipped are the tokens passed** that are not hidden. -/
theorem skippedLeaves_skipTokens : ∀ (n : ℕ) (s : State),
    (skipTokens src n s).skippedLeaves =
      s.skippedLeaves ++ (src.significantIn s.pos (s.pos + n)).map Token.leaf
  | 0, s => by simp [skipTokens, Source.significantIn]
  | n + 1, s => by
    rw [skipTokens, Source.significantIn, Nat.add_sub_cancel_left]
    cases htok : src.tokens[s.pos]? with
    | none =>
      have hsize : src.tokens.toList.length ≤ s.pos := Array.getElem?_eq_none_iff.mp htok
      simp [List.drop_eq_nil_of_le hsize]
    | some tok =>
      obtain ⟨hlt, hget⟩ := Array.getElem?_eq_some_iff.mp htok
      have hdrop : src.tokens.toList.drop s.pos = tok :: src.tokens.toList.drop (s.pos + 1) := by
        rw [← hget]
        exact List.drop_eq_getElem_cons (by simpa using hlt)
      dsimp only
      rw [skippedLeaves_skipTokens n, hdrop, List.take_succ_cons]
      show (s.pushLeaf tok none).skippedLeaves ++ _ = _
      rw [skippedLeaves_pushLeaf, Source.significantIn, Nat.add_sub_cancel_left,
        List.append_assoc]
      cases hhidden : tok.hidden <;> simp [hhidden]

/-- A state in which nothing more has been skipped. -/
structure Unskipped (src : Source) (leaves : List Leaf) (s : State) : Prop where
  pos : s.pos ≤ src.tokens.size
  leaves : s.skippedLeaves = leaves

/-- **Matches skip nothing.** -/
theorem invariant_unskipped (src : Source) (leaves : List Leaf) :
    Invariant src (fun _ => True) (Unskipped src leaves) (fun _ _ => True) where
  noted := fun _ _ _ hs => ⟨hs.pos, hs.leaves⟩
  consume := by
    intro s index tok id _ _ htok hs
    refine ⟨(Array.getElem?_eq_some_iff.mp htok).1, ?_⟩
    show ((s.attachHidden src (index - s.pos)).pushLeaf tok (some id)).skippedLeaves = leaves
    rw [skippedLeaves_pushLeaf, if_neg (by simp), List.append_nil, skippedLeaves_attachHidden]
    exact hs.leaves
  scalar := fun _ => trivial
  reference := fun _ _ _ _ _ => trivial
  store := by
    rintro s s' n feature op value - - - hs' -
    refine ⟨?_, ?_⟩
    · rw [pos_store]
      exact hs'.pos
    · rw [State.skippedLeaves, cst_store]
      exact hs'.leaves
  produce := fun _ hs' _ => ⟨hs'.pos, hs'.leaves⟩
  openCall := fun _ hs => ⟨hs.pos, (ofLeaves_skippedLeaf?.openCall _ _ _).trans hs.leaves⟩
  leaveCall := fun _ _ hs' _ =>
    ⟨⟨hs'.pos, (ofLeaves_skippedLeaf?.linkCst _ _ _).trans hs'.leaves⟩, trivial⟩

/-- **What an attempt at the body of a rule does** to what errors depend on. -/
structure Attempted (src : Source) (s s' : State) : Prop where
  grown : Grown s s'
  aimed : Aimed src s s'
  unskipped : s.pos ≤ src.tokens.size → Unskipped src s.skippedLeaves s'

theorem Attempted.of_attemptMatch {depth : ℕ} {e : Element} {b : Bool}
    (h : attemptMatch (element src (callRule src depth) e) s = .ok (b, s')) :
    Attempted src s s' where
  grown := ((invariant_unskipped src []).attemptMatch (fun _ _ _ _ => trivial)
    (fun _ _ => trivial) h).1
  aimed := .attemptMatch h
  unskipped := fun hpos => ((invariant_unskipped src s.skippedLeaves).attemptMatch
    (fun _ _ _ _ => trivial) (fun _ _ => trivial) h).2 ⟨hpos, rfl⟩

/-! ## Turns -/

/-- **A turn of a parse** that is at a token: the state in which an error is
reported, and the one behind what is skipped. -/
structure Turn (src : Source) (start : ℕ) (turn : State × State) : Prop where
  start_le : start ≤ turn.1.pos
  pos_le : turn.1.pos ≤ turn.2.pos
  start_le_furthest : start ≤ turn.1.furthest.pos
  pos_le_size : turn.1.pos ≤ src.tokens.size
  /-- Where something was expected stands no hidden token. -/
  expected : turn.1.furthest.expected ≠ [] → src.Significant turn.1.furthest.pos
  /-- The furthest failure is skipped, unless a match has passed it. -/
  skips : turn.1.pos ≤ turn.1.furthest.pos → src.Significant turn.1.furthest.pos →
    turn.1.furthest.pos < turn.2.pos ∨ src.tokens.size ≤ turn.1.furthest.pos

/-- A turn comes before another: it reports and skips before it, but both may
report the end. -/
structure Turn.Before (src : Source) (turn turn' : State × State) : Prop where
  pos : turn.2.pos ≤ turn'.1.pos
  skipped : turn.2.pos ≤ turn'.1.furthest.pos
  furthest : turn.1.furthest.pos < turn'.1.furthest.pos ∨
    src.tokens.size ≤ turn.1.furthest.pos ∧ src.tokens.size ≤ turn'.1.furthest.pos

theorem Turn.mono {start start' : ℕ} {turn : State × State} (h : Turn src start turn)
    (hle : start' ≤ start) : Turn src start' turn :=
  { h with
    start_le := Nat.le_trans hle h.start_le
    start_le_furthest := Nat.le_trans hle h.start_le_furthest }

/-- Everything is skipped up to where the next round starts. -/
theorem skippedLeaves_skipped {next : ℕ} (hle : s.pos ≤ next) (hlt : next < src.tokens.size) :
    (skipped src next s).skippedLeaves = s.skippedLeaves ++
      (src.significantIn s.pos (skipped src next s).pos).map Token.leaf := by
  have hn : s.pos + (min (max s.furthest.pos next) (src.tokens.size - 1) + 1 - s.pos) =
      min (max s.furthest.pos next) (src.tokens.size - 1) + 1 := by omega
  rw [pos_skipped hle hlt, ← hn]
  exact skippedLeaves_skipTokens _ s

/-- What is reported after a check. -/
theorem reported_check (src : Source) {u : Unit} (h : check s = .ok (u, s')) :
    (reported src s').pos = s.pos ∧ (reported src s').furthest = s.furthest ∧
    (reported src s').skippedLeaves = s.skippedLeaves ∧
    (reported src s').errors = s.errors ++ [furthestError src (reported src s')] := by
  obtain ⟨interrupt, rfl⟩ := check_ok h
  exact ⟨rfl, rfl, rfl, rfl⟩

/-- An error is reported in a turn from where its round started. -/
theorem Attempted.turn {s₁ before after : State} (h : Attempted src s s₁)
    (hpos : s.pos ≤ src.tokens.size) (hfresh : s.furthest = ⟨s.pos, []⟩)
    (hplace : before.pos = s₁.pos) (hfurthest : before.furthest = s₁.furthest)
    (hle : before.pos ≤ after.pos)
    (hskips : before.pos ≤ before.furthest.pos → src.Significant before.furthest.pos →
      before.furthest.pos < after.pos ∨ src.tokens.size ≤ before.furthest.pos) :
    Turn src s.pos (before, after) where
  start_le := h.grown.pos.trans_eq hplace.symm
  pos_le := hle
  start_le_furthest := by
    have hfar := h.aimed.le
    rw [hfresh, ← hfurthest] at hfar
    exact hfar
  pos_le_size := hplace.trans_le (h.unskipped hpos).pos
  expected := by
    intro hexpected
    rcases h.aimed.noted with hsame | ⟨-, hsignificant⟩
    · -- nothing was noted, and a round starts with nothing expected
      rw [← hfurthest, hfresh] at hsame
      exact absurd (congrArg Furthest.expected hsame) hexpected
    · rw [← hfurthest] at hsignificant
      exact hsignificant
  skips := hskips

/-- Where all that is left is hidden, nothing significant is ahead. -/
theorem size_le_of_nextSignificant_eq_none {index : ℕ} (h : s.nextSignificant src = none)
    (hle : s.pos ≤ index) (hsignificant : src.Significant index) : src.tokens.size ≤ index := by
  refine Nat.le_of_not_lt fun hlt => ?_
  have htok := Array.getElem?_eq_getElem hlt
  have hhidden := (significantFrom_spec _ _ _).1 h _ _ hle (by omega) htok
  rw [hsignificant _ htok] at hhidden
  cases hhidden

/-- **The rounds of the entry rule are turns**: one for each of them that
skips tokens, and one that skips nothing if the last round fails. Their errors
are all that is reported, their tokens all that is skipped, and each comes
before the next. -/
theorem Recovery.turns {skips : List (State × State)}
    (hbody : ∀ s b s', attemptMatch body s = .ok (b, s') → Attempted src s s')
    (h : Recovery src body s skips t) (hpos : s.pos ≤ src.tokens.size)
    (hfresh : s.furthest = ⟨s.pos, []⟩) :
    ∃ turns, (turns = skips ∨ turns = skips ++ [(t, t)]) ∧
      t.errors = s.errors ++ turns.map (fun turn => furthestError src turn.1) ∧
      t.skippedLeaves = s.skippedLeaves ++ turns.flatMap (fun turn =>
        (src.significantIn turn.1.pos turn.2.pos).map Token.leaf) ∧
      (∀ turn ∈ turns, Turn src s.pos turn) ∧ turns.Pairwise (Turn.Before src) := by
  induction h with
  | @matched s t hmatch hnext =>
    have hattempt := hbody _ _ _ hmatch
    refine ⟨[], .inl rfl, ?_, ?_, nofun, .nil⟩
    · rw [hattempt.grown.errors, List.map_nil, List.append_nil]
    · rw [(hattempt.unskipped hpos).leaves, List.flatMap_nil, List.append_nil]
  | @failed s s₁ s₂ hmatch hnext hcheck =>
    have hattempt := hbody _ _ _ hmatch
    obtain ⟨hplace, hfurthest, hleaves, herrors⟩ := reported_check src hcheck
    generalize reported src s₂ = t at *
    -- the last round skips nothing, so its turn ends where it started
    have hturn : Turn src s.pos (t, t) :=
      hattempt.turn hpos hfresh hplace hfurthest (Nat.le_refl _) fun hle hsignificant =>
        .inr (size_le_of_nextSignificant_eq_none hnext (hplace ▸ hle) hsignificant)
    refine ⟨[(t, t)], .inr rfl, ?_, ?_, List.forall_mem_singleton.mpr hturn,
      List.pairwise_singleton _ _⟩
    · rw [herrors, hattempt.grown.errors]
      rfl
    · have hnone : src.significantIn t.pos t.pos = [] := by
        rw [Source.significantIn, Nat.sub_self, List.take_zero, List.filter_nil]
      rw [List.flatMap_singleton, hnone, List.map_nil, List.append_nil, hleaves,
        (hattempt.unskipped hpos).leaves]
  | @round s s₁ s₂ t b next skips hmatch hnext hcheck _ ih =>
    have hattempt := hbody _ _ _ hmatch
    obtain ⟨tok, htok, -, hge, -⟩ := nextSignificant_spec hnext
    have hlt := (Array.getElem?_eq_some_iff.mp htok).1
    obtain ⟨hplace, hfurthest, hleaves, herrors⟩ := reported_check src hcheck
    generalize reported src s₂ = before at *
    have hpos' := pos_skipped (s := before) (hplace ▸ hge) hlt
    have hleaves' := skippedLeaves_skipped (s := before) (hplace ▸ hge) hlt
    have herrors' : (skipped src next before).errors = before.errors := errors_skipTokens _ _
    have hfresh' : (skipped src next before).furthest = ⟨(skipped src next before).pos, []⟩ := rfl
    generalize skipped src next before = after at *
    have hturn : Turn src s.pos (before, after) :=
      hattempt.turn hpos hfresh hplace hfurthest (by omega) fun _ _ => by omega
    obtain ⟨turns, hturns, hreported, hskipped, hin, hbefore⟩ := ih (by omega) hfresh'
    refine ⟨(before, after) :: turns, hturns.imp (congrArg _) (congrArg _), ?_, ?_, ?_, ?_⟩
    · rw [hreported, herrors', herrors, hattempt.grown.errors, List.append_assoc]
      rfl
    · rw [hskipped, hleaves', hleaves, (hattempt.unskipped hpos).leaves, List.append_assoc]
      rfl
    · have hstart : s.pos ≤ after.pos := hturn.start_le.trans hturn.pos_le
      exact List.forall_mem_cons.mpr ⟨hturn, fun turn hmem => (hin turn hmem).mono hstart⟩
    · refine List.pairwise_cons.mpr ⟨fun turn hmem => ?_, hbefore⟩
      have hlater := hin turn hmem
      have hahead := hlater.start_le_furthest
      refine ⟨hlater.start_le, hahead, ?_⟩
      show before.furthest.pos < _ ∨ src.tokens.size ≤ before.furthest.pos ∧ _
      omega

/-- **What recovers has gone through rounds.** Each of them passes a token, so
they are not cut off by being counted. -/
theorem Recovery.of_recover (hbody : ∀ s b s', attemptMatch body s = .ok (b, s') →
    Attempted src s s') {u : Unit} :
    ∀ n s, recover src body n s = .ok (u, t) → s.pos ≤ src.tokens.size →
      src.tokens.size < s.pos + n → ∃ skips, Recovery src body s skips t := by
  intro n
  induction n with
  | zero =>
    intro s _ hpos hn
    omega
  | succ n ih =>
    intro s h hpos hn
    obtain ⟨matched, s₁, hmatch, hcases⟩ := recover_ok h
    have hattempt := hbody _ _ _ hmatch
    have hgrown := hattempt.grown.pos
    rcases hcases with ⟨rfl, hnext, rfl⟩ | ⟨s₂, hcheck, ⟨hnext, rfl⟩ | ⟨next, hnext, hrest⟩⟩
    · exact ⟨[], .matched hmatch hnext⟩
    · cases matched with
      | false => exact ⟨[], .failed hmatch hnext hcheck⟩
      | true =>
        -- the rounds end before anything is reported
        rw [recover_last hmatch hnext] at h
        cases h
        exact ⟨[], .matched hmatch hnext⟩
    · obtain ⟨tok, htok, -, hge, -⟩ := nextSignificant_spec hnext
      have hlt := (Array.getElem?_eq_some_iff.mp htok).1
      have hreported : (reported src s₂).pos = s₁.pos := reported_pos hcheck
      have hskipped := pos_skipped (s := reported src s₂) (hreported ▸ hge) hlt
      obtain ⟨skips, hskips⟩ := ih _ hrest (by omega) (by omega)
      exact ⟨_, .round hmatch hnext hcheck hskips⟩

/-- **A whole parse is taken in turns.** -/
theorem entry_turns {rule : Rule} {start : Interrupt} {u : Unit}
    (h : entry src rule (State.start src rule start) = .ok (u, s)) :
    ∃ skips t turns,
      Recovery src (element src (callRule src (callDepth src)) rule.body)
        (State.start src rule start) skips t ∧
      (turns = skips ∨ turns = skips ++ [(t, t)]) ∧
      s.errors = turns.map (fun turn => furthestError src turn.1) ∧
      s.skippedLeaves = turns.flatMap (fun turn =>
        (src.significantIn turn.1.pos turn.2.pos).map Token.leaf) ∧
      (∀ turn ∈ turns, Turn src 0 turn) ∧ turns.Pairwise (Turn.Before src) := by
  rw [entry] at h
  obtain ⟨_, t, hrecover, h⟩ := bind_ok h
  obtain rfl := modify_ok h
  have hbody : ∀ s b s', attemptMatch (element src (callRule src (callDepth src)) rule.body) s =
      .ok (b, s') → Attempted src s s' := fun _ _ _ => .of_attemptMatch
  obtain ⟨skips, hrecovery⟩ := Recovery.of_recover hbody _ _ hrecover (Nat.zero_le _)
    (by show src.tokens.size < 0 + (src.tokens.size + 1); omega)
  obtain ⟨turns, hturns, herrors, hskipped, hin, hbefore⟩ :=
    hrecovery.turns hbody (Nat.zero_le _) rfl
  refine ⟨skips, t, turns, hrecovery, hturns, ?_, ?_, hin, hbefore⟩
  · rw [(Grown.attachHidden _ t).errors]
    exact herrors
  · rw [skippedLeaves_attachHidden]
    exact hskipped

/-! ## Tokens in order -/

/-- **Tokens in the order of a text**, none of them empty. -/
structure Spread (src : Source) : Prop where
  ordered : src.tokens.toList.Pairwise fun tok tok' => tok.offset + tok.length ≤ tok'.offset
  nonempty : ∀ tok ∈ src.tokens, 0 < tok.length
  inside : ∀ tok ∈ src.tokens, tok.offset + tok.length ≤ src.text.utf8ByteSize

theorem ofLexeme?_place {g : Grammar} {l : Lexeme} {range : Range} {tok : Token}
    (h : Token.ofLexeme? g l range = some tok) : tok.offset = l.offset ∧ tok.length = l.length := by
  rw [Token.ofLexeme?] at h
  split at h
  · cases h
  · cases h
    exact ⟨rfl, rfl⟩
  · split at h
    · cases h
    · split at h <;> cases h <;> exact ⟨rfl, rfl⟩

/-- **The tokens of a text are in order.** -/
theorem spread_sourceOf {g : Grammar} {text : String} {lexemes : List Lexeme}
    (h : Lexeme.ofText? g text.toList = some lexemes) : Spread (sourceOf g text lexemes) := by
  have hmunched := Lexeme.Munched.of_ofText? h
  -- a token has the place of its lexeme
  have hmem : ∀ tok ∈ (sourceOf g text lexemes).tokens, ∃ l ∈ lexemes,
      tok.offset = l.offset ∧ tok.length = l.length := by
    intro tok htok
    rw [sourceOf, List.mem_toArray, List.mem_filterMap] at htok
    obtain ⟨⟨l, range⟩, hl, htok⟩ := htok
    have hlexeme : l ∈ (Lexeme.withRanges text.toList lexemes).map Prod.fst := List.mem_map_of_mem hl
    rw [Lexeme.map_fst_withRanges] at hlexeme
    exact ⟨l, hlexeme, ofLexeme?_place htok⟩
  refine ⟨?_, ?_, ?_⟩
  · have hordered := hmunched.tiles.ordered
    rw [← Lexeme.map_fst_withRanges text.toList lexemes, List.pairwise_map] at hordered
    refine List.Pairwise.filterMap _ ?_ hordered
    rintro ⟨l, range⟩ ⟨l', range'⟩ hle tok htok tok' htok'
    obtain ⟨hoffset, hlength⟩ := ofLexeme?_place htok
    rw [(ofLexeme?_place htok').1, hoffset, hlength]
    exact hle
  · intro tok htok
    obtain ⟨l, hl, -, hlength⟩ := hmem tok htok
    obtain ⟨before, after, heq⟩ := List.append_of_mem hl
    have hne := (hmunched.inPlace before l after heq).nonempty
    rw [hlength, Lexeme.length]
    cases htext : l.text with
    | nil => exact absurd htext hne
    | cons c cs =>
      obtain ⟨n, hn, -⟩ := Text.exists_byteLength_cons c cs
      rw [hn]
      exact Nat.succ_pos n
  · intro tok htok
    obtain ⟨l, hl, hoffset, hlength⟩ := hmem tok htok
    rw [hoffset, hlength, ← Text.byteLength_toList]
    exact hmunched.tiles.inside l hl

theorem Spread.offset_lt (h : Spread src) {i j : ℕ} {tok tok' : Token} (hij : i < j)
    (htok : src.tokens[i]? = some tok) (htok' : src.tokens[j]? = some tok') :
    tok.offset < tok'.offset := by
  have hlength := h.nonempty tok (Array.mem_of_getElem? htok)
  obtain ⟨hi, rfl⟩ := Array.getElem?_eq_some_iff.mp htok
  obtain ⟨hj, rfl⟩ := Array.getElem?_eq_some_iff.mp htok'
  have hle := List.pairwise_iff_getElem.mp h.ordered i j hi hj hij
  simp only [Array.getElem_toList] at hle
  omega

/-- Tokens at one offset are one. -/
theorem Spread.index_eq (h : Spread src) {i j : ℕ} {tok tok' : Token}
    (htok : src.tokens[i]? = some tok) (htok' : src.tokens[j]? = some tok')
    (hoffset : tok.offset = tok'.offset) : i = j := by
  rcases Nat.lt_trichotomy i j with hlt | heq | hlt
  · have := h.offset_lt hlt htok htok'
    omega
  · exact heq
  · have := h.offset_lt hlt htok' htok
    omega

/-! ## Errors -/

/-- An error where no token stands is at the end. -/
theorem furthestError_atEnd (h : src.tokens.size ≤ s.furthest.pos) :
    (furthestError src s).AtEnd src.text := by
  rw [furthestError, Array.getElem?_eq_none h]
  exact ⟨rfl, rfl⟩

/-- An error is where its token is. -/
theorem furthestError_token {tok : Token} (h : src.tokens[s.furthest.pos]? = some tok) :
    (furthestError src s).offset = tok.offset ∧ (furthestError src s).length = tok.length := by
  rw [furthestError, h]
  exact ⟨rfl, rfl⟩

/-- **Errors are in order** if their failures are. -/
theorem Spread.furthestError_lt (h : Spread src)
    (hlt : s.furthest.pos < s'.furthest.pos) :
    (furthestError src s).offset < (furthestError src s').offset ∨
      (furthestError src s).AtEnd src.text ∧ (furthestError src s').AtEnd src.text := by
  cases htok : src.tokens[s.furthest.pos]? with
  | none =>
    have hsize := Array.getElem?_eq_none_iff.mp htok
    exact .inr ⟨furthestError_atEnd hsize, furthestError_atEnd (by omega)⟩
  | some tok =>
    refine .inl ?_
    rw [(furthestError_token htok).1]
    cases htok' : src.tokens[s'.furthest.pos]? with
    | some tok' =>
      rw [(furthestError_token htok').1]
      exact h.offset_lt hlt htok htok'
    | none =>
      have hmem := Array.mem_of_getElem? htok
      have hnonempty := h.nonempty tok hmem
      have hinside := h.inside tok hmem
      rw [(furthestError_atEnd (Array.getElem?_eq_none_iff.mp htok')).1]
      omega

/-- The error at a token is not at the end. -/
theorem Spread.not_atEnd (h : Spread src) {tok : Token}
    (htok : src.tokens[s.furthest.pos]? = some tok) :
    ¬ (furthestError src s).AtEnd src.text := by
  rintro ⟨-, hlength⟩
  rw [(furthestError_token htok).2] at hlength
  exact absurd hlength (h.nonempty tok (Array.mem_of_getElem? htok)).ne'

/-- The error at a token is at the leaves of those tokens that it is one of. -/
theorem Spread.at_iff (h : Spread src) {tok : Token} {tokens : List Token}
    (htok : src.tokens[s.furthest.pos]? = some tok) (htokens : ∀ tok' ∈ tokens, tok' ∈ src.tokens) :
    (furthestError src s).At (tokens.map Token.leaf) ↔ tok ∈ tokens := by
  obtain ⟨hoffset, hlength⟩ := furthestError_token htok
  constructor
  · rintro ⟨leaf, hleaf, hoffset', -⟩
    obtain ⟨tok', htok', rfl⟩ := List.mem_map.mp hleaf
    obtain ⟨j, hj⟩ := Array.getElem?_of_mem (htokens tok' htok')
    have heq := h.index_eq hj htok (hoffset'.trans hoffset)
    rw [heq, htok] at hj
    exact Option.some.inj hj ▸ htok'
  · intro hmem
    exact ⟨tok.leaf, List.mem_map_of_mem hmem, hoffset.symm, hlength.symm⟩

/-- **What the errors of a parse tell**, if they are reported in turns. -/
structure Reports (src : Source) (tree : SyntaxTree) (reports : List SyntaxError)
    (turns : List (State × State)) : Prop where
  /-- The error of a turn is that of its furthest failure. -/
  errors : reports = turns.map fun turn => furthestError src turn.1
  /-- What is skipped in a turn are the tokens that it passes. -/
  skipped : tree.skippedLeaves = turns.flatMap fun turn =>
    (src.significantIn turn.1.pos turn.2.pos).map Token.leaf
  /-- Errors are in the order of the text, one at each place but the end. -/
  ordered : reports.Pairwise fun e e' =>
    e.offset < e'.offset ∨ e.AtEnd src.text ∧ e'.AtEnd src.text
  /-- An error is at the end or at a token. -/
  placed : ∀ turn ∈ turns, (furthestError src turn.1).AtEnd src.text ∨
    (furthestError src turn.1).At tree.leaves
  /-- **An error is at the end or at a token that was skipped** exactly if its
  turn had not come past the furthest failure, and no hidden token stands
  there. -/
  unread : ∀ turn ∈ turns, ((furthestError src turn.1).AtEnd src.text ∨
      (furthestError src turn.1).At tree.skippedLeaves) ↔
    turn.1.pos ≤ turn.1.furthest.pos ∧ src.Significant turn.1.furthest.pos
  /-- A hidden token stands there only if nothing was expected. -/
  expected : ∀ turn ∈ turns, turn.1.furthest.expected ≠ [] →
    src.Significant turn.1.furthest.pos

/-- What another turn skips at the furthest failure of a turn lies ahead of it:
an earlier one skips less, and a later one comes from further on. -/
theorem Turn.pos_le_furthest {turns : List (State × State)}
    (hturns : ∀ turn ∈ turns, Turn src 0 turn) (hbefore : turns.Pairwise (Turn.Before src))
    {turn turn' : State × State} (hmem : turn ∈ turns) (hmem' : turn' ∈ turns)
    (hle : turn'.1.pos ≤ turn.1.furthest.pos) (hlt : turn.1.furthest.pos < turn'.2.pos) :
    turn.1.pos ≤ turn.1.furthest.pos := by
  refine List.Pairwise.forall_of_forall_of_flip
    (R := fun turn' turn => turn'.1.pos ≤ turn.1.furthest.pos →
      turn.1.furthest.pos < turn'.2.pos → turn.1.pos ≤ turn.1.furthest.pos)
    (fun _ _ hle _ => hle) (hbefore.imp fun {turn' turn} h _ hlt => ?_)
    (hbefore.imp_of_mem fun {turn turn'} hmem _ h hle _ => ?_) hmem' hmem hle hlt
  · exact absurd h.skipped (Nat.not_le.mpr hlt)
  · exact ((hturns turn hmem).pos_le.trans h.pos).trans hle

/-- **Turns tell where errors are**, over the tokens of a text. -/
theorem Turn.reports {tree : SyntaxTree} {reports : List SyntaxError}
    {turns : List (State × State)} (hspread : Spread src)
    (hleaves : tree.leaves = src.tokens.toList.map Token.leaf)
    (herrors : reports = turns.map fun turn => furthestError src turn.1)
    (hskipped : tree.skippedLeaves = turns.flatMap fun turn =>
      (src.significantIn turn.1.pos turn.2.pos).map Token.leaf)
    (hturns : ∀ turn ∈ turns, Turn src 0 turn) (hbefore : turns.Pairwise (Turn.Before src)) :
    Reports src tree reports turns where
  errors := herrors
  skipped := hskipped
  ordered := by
    rw [herrors, List.pairwise_map]
    refine hbefore.imp fun {turn turn'} h => ?_
    rcases h.furthest with hlt | ⟨hend, hend'⟩
    · exact hspread.furthestError_lt hlt
    · exact .inr ⟨furthestError_atEnd hend, furthestError_atEnd hend'⟩
  placed := by
    intro turn _
    cases htok : src.tokens[turn.1.furthest.pos]? with
    | none => exact .inl (furthestError_atEnd (Array.getElem?_eq_none_iff.mp htok))
    | some tok =>
      refine .inr ?_
      rw [hleaves, hspread.at_iff htok fun _ h => Array.mem_toList_iff.mp h]
      exact Array.mem_toList_iff.mpr (Array.mem_of_getElem? htok)
  unread := by
    intro turn hmem
    have hturn := hturns turn hmem
    rw [hskipped, ← List.map_flatMap]
    cases htok : src.tokens[turn.1.furthest.pos]? with
    | none =>
      have hsize := Array.getElem?_eq_none_iff.mp htok
      refine iff_of_true (.inl (furthestError_atEnd hsize)) ⟨hturn.pos_le_size.trans hsize, ?_⟩
      intro tok htok'
      rw [htok] at htok'
      cases htok'
    | some tok =>
      have hin : ∀ tok' ∈ turns.flatMap (fun turn => src.significantIn turn.1.pos turn.2.pos),
          tok' ∈ src.tokens := by
        intro tok' htok'
        obtain ⟨_, -, htok'⟩ := List.mem_flatMap.mp htok'
        obtain ⟨k, -, -, hk, -⟩ := mem_significantIn.mp htok'
        exact Array.mem_of_getElem? hk
      rw [or_iff_right (hspread.not_atEnd htok), hspread.at_iff htok hin, List.mem_flatMap]
      -- the token may be skipped in another turn than the one that reports it
      constructor
      · rintro ⟨turn', hmem', htok'⟩
        obtain ⟨k, hle, hlt, hk, hhidden⟩ := mem_significantIn.mp htok'
        obtain rfl := hspread.index_eq hk htok rfl
        refine ⟨Turn.pos_le_furthest hturns hbefore hmem hmem' hle hlt, fun tok' htok' => ?_⟩
        rw [htok, Option.some.injEq] at htok'
        exact htok' ▸ hhidden
      · rintro ⟨hle, hsignificant⟩
        have hlt := (Array.getElem?_eq_some_iff.mp htok).1
        rcases hturn.skips hle hsignificant with hskips | hsize
        · exact ⟨turn, hmem, mem_significantIn.mpr
            ⟨_, hle, hskips, htok, hsignificant tok htok⟩⟩
        · exact absurd hsize (Nat.not_le.mpr hlt)
  expected := fun turn hmem => (hturns turn hmem).expected

end Parse

/-- **Where the errors of a parse are.** It goes through rounds, and each of
them in which the body does not match all that is left takes a turn: it reports
one error at its furthest failure and skips the tokens up to it, at least one.
The errors are in order, and each is at the end of the text or at a token. It
is at a token that was skipped, or at the end, exactly if the match of its
round had not come past the furthest failure, and no hidden token stands there;
otherwise it is at a token that was read, or at the hidden one. -/
theorem Grammar.parse_reports {g : Grammar} {text : String} {name : Option String}
    {interrupt left : Interrupt} {r : ParseResult}
    (hparse : g.parse text name interrupt = .ok (r, left)) :
    ∃ rule lexemes start skips t turns, g.entryRule name = .ok rule ∧
      Lexeme.ofText? g text.toList = some lexemes ∧ interrupt.check = some start ∧
      let src := Parse.sourceOf g text lexemes
      Parse.Recovery src (Parse.element src (Parse.callRule src (Parse.callDepth src)) rule.body)
        (Parse.State.start src rule start) skips t ∧
      (turns = skips ∨ turns = skips ++ [(t, t)]) ∧
      Parse.Reports src r.tree r.parserErrors turns := by
  obtain ⟨rule, -, lexemes, start, s, -, hrule, hstart, hlexemes, hentry, -, htree, -, herrors⟩ :=
    Parse.parse_ok hparse
  have hleaves := Parse.Covered.entry hentry
  have hpreorder := Parse.cstPreorder_of_entry hentry htree
  have hfound : ∀ {β : Type} (found : CstNode → Option β),
      (r.tree.cstPreorder.filterMap fun id => (r.tree.cst? id).bind found) =
        s.cst.toList.filterMap found := by
    intro β found
    rw [hpreorder, SyntaxTree.filterMap_handles, htree]
  obtain ⟨skips, t, turns, hrecovery, hturns, herrors', hskipped, hin, hbefore⟩ :=
    Parse.entry_turns hentry
  exact ⟨rule, lexemes, start, skips, t, turns, hrule, hlexemes, hstart, hrecovery, hturns,
    Parse.Turn.reports (Parse.spread_sourceOf hlexemes) ((hfound _).trans hleaves)
      (herrors.trans herrors') ((hfound _).trans hskipped) hin hbefore⟩

/-! ## A token too many -/

namespace Excess

/-- A model of one mark. -/
def definition : Definition :=
  { name := "Mark"
    terminals := []
    rules := [⟨"Model", some "Model", .keyword "x"⟩]
    entry := none }

/-- The compiled definition. -/
def grammar : Grammar :=
  { name := "Mark"
    terminals := #[]
    rules := #[⟨⟨0⟩, "Model", .node "Model", .keyword ⟨1⟩ "x"⟩]
    entry := 0
    keywords := ["x"] }

/-- The parse of two marks. -/
def result : ParseResult :=
  { tree :=
      { ast := #[⟨"Model", none, none, none, some ⟨0⟩, ⟨[]⟩⟩]
        cst := #[
          ⟨.root "xx" #[⟨1⟩, ⟨2⟩], none, ⟨0⟩, some ⟨0⟩, some ⟨0⟩, false⟩,
          ⟨.leaf "x" 0 1 ⟨⟨0, 0⟩, ⟨0, 1⟩⟩, some ⟨0⟩, ⟨0⟩, some ⟨0⟩, some ⟨1⟩, false⟩,
          ⟨.leaf "x" 1 1 ⟨⟨0, 1⟩, ⟨0, 2⟩⟩, some ⟨0⟩, ⟨0⟩, some ⟨0⟩, none, false⟩]
        references := #[]
        root := ⟨0⟩
        cstRoot := ⟨0⟩ }
    lexerErrors := []
    parserErrors := [
      ⟨"Unexpected token `x`.", 0, 1, ⟨⟨0, 0⟩, ⟨0, 1⟩⟩⟩,
      ⟨"Expecting 'x' but found end of input.", 2, 0, ⟨⟨0, 2⟩, ⟨0, 2⟩⟩⟩] }

theorem build_definition : definition.build = .ok grammar :=
  Definition.build_of_ordered (by decide) rfl rfl

theorem parse_text : grammar.parse "xx" none .never = .ok (result, .never) := by
  decide +kernel

end Excess

/-- The second mark is skipped, but the error is reported at the first, which
was read: nothing was expected behind it. -/
theorem Grammar.parse_reports_excess :
    Excess.definition.build = .ok Excess.grammar ∧
    Excess.grammar.parse "xx" none .never = .ok (Excess.result, .never) ∧
    Excess.result.parserErrors.map (fun e => (e.offset, e.length)) = [(0, 1), (2, 0)] ∧
    Excess.result.tree.skippedLeaves.map (fun leaf => (leaf.offset, leaf.length)) = [(1, 1)] ∧
    ∃ lexemes turns, Lexeme.ofText? Excess.grammar "xx".toList = some lexemes ∧
      turns.length = 2 ∧
      Parse.Reports (Parse.sourceOf Excess.grammar "xx" lexemes) Excess.result.tree
        Excess.result.parserErrors turns := by
  refine ⟨Excess.build_definition, Excess.parse_text, rfl, by decide, ?_⟩
  obtain ⟨_, lexemes, _, _, _, turns, -, hlexemes, -, -, -, hreports⟩ :=
    Grammar.parse_reports Excess.parse_text
  have hlength := congrArg List.length hreports.errors
  rw [List.length_map] at hlength
  exact ⟨lexemes, turns, hlexemes, hlength.symm, hreports⟩

end Workbench
