import Workbench.Proofs.Parse.Ahead
import Workbench.Proofs.Transfer.Parsed
/-!
# Ordered choice

The interpreter reads bodies as parsing expressions: an element matches
exactly if its reading of the tokens ahead does, and the tokens that the
reading leaves are those ahead afterwards. This is an induction over the
element within one over the depth of calls (`callRule_finds`). A parse has
no errors exactly if the body of its entry rule reads all tokens.
-/

namespace Workbench

namespace Parse

variable {src : Source} {s s' s₁ s₂ : State} {call : Call} {b : Bool}

/-- Calls agree with the readings of calls. -/
def CallFinds (src : Source) (call : Call) : Prop :=
  ∀ id index s a s', index < src.grammar.rules.size → call id index s = .ok (a, s') →
    Finds src (.call id index) s a s'

/-! ## One thing after the other -/

/-- What is passed in two steps. -/
theorem Passed.trans (h : Passed src s s₁) (h' : Passed src s₁ s₂) : Passed src s s₂ := by
  rcases h with h | h
  · rw [Passed, ← h, ← ahead_congr src h]
    exact h'
  · rcases h' with h' | h'
    · rw [Passed, ahead_congr src h']
      exact .inr h
    · exact .inr (Nat.lt_trans h' h)

theorem Agrees.nil (id : ElementId) (s : State) : Agrees src (.seq id []) s true s where
  matched _ := ⟨false, .seqNil, by rw [Bool.or_false]⟩
  failed := nofun
  passed _ := .inl rfl

/-- An item and then the others. -/
theorem Agrees.cons {id : ElementId} {item : Element} {items : List Element}
    (h : Agrees src item s true s₁) (h' : Agrees src (.seq id items) s₁ b s₂) :
    Agrees src (.seq id (item :: items)) s b s₂ := by
  obtain ⟨used, hitem, hproduced⟩ := h.matched rfl
  refine ⟨fun hb => ?_, fun hb => .seqBreaks hitem (h'.failed hb),
    fun hb => (h.passed rfl).trans (h'.passed hb)⟩
  obtain ⟨used', hitems, hproduced'⟩ := h'.matched hb
  exact ⟨used || used', .seqCons hitem hitems, by rw [hproduced', hproduced, Bool.or_assoc]⟩

/-- An alternative that failed, and then the others. -/
theorem Agrees.next {id : ElementId} {item : Element} {items : List Element}
    (h : Reads src.grammar item (ahead src s) none) (h' : Agrees src (.alt id items) s b s') :
    Agrees src (.alt id (item :: items)) s b s' where
  matched hb := by
    obtain ⟨used, hitems, hproduced⟩ := h'.matched hb
    exact ⟨used, .altNext h hitems, hproduced⟩
  failed hb := .altNext h (h'.failed hb)
  passed := h'.passed

theorem Agrees.here {id : ElementId} {item : Element} {items : List Element}
    (h : Agrees src item s true s') : Agrees src (.alt id (item :: items)) s true s' where
  matched hb := by
    obtain ⟨used, hitem, hproduced⟩ := h.matched hb
    exact ⟨used, .altHere hitem, hproduced⟩
  failed := nofun
  passed := h.passed

/-! ## Repetitions -/

/-- How often a body was matched agrees with the reading of a repetition. -/
structure Repeats (src : Source) (id : ElementId) (cardinality : Cardinality) (body : Element)
    (s : State) (count : Nat) (s' : State) : Prop where
  none : count = 0 → Reads src.grammar body (ahead src s) none ∧ s'.pos = s.pos ∧
    s'.produced = s.produced
  some : 0 < count → ∃ used,
    Reads src.grammar (.repeated id cardinality body) (ahead src s)
      (some (ahead src s', used)) ∧ s'.produced.isSome = (s.produced.isSome || used) ∧
    Passed src s s'

/-- **Rounds agree with a repetition**, if there may be more of them than
there are tokens ahead. A round that passes none is the last, so each but the
last leaves fewer. -/
theorem rounds_repeats {body : Element} {step : Step Bool} {P : State → Prop}
    (hgrown : ∀ s b s', step s = .ok (b, s') → Grown s s')
    (hkeeps : ∀ s s', Grown s s' → P s → P s')
    (hbody : ∀ s b s', P s → step s = .ok (b, s') → Agrees src body s b s') (id : ElementId) :
    ∀ n cardinality s k s', (ahead src s).length < n → P s →
      rounds (decide (cardinality = Cardinality.optional)) step n s = .ok (k, s') →
      Repeats src id cardinality body s k s' := by
  intro n
  induction n with
  | zero =>
    intro cardinality s k s' hlt
    exact absurd hlt (Nat.not_lt_zero _)
  | succ n ih =>
    intro cardinality s k s' hlt hP h
    rcases rounds_ok h with ⟨hmatch, rfl⟩ | ⟨s₁, hmatch, hcases⟩
    · obtain ⟨s₂, hfailed, -⟩ := attemptMatch_isFalse hmatch
      obtain ⟨furthest, steps, interrupt, rfl⟩ := attemptMatch_false hgrown hmatch
      exact ⟨fun _ => ⟨(hbody _ _ _ hP hfailed).failed rfl, rfl, rfl⟩, by simp⟩
    have hmatched := attemptMatch_ok hmatch
    have hagrees := hbody _ _ _ hP hmatched
    obtain ⟨used, hreads, hproduced⟩ := hagrees.matched rfl
    rcases hcases with ⟨hlast, rfl, rfl⟩ | ⟨honce, hmoved, k', hrest, rfl⟩
    · refine ⟨by simp, fun _ => ⟨used, .repeatedLast hreads ?_, hproduced, hagrees.passed rfl⟩⟩
      rw [decide_eq_true_eq] at hlast
      exact hlast.imp_right (ahead_congr src)
    · have hcard : cardinality ≠ .optional := of_decide_eq_false honce
      have hfewer : (ahead src s₁).length < (ahead src s).length :=
        (hagrees.passed rfl).resolve_left hmoved
      have hne : ahead src s₁ ≠ ahead src s := fun hsame => by rw [hsame] at hfewer; omega
      -- only a repetition of many goes on, and it goes on as one
      have honce : decide (cardinality = Cardinality.optional) =
          decide (Cardinality.many = Cardinality.optional) := by simp [hcard]
      rw [honce] at hrest
      have hrepeats := ih .many s₁ k' s' (by omega) (hkeeps _ _ (hgrown _ _ _ hmatched) hP) hrest
      refine ⟨by simp, fun _ => ?_⟩
      -- this round was the last if the one after it failed
      cases k' with
      | zero =>
        obtain ⟨hnone, hpos, hsame⟩ := hrepeats.none rfl
        refine ⟨used || false, .repeatedMore hreads hcard hne ?_, ?_, ?_⟩
        · rw [ahead_congr src hpos]
          exact .repeatedNone hnone (by simp)
        · rw [hsame, hproduced, Bool.or_false]
        · rw [Passed, ahead_congr src hpos]
          exact .inr hfewer
      | succ k' =>
        obtain ⟨used', hmany, hproduced', hpassed⟩ := hrepeats.some (Nat.succ_pos k')
        exact ⟨used || used', .repeatedMore hreads hcard hne hmany,
          by rw [hproduced', hproduced, Bool.or_assoc], (hagrees.passed rfl).trans hpassed⟩

/-! ## Values -/

theorem Grown.assigned {value : Element} {a : Option Assigned}
    (hcall : KeptBy (fun _ => True) Grown Found call)
    (h : Parse.assigned src call value s = .ok (a, s')) : Grown s s' :=
  ((kept_grown src).assigned hcall value (fun _ _ => trivial) s a s' h).1

mutual

/-- **A value is found exactly if its element reads the tokens ahead.** -/
theorem assigned_finds (hgrown : KeptBy (fun _ => True) Grown Found call)
    (hcall : CallFinds src call) : ∀ (e : Element), e.isValue src.grammar.rules.size = true →
    ∀ s a s', assigned src call e s = .ok (a, s') → Finds src e s a s'
  | .keyword id text, _, s, a, s', h => by
    obtain ⟨_, s₁, _, found, htick, htoken, rfl⟩ := assigned_single_ok rfl h
    obtain ⟨steps, interrupt, rfl⟩ := tick_ok htick
    exact ((token_finds rfl htoken).map _).of_start rfl rfl
  | .terminal id index, _, s, a, s', h => by
    obtain ⟨_, s₁, _, found, htick, htoken, rfl⟩ := assigned_single_ok rfl h
    obtain ⟨steps, interrupt, rfl⟩ := tick_ok htick
    exact ((token_finds rfl htoken).map _).of_start rfl rfl
  | .crossRef id target index, _, s, a, s', h => by
    obtain ⟨_, s₁, _, found, htick, htoken, rfl⟩ := assigned_single_ok rfl h
    obtain ⟨steps, interrupt, rfl⟩ := tick_ok htick
    exact ((token_finds rfl htoken).map _).of_start rfl rfl
  | .call id index, hvalue, s, a, s', h => by
    obtain ⟨_, s₁, found, htick, hc, rfl⟩ := assigned_call_ok h
    obtain ⟨steps, interrupt, rfl⟩ := tick_ok htick
    exact ((hcall id index _ _ _ (of_decide_eq_true hvalue) hc).map _).of_start rfl rfl
  | .alt id items, hvalue, s, a, s', h => by
    obtain ⟨_, s₁, htick, h⟩ := assigned_alt_ok h
    obtain ⟨steps, interrupt, rfl⟩ := tick_ok htick
    exact (firstAssigned_finds hgrown hcall id items hvalue _ a s' h).of_start rfl rfl
  | .assign _ _ _ _, hvalue, _, _, _, _ => by cases hvalue
  | .seq _ _, hvalue, _, _, _, _ => by cases hvalue
  | .repeated _ _ _, hvalue, _, _, _, _ => by cases hvalue

theorem firstAssigned_finds (hgrown : KeptBy (fun _ => True) Grown Found call)
    (hcall : CallFinds src call) (id : ElementId) : ∀ (items : List Element),
    Element.areValues src.grammar.rules.size items = true →
    ∀ s a s', firstAssigned src call items s = .ok (a, s') → Finds src (.alt id items) s a s'
  | [], _, s, a, s', h => by
    rw [firstAssigned] at h
    obtain ⟨rfl, rfl⟩ := pure_ok h
    exact ⟨nofun, fun _ => .altNil, nofun, nofun⟩
  | item :: items, hvalues, s, a, s', h => by
    rw [Element.areValues, Bool.and_eq_true] at hvalues
    have hitem := assigned_finds hgrown hcall item hvalues.1
    rcases firstAssigned_cons_ok h with ⟨value, hfound, rfl⟩ | ⟨s₁, hattempt, hrest⟩
    · have hfinds := hitem _ _ _ hfound
      refine ⟨fun ha => ?_, nofun, hfinds.passed, hfinds.produced⟩
      obtain ⟨used, hreads⟩ := hfinds.matched ha
      exact ⟨used, .altHere hreads⟩
    · obtain ⟨s₂, hfailed, -⟩ := attempt_isNone hattempt
      have hnone := (hitem _ _ _ hfailed).failed rfl
      obtain ⟨furthest, steps, interrupt, rfl⟩ :=
        attempt_none (fun _ _ _ => Grown.assigned hgrown) hattempt
      have hrest := (firstAssigned_finds hgrown hcall id items hvalues.2 _ a s' hrest).of_start
        (s := s) rfl rfl
      refine ⟨fun ha => ?_, fun ha => .altNext hnone (hrest.failed ha), hrest.passed,
        hrest.produced⟩
      obtain ⟨used, hreads⟩ := hrest.matched ha
      exact ⟨used, .altNext hnone hreads⟩

end

/-! ## Elements -/

theorem length_ahead_le (src : Source) (s : State) :
    (ahead src s).length ≤ src.tokens.size - s.pos := by
  refine Nat.le_trans (List.length_filter_le _ _) ?_
  rw [List.length_drop, Array.length_toList]

/-- What the count of rounds says about a repetition. -/
theorem Repeats.agrees {id : ElementId} {cardinality : Cardinality} {body : Element} {count : Nat}
    (h : Repeats src id cardinality body s count s') :
    Agrees src (.repeated id cardinality body) s
      (decide (count > 0) || cardinality != .atLeastOne) s' := by
  cases count with
  | zero =>
    obtain ⟨hnone, hpos, hproduced⟩ := h.none rfl
    refine ⟨fun hb => ⟨false, ?_, ?_⟩, fun hb => ?_, fun _ => .inl hpos⟩
    · rw [ahead_congr src hpos]
      exact .repeatedNone hnone (by simpa using hb)
    · rw [hproduced, Bool.or_false]
    · obtain rfl : cardinality = .atLeastOne := by simpa using hb
      exact .repeatedFails hnone
  | succ count =>
    obtain ⟨used, hreads, hproduced, hpassed⟩ := h.some (Nat.succ_pos count)
    refine ⟨fun _ => ⟨used, hreads, hproduced⟩, fun hb => ?_, fun _ => hpassed⟩
    simp at hb

/-- An assignment takes the value of its element. -/
theorem assign_agrees (hgrown : KeptBy (fun _ => True) Grown Found call)
    (hcall : CallFinds src call) {id : ElementId} {feature : String} {op : AssignOp} {value : Element}
    (hvalue : value.isValue src.grammar.rules.size = true) (hnode : s.node.isSome = true)
    (h : element src call (.assign id feature op value) s = .ok (b, s')) :
    Agrees src (.assign id feature op value) s b s' := by
  have hfinds := assigned_finds hgrown hcall value hvalue
  obtain ⟨_, s₁, htick, hcases⟩ := element_assign_ok h
  obtain ⟨steps, interrupt, rfl⟩ := tick_ok htick
  rcases hcases with ⟨hnone, -, -⟩ | ⟨node, -, ⟨hfound, rfl⟩ | ⟨v, s₂, hfound, rfl, rfl⟩⟩
  · rw [show s.node = none from hnone] at hnode
    cases hnode
  · have hfinds := (hfinds _ _ _ hfound).of_start (s := s) rfl rfl
    exact ⟨by simp, fun _ => .assignFails (hfinds.failed rfl), by simp⟩
  · have hfinds := (hfinds _ _ _ hfound).of_start (s := s) rfl rfl
    have hpos := pos_store s₂ node feature op v
    obtain ⟨used, hreads⟩ := hfinds.matched rfl
    refine ⟨fun _ => ⟨false, ?_, ?_⟩, by simp, fun _ => ?_⟩
    · rw [ahead_congr src hpos]
      exact .assign hreads
    · rw [produced_store, hfinds.produced rfl, Bool.or_false]
    · have hpassed := hfinds.passed rfl
      rwa [Passed, hpos, ahead_congr src hpos]

mutual

/-- **An element matches exactly if it reads the tokens ahead**, where it can
be: an assignment needs a node. -/
theorem element_agrees {union : Bool} (hgrown : KeptBy (fun _ => True) Grown Found call)
    (hcall : CallFinds src call) : ∀ (e : Element), e.placed src.grammar.rules.size union = true →
    ∀ s b s', (union = true ∨ s.node.isSome = true) → element src call e s = .ok (b, s') →
      Agrees src e s b s'
  | .keyword id text, _, s, b, s', _, h => by
    obtain ⟨_, s₁, _, found, htick, htoken, rfl⟩ := element_single_ok rfl (by nofun) h
    obtain ⟨steps, interrupt, rfl⟩ := tick_ok htick
    exact ((token_finds rfl htoken).agrees fun _ _ _ => unused_of_single rfl).of_start rfl rfl
  | .terminal id index, _, s, b, s', _, h => by
    obtain ⟨_, s₁, _, found, htick, htoken, rfl⟩ := element_single_ok rfl (by nofun) h
    obtain ⟨steps, interrupt, rfl⟩ := tick_ok htick
    exact ((token_finds rfl htoken).agrees fun _ _ _ => unused_of_single rfl).of_start rfl rfl
  | .crossRef _ _ _, hplaced, _, _, _, _, _ => by cases hplaced
  | .call id index, hplaced, s, b, s', _, h => by
    obtain ⟨_, s₁, htick, hcases⟩ := element_call_ok h
    obtain ⟨steps, interrupt, rfl⟩ := tick_ok htick
    rcases hcases with ⟨hc, rfl⟩ | ⟨node, s₂, hc, rfl, rfl⟩
    · have hfinds := (hcall id index _ _ _ (of_decide_eq_true hplaced) hc).of_start (s := s) rfl rfl
      exact ⟨nofun, fun _ => hfinds.failed rfl, nofun⟩
    · have hfinds := (hcall id index _ _ _ (of_decide_eq_true hplaced) hc).of_start (s := s) rfl rfl
      obtain ⟨used, hreads⟩ := hfinds.matched rfl
      obtain rfl := used_of_call hreads
      exact ⟨fun _ => ⟨true, hreads, by rw [Bool.or_true]; rfl⟩, nofun, fun _ => hfinds.passed rfl⟩
  | .assign id feature op value, hplaced, s, b, s', hnode, h => by
    rw [Element.placed, Bool.and_eq_true, Bool.not_eq_true'] at hplaced
    -- there are no assignments in unions, so there is a node
    refine assign_agrees hgrown hcall hplaced.2 (hnode.resolve_left fun hunion => ?_) h
    rw [hplaced.1] at hunion
    cases hunion
  | .seq id items, hplaced, s, b, s', hnode, h => by
    obtain ⟨_, s₁, htick, h⟩ := element_seq_ok h
    obtain ⟨steps, interrupt, rfl⟩ := tick_ok htick
    exact (allElements_agree hgrown hcall id items hplaced _ b s' (by exact hnode) h).of_start rfl rfl
  | .alt id items, hplaced, s, b, s', hnode, h => by
    obtain ⟨_, s₁, htick, h⟩ := element_alt_ok h
    obtain ⟨steps, interrupt, rfl⟩ := tick_ok htick
    exact (firstElement_agrees hgrown hcall id items hplaced _ b s' (by exact hnode) h).of_start rfl rfl
  | .repeated id cardinality body, hplaced, s, b, s', hnode, h => by
    rw [Element.placed] at hplaced
    obtain ⟨_, s₁, count, htick, hrounds, rfl⟩ := element_repeated_ok h
    obtain ⟨steps, interrupt, rfl⟩ := tick_ok htick
    -- the bound allows one round more than there are tokens ahead
    refine (Repeats.agrees (rounds_repeats
      (P := fun s => union = true ∨ s.node.isSome = true)
      (fun _ _ _ => Grown.elementOf hgrown)
      (fun s s' hs hP => by rwa [hs.node])
      (fun s b s' hP hs => element_agrees hgrown hcall body hplaced s b s' hP hs)
      id _ cardinality _ count s' ?_ (by exact hnode) hrounds)).of_start rfl rfl
    exact Nat.lt_succ_of_le (length_ahead_le src _)

theorem allElements_agree {union : Bool} (hgrown : KeptBy (fun _ => True) Grown Found call)
    (hcall : CallFinds src call) (id : ElementId) : ∀ (items : List Element),
    Element.allPlaced src.grammar.rules.size union items = true →
    ∀ s b s', (union = true ∨ s.node.isSome = true) → allElements src call items s = .ok (b, s') →
      Agrees src (.seq id items) s b s'
  | [], _, s, b, s', _, h => by
    rw [allElements] at h
    obtain ⟨rfl, rfl⟩ := pure_ok h
    exact .nil id s
  | item :: items, hplaced, s, b, s', hnode, h => by
    rw [Element.allPlaced, Bool.and_eq_true] at hplaced
    have hitem := element_agrees hgrown hcall item hplaced.1
    rcases allElements_cons_ok h with ⟨hmatch, rfl⟩ | ⟨s₁, hmatch, hrest⟩
    · exact ⟨nofun, fun _ => .seqFails ((hitem s _ s' hnode hmatch).failed rfl), nofun⟩
    · have hgrew := Grown.elementOf hgrown hmatch
      exact (hitem s _ s₁ hnode hmatch).cons
        (allElements_agree hgrown hcall id items hplaced.2 s₁ b s' (by rwa [hgrew.node]) hrest)

theorem firstElement_agrees {union : Bool} (hgrown : KeptBy (fun _ => True) Grown Found call)
    (hcall : CallFinds src call) (id : ElementId) : ∀ (items : List Element),
    Element.allPlaced src.grammar.rules.size union items = true →
    ∀ s b s', (union = true ∨ s.node.isSome = true) → firstElement src call items s = .ok (b, s') →
      Agrees src (.alt id items) s b s'
  | [], _, s, b, s', _, h => by
    rw [firstElement] at h
    obtain ⟨rfl, rfl⟩ := pure_ok h
    exact ⟨nofun, fun _ => .altNil, nofun⟩
  | item :: items, hplaced, s, b, s', hnode, h => by
    rw [Element.allPlaced, Bool.and_eq_true] at hplaced
    have hitem := element_agrees hgrown hcall item hplaced.1
    rcases firstElement_cons_ok h with ⟨hmatch, rfl⟩ | ⟨s₁, hmatch, hrest⟩
    · exact .here (hitem s true s' hnode hmatch)
    · obtain ⟨s₂, hfailed, -⟩ := attemptMatch_isFalse hmatch
      have hnone := (hitem s false s₂ hnode hfailed).failed rfl
      obtain ⟨furthest, steps, interrupt, rfl⟩ := attemptMatch_false
        (fun _ _ _ => Grown.elementOf hgrown) hmatch
      have hagrees := firstElement_agrees hgrown hcall id items hplaced.2 _ b s' (by exact hnode) hrest
      exact .next hnone (hagrees.of_start rfl rfl)

end

/-! ## Calls -/

/-- A body that matches without a product is undone. -/
theorem closeCall_product {rule : Rule} {m : Mark} {body : Step Bool}
    (h : closeCall rule m body s = .ok (none, s')) (hbody : body s = .ok (true, s₁)) :
    (ownNode rule m).or s₁.produced = none := by
  rw [closeCall, hbody] at h
  dsimp only at h
  split at h
  · cases h
  · next hproduct =>
    cases hnone : (ownNode rule m).or s₁.produced with
    | none => rfl
    | some node => exact absurd hnone (hproduct node rfl)

/-- **Calls agree with their readings**, however deep they may be nested. -/
theorem callRule_finds (hplaced : src.grammar.Placed) (depth : Nat) :
    CallFinds src (callRule src depth) := by
  induction depth with
  | zero =>
    intro id index s a s' _ h
    rw [callRule, goOn] at h
    cases h
  | succ depth ih =>
    intro id index s a s' hindex h
    have hrule : src.grammar.rules[index]? = some src.grammar.rules[index] :=
      Array.getElem?_eq_getElem hindex
    generalize src.grammar.rules[index] = rule at hrule
    rw [callRule] at h
    simp only [hrule] at h
    -- In a call the product starts out empty, so at the end it tells what was used.
    have hopen : (openCall rule id s.mark s).produced = none := rfl
    have hnode : rule.isUnion = true ∨ (openCall rule id s.mark s).node.isSome = true := by
      cases hunion : rule.isUnion with
      | true => exact .inl rfl
      | false =>
        refine .inr ?_
        show (ownNode rule s.mark).isSome = true
        rw [ownNode, hunion]
        rfl
    have hbody := fun b s₁ => element_agrees (keptBy_callRule src depth) ih rule.body
      (hplaced rule (Array.mem_of_getElem? hrule)) (openCall rule id s.mark s) b s₁ hnode
    have hgrew : ∀ b s₁, element src (callRule src depth) rule.body (openCall rule id s.mark s) =
        .ok (b, s₁) → Grown (openCall rule id s.mark s) s₁ := fun _ _ => Grown.element
    rcases closeCall_ok hgrew h with ⟨s₁, node, hrun, hproduct, rfl, rfl⟩ | ⟨s₁, b, hrun, rfl, rfl⟩
    · have hagrees := hbody true s₁ hrun
      obtain ⟨used, hreads, hproduced⟩ := hagrees.matched rfl
      rw [hopen, Option.isSome_none, Bool.false_or] at hproduced
      refine ⟨fun _ => ⟨true, .call hrule hreads fun hunion => ?_⟩, by simp,
        fun _ => hagrees.passed rfl, fun _ => rfl⟩
      rw [ownNode, hunion, if_pos rfl, Option.none_or] at hproduct
      rw [← hproduced, hproduct]
      rfl
    · refine ⟨by simp, fun _ => ?_, by simp, by simp⟩
      cases b with
      | false => exact .callFails hrule ((hbody false s₁ hrun).failed rfl)
      | true =>
        obtain ⟨used, hreads, hproduced⟩ := (hbody true s₁ hrun).matched rfl
        have hproduct := closeCall_product h hrun
        rw [hopen, Option.isSome_none, Bool.false_or] at hproduced
        cases hunion : rule.isUnion with
        | false =>
          rw [ownNode, hunion] at hproduct
          cases hproduct
        | true =>
          rw [ownNode, hunion, if_pos rfl, Option.none_or] at hproduct
          rw [hproduct] at hproduced
          obtain rfl : used = false := hproduced.symm
          exact .callUnused hrule hunion hreads

/-! ## The entry rule -/

/-- The interpreter of bodies, with calls as in a whole parse. -/
theorem element_callRule_agrees (hplaced : src.grammar.Placed) {rule : Rule}
    (hrule : rule ∈ src.grammar.rules) {part : Element} (hpart : part ∈ rule.body.parts)
    {depth : Nat} (hnode : rule.isUnion = true ∨ s.node.isSome = true)
    (h : element src (callRule src depth) part s = .ok (b, s')) : Agrees src part s b s' :=
  element_agrees (keptBy_callRule src depth) (callRule_finds hplaced depth) part
    (Element.placed_of_mem_parts rule.body (hplaced rule hrule) part hpart) s b s' hnode h

theorem errors_attemptMatch {step : Step Bool}
    (hgrown : ∀ s b s', step s = .ok (b, s') → Grown s s')
    (h : attemptMatch step s = .ok (b, s')) : s'.errors = s.errors := by
  cases b with
  | true => exact (hgrown _ _ _ (attemptMatch_ok h)).errors
  | false =>
    obtain ⟨furthest, steps, interrupt, rfl⟩ := attemptMatch_false hgrown h
    rfl

theorem errors_skipTokens (n : Nat) (s : State) : (skipTokens src n s).errors = s.errors := by
  induction n generalizing s with
  | zero => rfl
  | succ n ih =>
    rw [skipTokens]
    split
    · rfl
    · exact ih _

theorem errors_check {u : Unit} (h : check s = .ok (u, s')) : s'.errors = s.errors := by
  obtain ⟨interrupt, rfl⟩ := check_ok h
  rfl

/-- **An error that was reported is not taken back.** -/
theorem recover_errors {body : Step Bool} (hgrown : ∀ s b s', body s = .ok (b, s') → Grown s s') :
    ∀ n s u s', recover src body n s = .ok (u, s') → ∃ more, s'.errors = s.errors ++ more := by
  intro n
  induction n with
  | zero =>
    intro s u s' h
    obtain ⟨-, rfl⟩ := pure_ok h
    exact ⟨[], (List.append_nil _).symm⟩
  | succ n ih =>
    intro s u s' h
    obtain ⟨matched, s₁, hmatch, hcases⟩ := recover_ok h
    have herrors := errors_attemptMatch hgrown hmatch
    obtain ⟨-, -, rfl⟩ | ⟨s₂, hcheck, ⟨-, rfl⟩ | ⟨next, -, hrest⟩⟩ := hcases
    · exact ⟨[], by rw [herrors, List.append_nil]⟩
    · exact ⟨[furthestError src s₂], by rw [reported, errors_check hcheck, herrors]⟩
    · obtain ⟨more, hmore⟩ := ih _ _ _ hrest
      refine ⟨furthestError src s₂ :: more, ?_⟩
      rw [hmore, skipped]
      dsimp only
      rw [errors_skipTokens, reported, errors_check hcheck, herrors, List.append_assoc]
      rfl

/-- A body that matches and leaves nothing is the end. -/
theorem recover_last {body : Step Bool} {n : Nat} (hmatch : attemptMatch body s = .ok (true, s₁))
    (hnext : s₁.nextSignificant src = none) : recover src body (n + 1) s = .ok ((), s₁) := by
  simp only [recover, bind, StateT.bind, Except.bind, hmatch, get, getThe, MonadStateOf.get,
    StateT.get, pure, Except.pure, hnext]
  rfl

/-- **The first round decides**: there are no errors exactly if it reads all
tokens. -/
theorem recover_reads {body : Element} {step : Step Bool} {n : Nat} {u : Unit}
    (hgrown : ∀ s b s', step s = .ok (b, s') → Grown s s')
    (hbody : ∀ b s', step s = .ok (b, s') → Agrees src body s b s') (hclean : s.errors = [])
    (h : recover src step (n + 1) s = .ok (u, s')) :
    s'.errors = [] ↔ ∃ used, Reads src.grammar body (ahead src s) (some ([], used)) := by
  obtain ⟨matched, s₁, hmatch, hcases⟩ := recover_ok h
  have herrors := errors_attemptMatch hgrown hmatch
  obtain ⟨rfl, hnext, rfl⟩ | ⟨s₂, hcheck, hcases⟩ := hcases
  · obtain ⟨used, hreads, -⟩ := (hbody _ _ (attemptMatch_ok hmatch)).matched rfl
    rw [ahead_eq_nil hnext] at hreads
    exact ⟨fun _ => ⟨used, hreads⟩, fun _ => herrors.trans hclean⟩
  · have hreported : (reported src s₂).errors = [furthestError src s₂] := by
      rw [reported, errors_check hcheck, herrors, hclean]
      rfl
    have hnot : s'.errors ≠ [] := by
      obtain ⟨-, rfl⟩ | ⟨next, -, hrest⟩ := hcases
      · rw [hreported]
        exact List.cons_ne_nil _ _
      · obtain ⟨more, hmore⟩ := recover_errors hgrown _ _ _ _ hrest
        rw [hmore, skipped]
        dsimp only
        rw [errors_skipTokens, hreported]
        exact List.cons_ne_nil _ _
    refine ⟨fun hnone => absurd hnone hnot, ?_⟩
    rintro ⟨used, hreads⟩
    exfalso
    cases matched with
    | false =>
      obtain ⟨s₃, hfailed, -⟩ := attemptMatch_isFalse hmatch
      cases hreads.unique ((hbody _ _ hfailed).failed rfl)
    | true =>
      -- The body has matched, so there must be a token left that it did not read.
      obtain ⟨used', hreads', -⟩ := (hbody _ _ (attemptMatch_ok hmatch)).matched rfl
      have hsame := Option.some.inj (hreads.unique hreads')
      have hahead : [] = ahead src s₁ := (Prod.mk.inj hsame).1
      cases hnext : s₁.nextSignificant src with
      | none =>
        rw [recover_last hmatch hnext] at h
        cases h
        exact hnot (herrors.trans hclean)
      | some next =>
        obtain ⟨tok, -, hcons⟩ := ahead_eq_cons hnext
        rw [hcons] at hahead
        cases hahead

theorem entry_reads (hplaced : src.grammar.Placed) {rule : Rule} (hrule : rule ∈ src.grammar.rules)
    {start : Interrupt} {u : Unit}
    (h : entry src rule (State.start src rule start) = .ok (u, s')) :
    s'.errors = [] ↔
      ∃ used, Reads src.grammar rule.body (src.significantAt 0) (some ([], used)) := by
  rw [entry] at h
  obtain ⟨_, s₁, hrecover, h⟩ := bind_ok h
  rw [modify_ok h, (Grown.attachHidden _ s₁).errors]
  exact recover_reads (fun _ _ _ => Grown.element)
    (fun b s₂ => element_agrees (keptBy_callRule src _) (callRule_finds hplaced _) rule.body
      (hplaced rule hrule) _ b s₂ (.inr rfl)) rfl hrecover

/-- **A parse is ordered choice.** In a grammar that was built, a text that
is parsed to the end has no errors exactly if the body of the entry rule, as a
parsing expression, reads all its tokens. And whatever state the parse is in,
an element matches exactly if it reads the tokens ahead, and is then past
those it has read. -/
theorem parse_reads {d : Definition} {g : Grammar} (hbuild : d.build = .ok g) {text : String}
    {name : Option String} {interrupt left : Interrupt} {r : ParseResult}
    (hparse : g.parse text name interrupt = .ok (r, left)) :
    ∃ rule lexemes, g.entryRule name = .ok rule ∧ Lexeme.ofText? g text.toList = some lexemes ∧
      (r.parserErrors = [] ↔ ∃ used,
        Reads g rule.body ((sourceOf g text lexemes).significantAt 0) (some ([], used))) ∧
      ∀ inner ∈ g.rules, ∀ part ∈ inner.body.parts, ∀ depth s b s',
        (inner.isUnion = true ∨ s.node.isSome = true) →
        element (sourceOf g text lexemes) (callRule (sourceOf g text lexemes) depth) part s =
          .ok (b, s') →
        (b = true ↔ ∃ rest used,
          Reads g part (ahead (sourceOf g text lexemes) s) (some (rest, used))) ∧
        ∀ rest used, Reads g part (ahead (sourceOf g text lexemes) s) (some (rest, used)) →
          s.pos ≤ s'.pos ∧ ahead (sourceOf g text lexemes) s' = rest := by
  have hplaced := Definition.placed hbuild
  obtain ⟨rule, i, lexemes, start, s₀, hi, hrule, -, hlexemes, hentry, -, -, -, herrors⟩ :=
    parse_ok hparse
  refine ⟨rule, lexemes, hrule, hlexemes, ?_, ?_⟩
  · rw [herrors]
    exact entry_reads hplaced (Array.mem_of_getElem? hi) hentry
  · intro inner hinner part hpart depth s b s' hnode h
    have hagrees := element_callRule_agrees hplaced hinner hpart hnode h
    cases b with
    | false =>
      -- an element that fails reads nothing else, as readings are unique
      have hfails (rest : List Token) (used : Bool) : ¬ Reads g part
          (ahead (sourceOf g text lexemes) s) (some (rest, used)) := fun hreads => by
        cases hreads.unique (hagrees.failed rfl)
      exact ⟨⟨nofun, fun ⟨rest, used, hreads⟩ => absurd hreads (hfails rest used)⟩,
        fun rest used hreads => absurd hreads (hfails rest used)⟩
    | true =>
      obtain ⟨used, hreads, -⟩ := hagrees.matched rfl
      refine ⟨⟨fun _ => ⟨_, used, hreads⟩, fun _ => rfl⟩, fun rest used' hreads' => ?_⟩
      have hsame := Option.some.inj (hreads.unique hreads')
      exact ⟨(Grown.element h).pos, (Prod.mk.inj hsame).1⟩

/-- Two items are read as the body says. -/
theorem parse_reads_overwritten :
    Transfer.Overwritten.definition.build = .ok Transfer.Overwritten.grammar ∧
    Transfer.Overwritten.grammar.parse "xx" none .never =
      .ok (Transfer.Overwritten.result, .never) ∧
    ∃ rule lexemes, Transfer.Overwritten.grammar.entryRule none = .ok rule ∧
      Lexeme.ofText? Transfer.Overwritten.grammar "xx".toList = some lexemes ∧
      ∃ used, Reads Transfer.Overwritten.grammar rule.body
        ((sourceOf Transfer.Overwritten.grammar "xx" lexemes).significantAt 0)
        (some ([], used)) := by
  obtain ⟨rule, lexemes, hrule, hlexemes, hreads, -⟩ :=
    parse_reads Transfer.Overwritten.build_definition Transfer.Overwritten.parse_text
  exact ⟨Transfer.Overwritten.build_definition, Transfer.Overwritten.parse_text, rule, lexemes,
    hrule, hlexemes, hreads.mp rfl⟩

end Parse

end Workbench
