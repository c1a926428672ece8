import Workbench.Proofs.Grammar.Graded
import Workbench.Proofs.Parse.Expression
import Mathlib.Data.Finset.Card
import Mathlib.Logic.Relation
/-!
# Rules that are entered again

A rule enters another one if it calls it at a place of its body that is
reached without a token. `Progressive` says that no rule enters itself again,
directly or through others. This is said without numbers. In a grammar that
was built it is the same as to have ranks: the rank of a rule counts the rules
that it enters (`Definition.progressive_iff_graded`).
-/

namespace Workbench

namespace Element

/-- **An element that may match without a token.** -/
inductive Blank (g : Grammar) : Element → Prop where
  | call {id : ElementId} {index : ℕ} {rule : Rule} :
    g.rules[index]? = some rule → Blank g rule.body → Blank g (.call id index)
  | assign {id : ElementId} {feature : String} {op : AssignOp} {value : Element} :
    Blank g value → Blank g (.assign id feature op value)
  | seq {id : ElementId} {items : List Element} :
    (∀ item ∈ items, Blank g item) → Blank g (.seq id items)
  | alt {id : ElementId} {items : List Element} {item : Element} :
    item ∈ items → Blank g item → Blank g (.alt id items)
  /-- There may be no round at all. -/
  | none {id : ElementId} {cardinality : Cardinality} {body : Element} :
    cardinality ≠ .atLeastOne → Blank g (.repeated id cardinality body)
  | round {id : ElementId} {cardinality : Cardinality} {body : Element} :
    Blank g body → Blank g (.repeated id cardinality body)

/-- **An element with a call of a rule at a place that is reached without a
token.** -/
inductive Opens (g : Grammar) (index : ℕ) : Element → Prop where
  | call {id : ElementId} : Opens g index (.call id index)
  | assign {id : ElementId} {feature : String} {op : AssignOp} {value : Element} :
    Opens g index value → Opens g index (.assign id feature op value)
  /-- All that stands before the item may match without a token. -/
  | seq {id : ElementId} {before after : List Element} {item : Element} :
    (∀ e ∈ before, Blank g e) → Opens g index item →
    Opens g index (.seq id (before ++ item :: after))
  | alt {id : ElementId} {items : List Element} {item : Element} :
    item ∈ items → Opens g index item → Opens g index (.alt id items)
  | repeated {id : ElementId} {cardinality : Cardinality} {body : Element} :
    Opens g index body → Opens g index (.repeated id cardinality body)

end Element

/-- One rule calls another one before it passes a token. -/
def Grammar.Enters (g : Grammar) (i j : ℕ) : Prop :=
  ∃ rule, g.rules[i]? = some rule ∧ rule.body.Opens g j

/-- **A grammar in which no rule is entered again** before a token is passed. -/
def Grammar.Progressive (g : Grammar) : Prop := ∀ i, ¬ Relation.TransGen g.Enters i i

variable {g : Grammar} {rules : ℕ → Bool} {rank : ℕ → ℕ}

/-! ## From ranks -/

namespace Element

theorem idleAll_eq_all (items : List Element) :
    idleAll rules items = items.all (idle rules) := by
  induction items with
  | nil => rfl
  | cons e es ih => rw [idleAll, ih, List.all_cons]

theorem idleAny_eq_any (items : List Element) :
    idleAny rules items = items.any (idle rules) := by
  induction items with
  | nil => rfl
  | cons e es ih => rw [idleAny, ih, List.any_cons]

theorem mem_leadsAny {j : ℕ} {items : List Element} :
    j ∈ leadsAny rules items ↔ ∃ item ∈ items, j ∈ item.leads rules := by
  induction items with
  | nil => simp [leadsAny]
  | cons e es ih =>
    rw [leadsAny, List.mem_append, ih]
    simp only [List.mem_cons, exists_eq_or_imp]

/-- What may match without a token is known to. -/
theorem Blank.idle (h : Graded g rules rank) {e : Element} (he : e.Blank g) :
    e.idle rules = true := by
  induction he with
  | call hrule _ ih =>
    rw [Element.idle]
    exact h.idle _ _ hrule ih
  | assign _ ih =>
    rw [Element.idle]
    exact ih
  | seq _ ih =>
    rw [Element.idle, idleAll_eq_all, List.all_eq_true]
    exact ih
  | alt hmem _ ih =>
    rw [Element.idle, idleAny_eq_any, List.any_eq_true]
    exact ⟨_, hmem, ih⟩
  | none hcardinality =>
    rw [Element.idle, bne_iff_ne.mpr hcardinality, Bool.true_or]
  | round _ ih =>
    rw [Element.idle, ih, Bool.or_true]

theorem leads_subset_leadsAll {before after : List Element} {item : Element}
    (hbefore : ∀ e ∈ before, e.idle rules = true) :
    item.leads rules ⊆ leadsAll rules (before ++ item :: after) := by
  induction before with
  | nil =>
    rw [List.nil_append, leadsAll]
    exact List.subset_append_left _ _
  | cons e es ih =>
    rw [List.cons_append, leadsAll, if_pos (hbefore e List.mem_cons_self)]
    have hes := ih fun e' he' => hbefore e' (List.mem_cons_of_mem e he')
    exact fun j hj => List.mem_append_right _ (hes hj)

/-- A call that is reached without a token is among those that lead. -/
theorem Opens.leads (h : Graded g rules rank) {e : Element} {j : ℕ} (he : e.Opens g j) :
    j ∈ e.leads rules := by
  induction he with
  | call =>
    rw [Element.leads]
    exact List.mem_singleton.mpr rfl
  | assign _ ih =>
    rw [Element.leads]
    exact ih
  | seq hbefore _ ih =>
    rw [Element.leads]
    exact leads_subset_leadsAll (fun e he => (hbefore e he).idle h) ih
  | alt hmem _ ih =>
    rw [Element.leads, mem_leadsAny]
    exact ⟨_, hmem, ih⟩
  | repeated _ ih =>
    rw [Element.leads]
    exact ih

end Element

/-- Rules enter rules of lower ranks, so none enters itself again. -/
theorem Graded.progressive (h : Graded g rules rank) : g.Progressive := by
  intro i hi
  have hlower : ∀ {j k}, Relation.TransGen g.Enters j k → rank k < rank j := by
    intro j k hjk
    induction hjk with
    | single henters =>
      obtain ⟨rule, hrule, hopens⟩ := henters
      exact h.rank_lt _ rule hrule _ (hopens.leads h)
    | tail _ henters ih =>
      obtain ⟨rule, hrule, hopens⟩ := henters
      exact Nat.lt_trans (h.rank_lt _ rule hrule _ (hopens.leads h)) ih
  exact Nat.lt_irrefl _ (hlower hi)

/-! ## To ranks -/

/-- Rules that are only said to match without a token if they may. -/
def BlankOnly (g : Grammar) (rules : ℕ → Bool) : Prop :=
  ∀ i, rules i = true → ∃ rule, g.rules[i]? = some rule ∧ rule.body.Blank g

namespace Element

variable {j : ℕ}

mutual

theorem blank_of_idle (hrules : BlankOnly g rules) : ∀ e : Element, e.idle rules = true → e.Blank g
  | .keyword _ _, h => by cases h
  | .terminal _ _, h => by cases h
  | .crossRef _ _ _, h => by cases h
  | .call _ index, h => by
    obtain ⟨rule, hrule, hblank⟩ := hrules index h
    exact .call hrule hblank
  | .assign _ _ _ value, h => .assign (blank_of_idle hrules value h)
  | .seq _ items, h => .seq (blank_of_idleAll hrules items h)
  | .alt _ items, h => by
    obtain ⟨item, hmem, hblank⟩ := blank_of_idleAny hrules items h
    exact .alt hmem hblank
  | .repeated _ cardinality body, h => by
    rw [idle, Bool.or_eq_true] at h
    rcases h with h | h
    · exact .none (bne_iff_ne.mp h)
    · exact .round (blank_of_idle hrules body h)

theorem blank_of_idleAll (hrules : BlankOnly g rules) : ∀ es :
    List Element, idleAll rules es = true →
    ∀ e ∈ es, e.Blank g
  | [], _ => nofun
  | e :: es, h => by
    rw [idleAll, Bool.and_eq_true] at h
    exact List.forall_mem_cons.mpr ⟨blank_of_idle hrules e h.1, blank_of_idleAll hrules es h.2⟩

theorem blank_of_idleAny (hrules : BlankOnly g rules) : ∀ es :
    List Element, idleAny rules es = true →
    ∃ e ∈ es, e.Blank g
  | [], h => by cases h
  | e :: es, h => by
    rw [idleAny, Bool.or_eq_true] at h
    rcases h with h | h
    · exact ⟨e, List.mem_cons_self, blank_of_idle hrules e h⟩
    · obtain ⟨e', hmem, hblank⟩ := blank_of_idleAny hrules es h
      exact ⟨e', List.mem_cons_of_mem e hmem, hblank⟩

end

mutual

theorem opens_of_leads (hrules : BlankOnly g rules) : ∀ e : Element, j ∈ e.leads rules → e.Opens g j
  | .keyword _ _, h => by cases h
  | .terminal _ _, h => by cases h
  | .crossRef _ _ _, h => by cases h
  | .call _ index, h => by
    rw [List.mem_singleton.mp h]
    exact .call
  | .assign _ _ _ value, h => .assign (opens_of_leads hrules value h)
  | .seq _ items, h => by
    obtain ⟨before, item, after, rfl, hbefore, hitem⟩ := opens_of_leadsAll hrules items h
    exact .seq hbefore hitem
  | .alt _ items, h => by
    obtain ⟨item, hmem, hitem⟩ := opens_of_leadsAny hrules items h
    exact .alt hmem hitem
  | .repeated _ _ body, h => .repeated (opens_of_leads hrules body h)

theorem opens_of_leadsAll (hrules : BlankOnly g rules) : ∀ es :
    List Element, j ∈ leadsAll rules es →
    ∃ before item after, es = before ++ item :: after ∧ (∀ e ∈ before, e.Blank g) ∧
      item.Opens g j
  | [], h => by cases h
  | e :: es, h => by
    rw [leadsAll, List.mem_append] at h
    rcases h with h | h
    · exact ⟨[], e, es, rfl, nofun, opens_of_leads hrules e h⟩
    · split at h
      · next hidle =>
        obtain ⟨before, item, after, rfl, hbefore, hitem⟩ := opens_of_leadsAll hrules es h
        have hblank := blank_of_idle hrules e hidle
        exact ⟨e :: before, item, after, rfl, List.forall_mem_cons.mpr ⟨hblank, hbefore⟩, hitem⟩
      · cases h

theorem opens_of_leadsAny (hrules : BlankOnly g rules) : ∀ es :
    List Element, j ∈ leadsAny rules es →
    ∃ e ∈ es, e.Opens g j
  | [], h => by cases h
  | e :: es, h => by
    rw [leadsAny, List.mem_append] at h
    rcases h with h | h
    · exact ⟨e, List.mem_cons_self, opens_of_leads hrules e h⟩
    · obtain ⟨e', hmem, hopens⟩ := opens_of_leadsAny hrules es h
      exact ⟨e', List.mem_cons_of_mem e hmem, hopens⟩

end

end Element

namespace Element

theorem allPlaced_eq_all {n : ℕ} {union : Bool} (items : List Element) :
    allPlaced n union items = items.all (placed n union) := by
  induction items with
  | nil => rfl
  | cons e es ih => rw [allPlaced, ih, List.all_cons]

theorem areValues_eq_all {n : ℕ} (items : List Element) :
    areValues n items = items.all (isValue n) := by
  induction items with
  | nil => rfl
  | cons e es ih => rw [areValues, ih, List.all_cons]

/-- Calls in the body of a rule are of rules that there are. -/
theorem Opens.lt {e : Element} {j n : ℕ} {union : Bool} (he : e.Opens g j)
    (hplaced : e.placed n union = true ∨ e.isValue n = true) : j < n := by
  induction he with
  | call => rcases hplaced with h | h <;> exact of_decide_eq_true h
  | assign _ ih =>
    rcases hplaced with h | h
    · rw [placed, Bool.and_eq_true] at h
      exact ih (.inr h.2)
    · cases h
  | seq _ _ ih =>
    rcases hplaced with h | h
    · rw [placed, allPlaced_eq_all, List.all_eq_true] at h
      exact ih (.inl (h _ (List.mem_append_right _ List.mem_cons_self)))
    · cases h
  | alt hmem _ ih =>
    rcases hplaced with h | h
    · rw [placed, allPlaced_eq_all, List.all_eq_true] at h
      exact ih (.inl (h _ hmem))
    · rw [isValue, areValues_eq_all, List.all_eq_true] at h
      exact ih (.inr (h _ hmem))
  | repeated _ ih =>
    rcases hplaced with h | h
    · exact ih (.inl h)
    · cases h

end Element

theorem Grammar.Enters.lt {i j : ℕ} (hplaced : g.Placed) (h : g.Enters i j) :
    i < g.rules.size ∧ j < g.rules.size := by
  obtain ⟨rule, hrule, hopens⟩ := h
  have hbody := hplaced rule (Array.mem_of_getElem? hrule)
  exact ⟨(Array.getElem?_eq_some_iff.mp hrule).1, hopens.lt (.inl hbody)⟩

open Classical in
/-- The rules that a rule enters, directly or through others. -/
noncomputable def Grammar.reach (g : Grammar) (i : ℕ) : Finset ℕ :=
  (Finset.range g.rules.size).filter (Relation.TransGen g.Enters i)

theorem Grammar.mem_reach {i j : ℕ} :
    j ∈ g.reach i ↔ j < g.rules.size ∧ Relation.TransGen g.Enters i j := by
  simp only [reach, Finset.mem_filter, Finset.mem_range]

namespace Grammar.Progressive

/-- A rule enters more rules than one that it enters. -/
theorem card_reach_lt (h : g.Progressive) (hplaced : g.Placed) {i j : ℕ} (henters : g.Enters i j) :
    (g.reach j).card < (g.reach i).card := by
  refine Finset.card_lt_card (Finset.ssubset_iff_subset_ne.mpr ⟨fun k hk => ?_, fun heq => ?_⟩)
  · -- what `j` enters `i` enters too, and `j` besides, which does not enter itself
    obtain ⟨hlt, hjk⟩ := mem_reach.mp hk
    exact mem_reach.mpr ⟨hlt, .head henters hjk⟩
  · have hmem : j ∈ g.reach i := mem_reach.mpr ⟨(henters.lt hplaced).2, .single henters⟩
    rw [← heq] at hmem
    exact h j (mem_reach.mp hmem).2

/-- A rule does not enter all rules, since it does not enter itself. -/
theorem card_reach_lt_size (h : g.Progressive) (hplaced : g.Placed) (hsize : 0 < g.rules.size)
    (i : ℕ) : (g.reach i).card < g.rules.size := by
  have hsubset : g.reach i ⊆ Finset.range g.rules.size :=
    fun k hk => Finset.mem_range.mpr (mem_reach.mp hk).1
  rw [← Finset.card_range g.rules.size]
  refine Finset.card_lt_card (Finset.ssubset_iff_subset_ne.mpr ⟨hsubset, fun heq => ?_⟩)
  by_cases hi : i < g.rules.size
  · have hmem : i ∈ g.reach i := by
      rw [heq]
      exact Finset.mem_range.mpr hi
    exact h i (mem_reach.mp hmem).2
  · -- what is no rule enters nothing
    have hmem : 0 ∈ g.reach i := by
      rw [heq]
      exact Finset.mem_range.mpr hsize
    obtain ⟨k, henters, -⟩ := Relation.TransGen.head'_iff.mp (mem_reach.mp hmem).2
    exact hi (henters.lt hplaced).1

/-- **A grammar in which no rule is entered again has ranks.** -/
theorem graded (h : g.Progressive) (hplaced : g.Placed) (hsize : 0 < g.rules.size) :
    ∃ rules rank, Graded g rules rank := by
  classical
  let rules : ℕ → Bool := fun i => decide (∃ rule, g.rules[i]? = some rule ∧ rule.body.Blank g)
  have hrules : BlankOnly g rules := fun i hi => of_decide_eq_true hi
  refine ⟨rules, fun i => (g.reach i).card, ⟨fun i rule hrule hidle => ?_,
    fun i rule hrule j hj => ?_, h.card_reach_lt_size hplaced hsize⟩⟩
  · exact decide_eq_true ⟨rule, hrule, Element.blank_of_idle hrules _ hidle⟩
  · exact h.card_reach_lt hplaced ⟨rule, hrule, Element.opens_of_leads hrules _ hj⟩

end Grammar.Progressive

/-- **No rule is entered again exactly if there are ranks**, in a grammar that
was built. -/
theorem Definition.progressive_iff_graded {d : Definition} (h : d.build = .ok g) :
    g.Progressive ↔ ∃ rules rank, Graded g rules rank := by
  have hsize : 0 < g.rules.size := by
    obtain ⟨terminals, rules, last, entry, -, -, hentry, rfl⟩ := Definition.build_ok h
    -- an entry is found only among rules
    cases rules with
    | cons rule rest => exact Nat.succ_pos rest.length
    | nil =>
      rw [findEntry] at hentry
      split at hentry
      · cases hentry
      · split at hentry <;> cases hentry
  exact ⟨fun hprogressive => hprogressive.graded (Definition.placed h) hsize,
    fun ⟨_, _, hgraded⟩ => hgraded.progressive⟩

end Workbench
