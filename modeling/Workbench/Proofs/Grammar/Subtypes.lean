import Workbench.Grammar.Types
import Workbench.Proofs.Grammar.Sources
import Workbench.Proofs.Parse.Expression
import Mathlib.Data.Finset.Card
import Mathlib.Logic.Relation
/-!
# Subtypes are what unions pass on

A union passes on the node of a rule it calls, so what that rule produces is
one step below the union (`Grammar.Passes`). The supertypes of a type are
collected in rounds, as many as there are steps. A round that adds nothing is
the last that matters, and every other one adds a target of a step, so after
so many rounds nothing is missing, also where unions call each other in
circles. So being a subtype is to be reached by steps
(`Grammar.isSubtype_iff`).
-/

namespace Workbench

namespace Types

variable {steps : List (String × String)} {types : List String} {a b x : String}

/-! ## Names -/

theorem mem_insertName {name : String} {names : List String} :
    x ∈ insertName name names ↔ x = name ∨ x ∈ names := by
  induction names with
  | nil => simp [insertName]
  | cons other rest ih =>
    rw [insertName]
    split
    · rw [List.mem_cons]
    · split
      next heq => simp [heq]
      next => rw [List.mem_cons, ih, List.mem_cons, or_left_comm]

theorem mem_sortNames {names : List String} : x ∈ sortNames names ↔ x ∈ names := by
  have hfold : ∀ sorted, x ∈ names.foldl (fun sorted name => insertName name sorted) sorted ↔
      x ∈ sorted ∨ x ∈ names := by
    induction names with
    | nil => simp
    | cons name names ih =>
      intro sorted
      rw [List.foldl_cons, ih, mem_insertName, List.mem_cons]
      tauto
  rw [sortNames, hfold]
  simp

/-! ## Rounds -/

theorem mem_above : x ∈ above steps types ↔ ∃ t ∈ types, (t, x) ∈ steps := by
  rw [above, List.mem_filterMap]
  constructor
  · rintro ⟨⟨sub, sup⟩, hstep, hsome⟩
    obtain ⟨hmem, hsame⟩ := Option.ite_none_right_eq_some.mp hsome
    cases hsame
    exact ⟨sub, List.contains_iff_mem.mp hmem, hstep⟩
  · rintro ⟨t, ht, hstep⟩
    exact ⟨(t, x), hstep, if_pos (List.contains_iff_mem.mpr ht)⟩

/-- One round more. -/
def next (steps : List (String × String)) (types : List String) : List String :=
  sortNames (types ++ above steps types)

theorem mem_next : x ∈ next steps types ↔ x ∈ types ∨ ∃ t ∈ types, (t, x) ∈ steps := by
  rw [next, mem_sortNames, List.mem_append, mem_above]

theorem climb_succ (n : ℕ) : climb steps (n + 1) types = next steps (climb steps n types) := by
  induction n generalizing types with
  | zero => rfl
  | succ n ih => exact ih

theorem subset_climb (n : ℕ) (hx : x ∈ types) : x ∈ climb steps n types := by
  induction n with
  | zero => exact hx
  | succ n ih =>
    rw [climb_succ, mem_next]
    exact Or.inl ih

/-- No step leads out of the types. -/
def Closed (steps : List (String × String)) (types : List String) : Prop :=
  ∀ t ∈ types, ∀ x, (t, x) ∈ steps → x ∈ types

/-- **Each round adds a type, until no step leads further.** -/
theorem closed_or_card (hne : types ≠ []) (n : ℕ) :
    Closed steps (climb steps n types) ∨ n < (climb steps n types).toFinset.card := by
  induction n with
  | zero =>
    rw [climb, Finset.card_pos, List.toFinset_nonempty_iff]
    exact Or.inr hne
  | succ n ih =>
    by_cases hclosed : Closed steps (climb steps n types)
    · -- then a round adds nothing
      left
      intro t ht x hstep
      have hsame : ∀ y, y ∈ climb steps (n + 1) types ↔ y ∈ climb steps n types := by
        intro y
        rw [climb_succ, mem_next]
        exact or_iff_left_of_imp fun ⟨t, ht, hstep⟩ => hclosed t ht y hstep
      rw [hsame] at ht ⊢
      exact hclosed t ht x hstep
    · have hcard := ih.resolve_left hclosed
      obtain ⟨t, ht, x, hstep, hx⟩ : ∃ t ∈ climb steps n types, ∃ x, (t, x) ∈ steps ∧
          x ∉ climb steps n types := by
        rw [Closed] at hclosed
        push Not at hclosed
        exact hclosed
      have hlt : (climb steps n types).toFinset ⊂ (climb steps (n + 1) types).toFinset := by
        refine (Finset.ssubset_iff_of_subset fun y hy => ?_).mpr ⟨x, ?_, ?_⟩
        · rw [List.mem_toFinset, climb_succ, mem_next]
          exact Or.inl (List.mem_toFinset.mp hy)
        · rw [List.mem_toFinset, climb_succ, mem_next]
          exact Or.inr ⟨t, ht, hstep⟩
        · rw [List.mem_toFinset]
          exact hx
      have := Finset.card_lt_card hlt
      omega

/-- Rounds lead to targets of steps only. -/
theorem exists_step_of_mem_climb (htargets : ∀ x ∈ types, ∃ t, (t, x) ∈ steps) (n : ℕ)
    (hx : x ∈ climb steps n types) : ∃ t, (t, x) ∈ steps := by
  induction n generalizing x with
  | zero => exact htargets x hx
  | succ n ih =>
    rw [climb_succ, mem_next] at hx
    rcases hx with hx | ⟨t, -, hstep⟩
    · exact ih hx
    · exact ⟨t, hstep⟩

/-- **After as many rounds as there are steps, no step leads further.** -/
theorem closed_climb (htargets : ∀ x ∈ types, ∃ t, (t, x) ∈ steps) :
    Closed steps (climb steps steps.length types) := by
  by_cases hne : types = []
  · have hnone : ∀ n y, y ∉ climb steps n types := by
      intro n y hy
      induction n generalizing y with
      | zero =>
        rw [climb, hne] at hy
        cases hy
      | succ n ih =>
        rw [climb_succ, mem_next] at hy
        rcases hy with hy | ⟨t, ht, -⟩
        · exact ih y hy
        · exact ih t ht
    exact fun t ht => absurd ht (hnone _ t)
  · refine (closed_or_card hne steps.length).resolve_right fun hcard => ?_
    have hsub : (climb steps steps.length types).toFinset ⊆ (steps.map Prod.snd).toFinset := by
      intro y hy
      obtain ⟨t, hstep⟩ := exists_step_of_mem_climb htargets _ (List.mem_toFinset.mp hy)
      exact List.mem_toFinset.mpr (List.mem_map_of_mem (f := Prod.snd) hstep)
    have hle := (Finset.card_le_card hsub).trans (List.toFinset_card_le _)
    rw [List.length_map] at hle
    omega

/-- **The supertypes of a type are what one or more steps lead to**, except for
itself. -/
theorem mem_supertypesFrom :
    x ∈ supertypesFrom steps a ↔ Relation.TransGen (fun t u => (t, u) ∈ steps) a x ∧ x ≠ a := by
  have hstart : ∀ y, y ∈ sortNames (above steps [a]) ↔ (a, y) ∈ steps := by
    intro y
    rw [mem_sortNames, mem_above]
    simp
  have hrounds : ∀ n y, y ∈ climb steps n (sortNames (above steps [a])) →
      Relation.TransGen (fun t u => (t, u) ∈ steps) a y := by
    intro n
    induction n with
    | zero => exact fun y hy => .single ((hstart y).mp hy)
    | succ n ih =>
      intro y hy
      rw [climb_succ, mem_next] at hy
      rcases hy with hy | ⟨t, ht, hstep⟩
      · exact ih y hy
      · exact (ih t ht).tail hstep
  have hclosed : Closed steps (climb steps steps.length (sortNames (above steps [a]))) :=
    closed_climb fun y hy => ⟨a, (hstart y).mp hy⟩
  rw [supertypesFrom, List.mem_filter, bne_iff_ne]
  refine and_congr_left' ⟨hrounds _ x, fun hx => ?_⟩
  induction hx with
  | single hstep => exact subset_climb _ ((hstart _).mpr hstep)
  | tail _ hstep ih => exact hclosed _ ih _ hstep

end Types

/-! ## Grammars -/

namespace Element

mutual

/-- The calls of a body are those among its parts. -/
theorem mem_calls {index : ℕ} : ∀ (e : Element),
    index ∈ e.calls ↔ ∃ id, Element.call id index ∈ e.parts
  | .keyword _ _ => by simp [calls, parts]
  | .terminal _ _ => by simp [calls, parts]
  | .call id rule => by simp [calls, parts, eq_comm]
  | .crossRef _ _ _ => by simp [calls, parts]
  | .assign _ _ _ _ => by simp [calls, parts]
  | .seq _ items => by simp [calls, parts, mem_callsOf items]
  | .alt _ items => by simp [calls, parts, mem_callsOf items]
  | .repeated _ _ body => by simp [calls, parts, mem_calls body]

theorem mem_callsOf {index : ℕ} : ∀ (es : List Element),
    index ∈ callsOf es ↔ ∃ id, Element.call id index ∈ partsOf es
  | [] => by simp [callsOf, partsOf]
  | e :: es => by simp [callsOf, partsOf, mem_calls e, mem_callsOf es, exists_or]

end

mutual

/-- In the body of a union everything is matched for itself, as nothing is
assigned. -/
theorem mem_parts_of_union {rules : ℕ} {feature : Option String} {site : Option String × Element} :
    ∀ (e : Element), e.placed rules true = true → site ∈ e.sites feature → site.2 ∈ e.parts
  | .keyword _ _, _, hsite => by
    rw [List.mem_singleton.mp hsite]
    exact List.mem_cons_self
  | .terminal _ _, _, hsite => by
    rw [List.mem_singleton.mp hsite]
    exact List.mem_cons_self
  | .call _ _, _, hsite => by
    rw [List.mem_singleton.mp hsite]
    exact List.mem_cons_self
  | .crossRef _ _ _, hplaced, _ => by cases hplaced
  | .assign _ _ _ _, hplaced, _ => by cases hplaced
  | .seq _ items, hplaced, hsite => by
    rcases List.mem_cons.mp hsite with rfl | hsite
    · exact List.mem_cons_self
    · exact List.mem_cons_of_mem _ (mem_partsOf_of_union items hplaced hsite)
  | .alt _ items, hplaced, hsite => by
    rcases List.mem_cons.mp hsite with rfl | hsite
    · exact List.mem_cons_self
    · exact List.mem_cons_of_mem _ (mem_partsOf_of_union items hplaced hsite)
  | .repeated _ _ body, hplaced, hsite => by
    rcases List.mem_cons.mp hsite with rfl | hsite
    · exact List.mem_cons_self
    · exact List.mem_cons_of_mem _ (mem_parts_of_union body hplaced hsite)

theorem mem_partsOf_of_union {rules : ℕ} {feature : Option String}
    {site : Option String × Element} :
    ∀ (es : List Element), allPlaced rules true es = true → site ∈ sitesOf feature es →
      site.2 ∈ partsOf es
  | [], _, hsite => by cases hsite
  | e :: es, hplaced, hsite => by
    rw [allPlaced, Bool.and_eq_true] at hplaced
    rcases List.mem_append.mp hsite with hsite | hsite
    · exact List.mem_append_left _ (mem_parts_of_union e hplaced.1 hsite)
    · exact List.mem_append_right _ (mem_partsOf_of_union es hplaced.2 hsite)

end

end Element

namespace Grammar

variable {g : Grammar} {a b : String}

theorem produces_eq_iff {rule : Rule} :
    rule.produces = a ↔ rule.kind = .node a ∨ rule.kind = .union ∧ rule.name = a := by
  rw [Rule.produces]
  cases rule.kind <;> simp

theorem isUnion_iff {rule : Rule} : rule.isUnion = true ↔ rule.kind = .union := by
  rw [Rule.isUnion, beq_iff_eq]

/-- **A union passes on what a rule produces**: it is the union of the name,
and its body calls a rule that makes nodes of the type, or that is the union of
that name. -/
def Passes (g : Grammar) (type union : String) : Prop :=
  ∃ rule ∈ g.rules, rule.kind = .union ∧ rule.name = union ∧
    ∃ id index, Element.call id index ∈ rule.body.parts ∧ ∃ callee, g.rules[index]? = some callee ∧
      (callee.kind = .node type ∨ callee.kind = .union ∧ callee.name = type)

theorem mem_steps : (a, b) ∈ Types.steps g ↔ g.Passes a b := by
  rw [Types.steps, List.mem_flatMap, Passes]
  constructor
  · rintro ⟨rule, hrule, hmem⟩
    split at hmem
    next his =>
      obtain ⟨index, hindex, hsome⟩ := List.mem_filterMap.mp hmem
      obtain ⟨callee, hcallee, heq⟩ := Option.map_eq_some_iff.mp hsome
      obtain ⟨rfl, rfl⟩ := Prod.mk.inj heq
      obtain ⟨id, hid⟩ := (Element.mem_calls rule.body).mp hindex
      exact ⟨rule, Array.mem_toList_iff.mp hrule, isUnion_iff.mp his, rfl, id, index, hid, callee,
        hcallee, produces_eq_iff.mp rfl⟩
    next => cases hmem
  · rintro ⟨rule, hrule, his, rfl, id, index, hid, callee, hcallee, hkind⟩
    refine ⟨rule, Array.mem_toList_iff.mpr hrule, ?_⟩
    rw [if_pos (isUnion_iff.mpr his), List.mem_filterMap]
    refine ⟨index, (Element.mem_calls rule.body).mpr ⟨id, hid⟩, ?_⟩
    rw [hcallee, Option.map_some, produces_eq_iff.mpr hkind]

/-- What is passed on is a type of the grammar. -/
theorem mem_types_of_passes (h : g.Passes a b) : a ∈ g.types := by
  obtain ⟨-, -, -, -, -, index, -, callee, hcallee, hkind⟩ := h
  rw [Grammar.types, Types.mem_sortNames]
  exact List.mem_map.mpr ⟨callee, Array.mem_toList_iff.mpr (Array.mem_of_getElem? hcallee),
    produces_eq_iff.mpr hkind⟩

theorem lookup_supers (steps : List (String × String)) (types : List String) (type : String) :
    ((types.map fun type => (type, Types.supertypesFrom steps type)).lookup type).getD [] =
      if type ∈ types then Types.supertypesFrom steps type else [] := by
  induction types with
  | nil => rfl
  | cons first rest ih =>
    rw [List.map_cons, List.lookup_cons]
    by_cases hfirst : type = first
    · subst hfirst
      simp
    · rw [show (type == first) = false by simpa using hfirst]
      simp only [ih, List.mem_cons, hfirst, false_or]

/-- **A type is a subtype of what steps lead to from it**, none or more. -/
theorem isSubtype_iff : g.typeGraph.isSubtype a b = true ↔ Relation.ReflTransGen g.Passes a b := by
  have hrelation : (fun t u => (t, u) ∈ Types.steps g) = g.Passes := by
    funext t u
    exact propext mem_steps
  rw [TypeGraph.isSubtype, Bool.or_eq_true, beq_iff_eq, List.contains_iff_mem,
    TypeGraph.supertypes, Grammar.typeGraph]
  dsimp only
  rw [lookup_supers, Relation.reflTransGen_iff_eq_or_transGen]
  constructor
  · rintro (rfl | hmem)
    · exact Or.inl rfl
    · split at hmem
      · rw [Types.mem_supertypesFrom, hrelation] at hmem
        exact Or.inr hmem.1
      · cases hmem
  · rintro (heq | hsteps)
    · exact Or.inl heq.symm
    · by_cases heq : b = a
      · exact Or.inl heq.symm
      · obtain ⟨first, hfirst, -⟩ := (Relation.TransGen.head'_iff).mp hsteps
        rw [if_pos (mem_types_of_passes hfirst), Types.mem_supertypesFrom, hrelation]
        exact Or.inr ⟨hsteps, heq⟩

/-- **Subtypes of subtypes are subtypes.** -/
theorem isSubtype_trans {c : String} (hab : g.typeGraph.isSubtype a b = true)
    (hbc : g.typeGraph.isSubtype b c = true) : g.typeGraph.isSubtype a c = true := by
  rw [isSubtype_iff] at hab hbc ⊢
  exact hab.trans hbc

end Grammar

end Workbench
