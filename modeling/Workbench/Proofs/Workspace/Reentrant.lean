import Mathlib.Data.Finset.Basic
import Mathlib.Logic.Relation
import Workbench.Proofs.Workspace.Early
/-!
# Resolving while resolving

A provider may resolve other references of the document before it gives a
scope, and for these it is asked again. `LinkContext.Resolves` says what is
resolved then, with the set of the references in flight as it changes on the
way and with no bound. A reference in flight is not resolved before it is left,
so references are left in an order: none is left, but by an error of a cycle,
before all those it depends on. Linking is such a run, and its bound is never
reached, since the references in flight are different ones of the document.
-/

namespace Workbench

open Relation

/-! ## Paths that are closed -/

section Path

variable {α : Type} {r : α → α → Prop} {a z : α} {path : List α}

/-- On a path every place but the last leads to the next. -/
theorem exists_next_of_isChain (h : List.IsChain r (a :: (path ++ [z]))) :
    ∀ b ∈ a :: path, ∃ b' ∈ path ++ [z], r b b' := by
  induction path generalizing a with
  | nil =>
    intro b hb
    obtain rfl := List.mem_singleton.mp hb
    exact ⟨z, List.mem_singleton_self z, List.isChain_pair.mp h⟩
  | cons c rest ih =>
    obtain ⟨hac, hrest⟩ := List.isChain_cons_cons.mp h
    intro b hb
    rcases List.mem_cons.mp hb with rfl | hb
    · exact ⟨c, List.mem_cons_self, hac⟩
    · obtain ⟨b', hb', hbb'⟩ := ih hrest b hb
      exact ⟨b', List.mem_cons_of_mem c hb', hbb'⟩

/-- What has an end below it is not among things that each have one of them
below. -/
theorem not_mem_of_acc {places : List α} (hnext : ∀ b ∈ places, ∃ b' ∈ places, r b' b)
    (h : Acc r a) : a ∉ places := by
  induction h with
  | intro a _ ih =>
    intro ha
    obtain ⟨b', hb', hbelow⟩ := hnext a ha
    exact ih b' hbelow hb'

end Path

/-! ## Outcomes and dependencies -/

/-- **An outcome that carries a cycle**: the error of a cycle, or that of a
scope which failed with one. -/
def Resolution.Cyclic (r : Resolution) : Prop :=
  ∃ c : Cycle, r = .error c.message ∨ ∃ reference, r = LinkContext.scopeFailure reference c.message

/-- **A provider that resolves other references first**, any of the document,
and then gives the usual scope. -/
def ScopeProvider.Reentrant (provider : ScopeProvider) (tree : SyntaxTree) : Prop :=
  ∀ id reference, tree.reference? id = some reference →
    (provider tree id reference).verdict = .lexical ∧
      ∀ first ∈ (provider tree id reference).first, first.index < tree.references.size

namespace LinkContext

variable {cx : LinkContext} {reference : Reference}

theorem keeps_late (h : .computedScopes ≤ cx.document.state) (r : Resolution) :
    cx.keeps r = true := by
  have hnot : decide (cx.document.state < .computedScopes) = false :=
    decide_eq_false (Nat.not_lt_of_le h)
  rw [keeps, hnot, Bool.and_false, Bool.not_false]

/-- A text starts as before if something is added. -/
theorem prefix_append {a s : String} (h : a.toList <+: s.toList) (t : String) :
    a.toList <+: (s ++ t).toList := by
  rw [String.toList_append]
  exact h.trans (List.prefix_append _ _)

theorem prefix_message (c : Cycle) :
    "Cyclic reference resolution detected: ".toList <+: c.message.toList :=
  prefix_append (prefix_append (prefix_append (prefix_append (prefix_append (prefix_append
    (List.prefix_refl _) _) _) _) _) _) _

theorem not_cyclic_notFound (reference : Reference) : ¬ (notFound reference).Cyclic := by
  have hstart : ∀ message, notFound reference = .error message →
      "Could not resolve reference to ".toList <+: message.toList := by
    intro message h
    rw [← Resolution.error.inj h]
    exact prefix_append (prefix_append (prefix_append (prefix_append (List.prefix_refl _) _) _) _) _
  -- the messages start with different words
  rintro ⟨c, hcyclic⟩
  rcases hcyclic with h | ⟨reference', h⟩
  · have hboth := List.prefix_or_prefix_of_prefix (hstart _ h) (prefix_message c)
    revert hboth
    decide
  · have hboth := List.prefix_or_prefix_of_prefix (hstart _ h)
      (prefix_append (prefix_append (prefix_append (List.prefix_refl _) _) _) _)
    revert hboth
    decide

/-- What is looked up carries no cycle. -/
theorem not_cyclic_lookUp (reference : Reference) (scope : Scope) :
    ¬ (lookUp reference scope).Cyclic := by
  rw [lookUp]
  split
  · split
    · exact not_cyclic_notFound reference
    · rintro ⟨c, h | ⟨_, h⟩⟩ <;> cases h
  · split
    · rintro ⟨c, h | ⟨_, h⟩⟩ <;> cases h
    · exact not_cyclic_notFound reference

/-- The outcome of a reference, given how it went to resolve others first. -/
def outcome (cx : LinkContext) (id : RefId) (reference : Reference) : Option Cycle → Resolution
  | some cycle => scopeFailure reference cycle.message
  | none => cx.conclude reference (cx.linker.provider cx.tree id reference).verdict

theorem cyclic_outcome (id : RefId) (cycle : Cycle) :
    (cx.outcome id reference (some cycle)).Cyclic := ⟨cycle, .inr ⟨reference, rfl⟩⟩

theorem not_cyclic_outcome (h : cx.linker.provider.Reentrant cx.tree) {id : RefId}
    (hthere : cx.tree.reference? id = some reference) :
    ¬ (cx.outcome id reference none).Cyclic := by
  rw [outcome, (h id reference hthere).1]
  exact not_cyclic_lookUp reference _

/-- **One reference depends on another**: neither is resolved, and the other
one is among those that are resolved first. -/
def DependsOn (cx : LinkContext) (links : Links) (a b : RefId) : Prop :=
  ∃ reference, cx.tree.reference? a = some reference ∧
    b ∈ (cx.linker.provider cx.tree a reference).first ∧
    (links[a.index]?).join = none ∧ (links[b.index]?).join = none

end LinkContext

/-! ## Entering and leaving -/

/-- What is known while references are resolved: those in flight, and the
outcomes so far. -/
structure Resolving where
  inFlight : Finset RefId
  links : Links

namespace Resolving

variable {cx : LinkContext} {p : Resolving} {id j : RefId} {r : Resolution}

/-- What a reference is resolved to. -/
def outcome? (p : Resolving) (id : RefId) : Option Resolution := (p.links[id.index]?).join

/-- A reference begins to be resolved. -/
def enter (p : Resolving) (id : RefId) : Resolving := { p with inFlight := insert id p.inFlight }

/-- A reference is resolved. -/
def leave (p : Resolving) (cx : LinkContext) (id : RefId) (r : Resolution) : Resolving where
  inFlight := p.inFlight.erase id
  links := if cx.keeps r then p.links.setIfInBounds id.index (some r) else p.links

@[simp] theorem size_leave : (p.leave cx id r).links.size = p.links.size := by
  rw [leave]
  split
  · exact Array.size_setIfInBounds ..
  · rfl

theorem outcome?_leave_of_ne (h : j ≠ id) : (p.leave cx id r).outcome? j = p.outcome? j := by
  have hindex : id.index ≠ j.index := fun heq => h (RefId.ext_index heq.symm)
  rw [outcome?, outcome?, leave]
  split
  · rw [Array.getElem?_setIfInBounds_ne hindex]
  · rfl

theorem outcome?_leave_self (hlate : .computedScopes ≤ cx.document.state)
    (hlt : id.index < p.links.size) : (p.leave cx id r).outcome? id = some r := by
  rw [outcome?, leave, if_pos (LinkContext.keeps_late hlate r), Array.getElem?_setIfInBounds_self,
    if_pos hlt]
  rfl

/-- Entering a reference and leaving it restores what is in flight. -/
theorem inFlight_leave {p' : Resolving} (h : p'.inFlight = (p.enter id).inFlight)
    (hnew : id ∉ p.inFlight) : (p'.leave cx id r).inFlight = p.inFlight := by
  rw [leave, h]
  exact Finset.erase_insert hnew

/-- Everything known is known later. -/
def Kept (p p' : Resolving) : Prop := ∀ id r, p.outcome? id = some r → p'.outcome? id = some r

theorem Kept.trans {p' p'' : Resolving} (h : p.Kept p') (h' : p'.Kept p'') : p.Kept p'' :=
  fun id r hr => h' id r (h id r hr)

theorem Kept.leave (h : p.outcome? id = none) : p.Kept (p.leave cx id r) := by
  intro j r' hr'
  rw [outcome?_leave_of_ne, hr']
  rintro rfl
  rw [h] at hr'
  cases hr'

end Resolving

/-! ## Runs -/

namespace LinkContext

/-- **References are resolved one after the other**, up to the first cycle. -/
inductive Resolves (cx : LinkContext) : Resolving → List RefId → Option Cycle → Resolving → Prop
  /-- No reference is left. -/
  | nil (p : Resolving) : Resolves cx p [] none p
  /-- The next one is resolved already, or there is no such reference. -/
  | known {p p' : Resolving} {id : RefId} {rest : List RefId} {cycle : Option Cycle}
      (known : (p.outcome? id).isSome = true ∨ cx.tree.reference? id = none)
      (after : Resolves cx p rest cycle p') : Resolves cx p (id :: rest) cycle p'
  /-- The next one is in flight. -/
  | cyclic {p : Resolving} {id : RefId} {rest : List RefId} {reference : Reference}
      (unknown : p.outcome? id = none) (there : cx.tree.reference? id = some reference)
      (again : id ∈ p.inFlight) : Resolves cx p (id :: rest) (some (cx.cycleAt reference)) p
  /-- The next one is in flight while those that come first are resolved. A cycle
  among these becomes its outcome, and the run goes on. -/
  | computed {p p₁ p' : Resolving} {id : RefId} {rest : List RefId} {reference : Reference}
      {first cycle : Option Cycle} (unknown : p.outcome? id = none)
      (there : cx.tree.reference? id = some reference) (new : id ∉ p.inFlight)
      (before : Resolves cx (p.enter id) (cx.linker.provider cx.tree id reference).first first p₁)
      (after : Resolves cx (p₁.leave cx id (cx.outcome id reference first)) rest cycle p') :
      Resolves cx p (id :: rest) cycle p'

namespace Resolves

variable {cx : LinkContext} {p p' p₁ : Resolving} {ids rest : List RefId} {id : RefId}
  {cycle : Option Cycle}

/-- **What is in flight is restored.** -/
theorem inFlight_eq (h : cx.Resolves p ids cycle p') : p'.inFlight = p.inFlight := by
  induction h with
  | nil => rfl
  | known _ _ ih => exact ih
  | cyclic => rfl
  | computed _ _ hnew _ _ ihbefore ihafter => rw [ihafter, Resolving.inFlight_leave ihbefore hnew]

theorem size_eq (h : cx.Resolves p ids cycle p') : p'.links.size = p.links.size := by
  induction h with
  | nil => rfl
  | known _ _ ih => exact ih
  | cyclic => rfl
  | computed _ _ _ _ _ ihbefore ihafter =>
    rw [ihafter, Resolving.size_leave, ihbefore]
    rfl

/-- **There is one way to resolve references.** -/
theorem unique (h : cx.Resolves p ids cycle p') {cycle' : Option Cycle} {p'' : Resolving}
    (h' : cx.Resolves p ids cycle' p'') : cycle' = cycle ∧ p'' = p' := by
  induction h generalizing cycle' p'' with
  | nil =>
    cases h'
    exact ⟨rfl, rfl⟩
  | known hknown _ ih =>
    cases h' with
    | known _ hafter => exact ih hafter
    | cyclic hunknown hthere => simp [hunknown, hthere] at hknown
    | computed hunknown hthere => simp [hunknown, hthere] at hknown
  | cyclic hunknown hthere hagain =>
    cases h' with
    | known hknown => simp [hunknown, hthere] at hknown
    | cyclic _ hthere' =>
      rw [hthere, Option.some.injEq] at hthere'
      rw [hthere']
      exact ⟨rfl, rfl⟩
    | computed _ _ hnew => exact absurd hagain hnew
  | computed hunknown hthere hnew _ _ ihbefore ihafter =>
    cases h' with
    | known hknown => simp [hunknown, hthere] at hknown
    | cyclic _ _ hagain => exact absurd hagain hnew
    | computed _ hthere' _ hbefore hafter =>
      rw [hthere, Option.some.injEq] at hthere'
      subst hthere'
      obtain ⟨rfl, rfl⟩ := ihbefore hbefore
      exact ihafter hafter

/-- What is in flight stays unknown. -/
theorem unknown_of_mem (h : cx.Resolves p ids cycle p') (hmem : id ∈ p.inFlight)
    (hunknown : p.outcome? id = none) : p'.outcome? id = none := by
  induction h with
  | nil => exact hunknown
  | known _ _ ih => exact ih hmem hunknown
  | cyclic => exact hunknown
  | computed _ _ hnew hbefore _ ihbefore ihafter =>
    refine ihafter ?_ ?_
    · rwa [Resolving.inFlight_leave hbefore.inFlight_eq hnew]
    · rw [Resolving.outcome?_leave_of_ne (ne_of_mem_of_not_mem hmem hnew)]
      exact ihbefore (Finset.mem_insert_of_mem hmem) hunknown

/-- What comes first leaves the reference itself unknown. -/
theorem unknown_of_enter (h : cx.Resolves (p.enter id) ids cycle p')
    (hunknown : p.outcome? id = none) : p'.outcome? id = none :=
  h.unknown_of_mem (Finset.mem_insert_self _ _) hunknown

/-- **What is resolved stays resolved.** -/
theorem kept (h : cx.Resolves p ids cycle p') : p.Kept p' := by
  induction h with
  | nil => exact fun _ _ hr => hr
  | known _ _ ih => exact ih
  | cyclic => exact fun _ _ hr => hr
  | computed hunknown _ _ hbefore _ ihbefore ihafter =>
    have hunknown₁ := hbefore.unknown_of_enter hunknown
    exact Resolving.Kept.trans ihbefore (Resolving.Kept.trans (Resolving.Kept.leave hunknown₁) ihafter)

/-- One list of references after the other. -/
theorem append (h : cx.Resolves p ids none p₁) (hrest : cx.Resolves p₁ rest cycle p') :
    cx.Resolves p (ids ++ rest) cycle p' := by
  generalize hnone : none = first at h
  induction h with
  | nil => exact hrest
  | known hknown _ ih => exact .known hknown (ih hrest hnone)
  | cyclic => cases hnone
  | computed hunknown hthere hnew hbefore _ _ ihafter =>
    exact .computed hunknown hthere hnew hbefore (ihafter hrest hnone)

/-- With nothing in flight there is no cycle. -/
theorem cycle_eq_none (h : cx.Resolves p ids cycle p') (hempty : p.inFlight = ∅) :
    cycle = none := by
  induction h with
  | nil => rfl
  | known _ _ ih => exact ih hempty
  | cyclic _ _ hagain =>
    rw [hempty] at hagain
    cases hagain
  | computed _ _ hnew hbefore _ _ ihafter =>
    exact ihafter (by rw [Resolving.inFlight_leave hbefore.inFlight_eq hnew, hempty])

section Late

variable (hlate : .computedScopes ≤ cx.document.state)
  (hsize : p.links.size = cx.tree.references.size)

include hlate in
/-- A reference that is left has its outcome. -/
theorem outcome?_leave {reference : Reference} {r : Resolution}
    (h : cx.Resolves (p.enter id) ids cycle p₁)
    (hsize : p.links.size = cx.tree.references.size)
    (hthere : cx.tree.reference? id = some reference) :
    (p₁.leave cx id r).outcome? id = some r := by
  refine Resolving.outcome?_leave_self hlate ?_
  have hlt : id.index < cx.tree.references.size := (Array.getElem?_eq_some_iff.mp hthere).1
  have hsame : p₁.links.size = p.links.size := h.size_eq
  omega

include hlate hsize in
/-- **Every reference is resolved**, unless there was a cycle. -/
theorem resolved (h : cx.Resolves p ids none p') :
    ∀ id ∈ ids, id.index < cx.tree.references.size → (p'.outcome? id).isSome = true := by
  generalize hnone : none = cycle at h
  induction h with
  | nil => exact fun id hid => absurd hid List.not_mem_nil
  | @known p p' id rest cycle hknown hafter ih =>
    intro j hj hlt
    rcases List.mem_cons.mp hj with rfl | hj
    · rcases hknown with hsome | hmissing
      · obtain ⟨r, hr⟩ := Option.isSome_iff_exists.mp hsome
        rw [hafter.kept j r hr, Option.isSome_some]
      · rw [SyntaxTree.reference?, Array.getElem?_eq_getElem hlt] at hmissing
        cases hmissing
    · exact ih hsize hnone j hj hlt
  | cyclic => cases hnone
  | @computed p p₁ p' id rest reference first cycle hunknown hthere hnew hbefore hafter _ ihafter =>
    intro j hj hlt
    have hsame : p₁.links.size = p.links.size := hbefore.size_eq
    rcases List.mem_cons.mp hj with rfl | hj
    · have hleft := hbefore.outcome?_leave (r := cx.outcome j reference first) hlate hsize hthere
      rw [hafter.kept j _ hleft, Option.isSome_some]
    · exact ihafter (by rw [Resolving.size_leave, hsame, hsize]) hnone j hj hlt

variable (hreentrant : cx.linker.provider.Reentrant cx.tree) {links : Links}

include hlate hsize hreentrant in
/-- **Without a cycle of dependencies none is found**, and no outcome that is
new carries one. Each reference in flight depends on those that are resolved. -/
theorem acyclic (hacyclic : ∀ a, ¬ TransGen (cx.DependsOn links) a a)
    (h : cx.Resolves p ids cycle p') (hstart : Resolving.Kept ⟨p.inFlight, links⟩ p)
    (hway : ∀ f ∈ p.inFlight, ∀ id ∈ ids, (links[id.index]?).join = none →
      TransGen (cx.DependsOn links) f id) :
    cycle = none ∧ ∀ id r, p'.outcome? id = some r → r.Cyclic → p.outcome? id = some r := by
  have hopen : ∀ {q : Resolving} {id : RefId}, Resolving.Kept ⟨q.inFlight, links⟩ q →
      q.outcome? id = none → (links[id.index]?).join = none := by
    intro q id hkept hunknown
    refine Option.eq_none_iff_forall_ne_some.mpr fun r hr => ?_
    rw [hkept id r hr] at hunknown
    cases hunknown
  induction h with
  | nil => exact ⟨rfl, fun _ _ hr _ => hr⟩
  | known _ _ ih =>
    exact ih hsize hstart fun f hf id hid => hway f hf id (List.mem_cons_of_mem _ hid)
  | @cyclic p id rest reference hunknown hthere hagain =>
    exact absurd (hway id hagain id List.mem_cons_self (hopen hstart hunknown)) (hacyclic id)
  | @computed p p₁ p' id rest reference first cycle hunknown hthere hnew hbefore hafter ihbefore
      ihafter =>
    have hid := hopen hstart hunknown
    have hsame : p₁.links.size = p.links.size := hbefore.size_eq
    have hunknown₁ := hbefore.unknown_of_enter hunknown
    have hflight : (p₁.leave cx id (cx.outcome id reference first)).inFlight = p.inFlight :=
      Resolving.inFlight_leave hbefore.inFlight_eq hnew
    obtain ⟨rfl, hnone⟩ := ihbefore hsize hstart (by
      intro f hf b hb hbnone
      have hdepends : cx.DependsOn links id b := ⟨reference, hthere, hb, hid, hbnone⟩
      -- the way of those in flight goes on by one dependency
      rcases Finset.mem_insert.mp hf with rfl | hf
      · exact .single hdepends
      · exact (hway f hf id List.mem_cons_self hid).tail hdepends)
    have hkept : p.Kept (p₁.leave cx id (cx.outcome id reference none)) :=
      Resolving.Kept.trans hbefore.kept (Resolving.Kept.leave hunknown₁)
    obtain ⟨hcycle, hafterNone⟩ := ihafter (by rw [Resolving.size_leave, hsame, hsize])
      (fun j r hr => hkept j r (hstart j r hr)) (by
        rw [hflight]
        exact fun f hf j hj => hway f hf j (List.mem_cons_of_mem _ hj))
    refine ⟨hcycle, fun j r hr hcyclic => ?_⟩
    have hleft := hafterNone j r hr hcyclic
    by_cases hj : j = id
    · subst hj
      rw [hbefore.outcome?_leave hlate hsize hthere, Option.some.injEq] at hleft
      exact absurd (hleft ▸ hcyclic) (not_cyclic_outcome hreentrant hthere)
    · rw [Resolving.outcome?_leave_of_ne hj] at hleft
      exact hnone j r hleft hcyclic

/-- One reference depends on another, which in the end is resolved without a
cycle. -/
def Rests (cx : LinkContext) (links : Links) (final : Resolving) (b a : RefId) : Prop :=
  cx.DependsOn links a b ∧ ∃ r, final.outcome? b = some r ∧ ¬ r.Cyclic

include hlate hsize hreentrant in
/-- **What is resolved without a cycle rests** on what was so before. -/
theorem grounded {final : Resolving} (h : cx.Resolves p ids cycle p') (hfinal : p'.Kept final)
    (hground : ∀ id r, p.outcome? id = some r → (links[id.index]?).join = none → ¬ r.Cyclic →
      Acc (Rests cx links final) id) :
    ∀ id r, p'.outcome? id = some r → (links[id.index]?).join = none → ¬ r.Cyclic →
      Acc (Rests cx links final) id := by
  induction h with
  | nil => exact hground
  | known _ _ ih => exact ih hsize hfinal hground
  | cyclic => exact hground
  | @computed p p₁ p' id rest reference first cycle hunknown hthere hnew hbefore hafter ihbefore
      ihafter =>
    have hsame : p₁.links.size = p.links.size := hbefore.size_eq
    have hkept₁ : p₁.Kept final := by
      have hleave : p₁.Kept (p₁.leave cx id (cx.outcome id reference first)) :=
        Resolving.Kept.leave (hbefore.unknown_of_enter hunknown)
      exact hleave.trans (hafter.kept.trans hfinal)
    have hground₁ := ihbefore hsize hkept₁ hground
    refine ihafter (by rw [Resolving.size_leave, hsame, hsize]) hfinal fun j r hr hopen hcyclic => ?_
    by_cases hj : j = id
    · subst hj
      rw [hbefore.outcome?_leave hlate hsize hthere, Option.some.injEq] at hr
      -- the outcome carries no cycle, so all that comes first was resolved
      cases first with
      | some c => exact absurd (hr ▸ cyclic_outcome j c) hcyclic
      | none =>
        refine Acc.intro j fun b hb => ?_
        obtain ⟨⟨reference', hthere', hmem, -, hbopen⟩, r', hr', hcyclic'⟩ := hb
        rw [hthere, Option.some.injEq] at hthere'
        subst hthere'
        have hlt := (hreentrant j reference hthere).2 b hmem
        obtain ⟨r'', hr''⟩ :=
          Option.isSome_iff_exists.mp
            (resolved hlate (p := p.enter j) hsize hbefore b hmem hlt)
        have hfinal'' := hkept₁ b r'' hr''
        rw [hr', Option.some.injEq] at hfinal''
        exact hground₁ b r'' hr'' hbopen (hfinal'' ▸ hcyclic')
    · rw [Resolving.outcome?_leave_of_ne hj] at hr
      exact hground₁ j r hr hopen hcyclic

include hlate hsize hreentrant in
/-- **On a cycle of dependencies there is a reference whose outcome carries one**,
once all are resolved: else each of them would rest on the next. -/
theorem exists_cyclic (h : cx.Resolves p ids cycle p') (hall : AllResolved cx.tree p'.links)
    {a : RefId} {path : List RefId} (hpath : List.IsChain (cx.DependsOn p.links) (a :: (path ++ [a]))) :
    ∃ b ∈ a :: path, ∃ r, p'.outcome? b = some r ∧ r.Cyclic := by
  by_contra hnot
  have hnext := exists_next_of_isChain hpath
  have hresolved : ∀ b ∈ a :: path, ∃ r, p'.outcome? b = some r ∧ ¬ r.Cyclic := by
    intro b hb
    obtain ⟨_, -, reference, hthere, -⟩ := hnext b hb
    obtain ⟨r, hr⟩ := hall b.index (Array.getElem?_eq_some_iff.mp hthere).1
    exact ⟨r, hr, fun hcyclic => hnot ⟨b, hb, r, hr, hcyclic⟩⟩
  have hrests : ∀ b ∈ a :: path, ∃ b' ∈ a :: path, Rests cx p.links p' b' b := by
    intro b hb
    obtain ⟨b', hb', hdepends⟩ := hnext b hb
    have hclosed : b' ∈ a :: path := by
      rw [List.mem_append, List.mem_singleton] at hb'
      rw [List.mem_cons]
      exact hb'.symm
    exact ⟨b', hclosed, hdepends, hresolved b' hclosed⟩
  obtain ⟨_, -, _, -, -, hopen, -⟩ := hnext a List.mem_cons_self
  obtain ⟨r, hr, hcyclic⟩ := hresolved a List.mem_cons_self
  have hground := h.grounded hlate hsize hreentrant (fun _ _ hr => hr)
    (fun id r hr hopen => absurd (hopen.symm.trans hr) nofun) a r hr hopen hcyclic
  exact not_mem_of_acc hrests hground List.mem_cons_self

end Late

end Resolves

/-! ## The bound is never reached -/

variable (cx : LinkContext)

/-- **References are resolved within the bound**: those in flight are different
ones of the document, so the bound is not used up before there are none left. -/
theorem exists_resolves (n : ℕ) (inFlight : List RefId) (hnodup : inFlight.Nodup)
    (hin : ∀ id ∈ inFlight, id.index < cx.tree.references.size)
    (hn : cx.tree.references.size < n + inFlight.length) (ids : List RefId) (links : Links) :
    ∃ cycle links', resolveEach (cx.resolveTo n inFlight) ids links = (cycle, links') ∧
      cx.Resolves ⟨inFlight.toFinset, links⟩ ids cycle ⟨inFlight.toFinset, links'⟩ := by
  induction n generalizing inFlight ids links with
  | zero =>
    have hfits := length_le_of_index_lt hnodup RefId.index
      (fun _ _ _ _ hab => RefId.ext_index hab) hin
    omega
  | succ n ih =>
    induction ids generalizing links with
    | nil => exact ⟨none, links, rfl, .nil _⟩
    | cons id rest ihrest =>
      rw [resolveEach, resolveTo]
      cases hunknown : (links[id.index]?).join with
      | some r =>
        obtain ⟨cycle, links', heq, hrest⟩ := ihrest links
        exact ⟨cycle, links', heq, .known (.inl (Option.isSome_iff_exists.mpr ⟨r, hunknown⟩)) hrest⟩
      | none =>
        cases hthere : cx.tree.reference? id with
        | none =>
          obtain ⟨cycle, links', heq, hrest⟩ := ihrest links
          exact ⟨cycle, links', heq, .known (.inr hthere) hrest⟩
        | some reference =>
          dsimp only
          by_cases hagain : id ∈ inFlight
          · rw [if_pos (List.contains_iff_mem.mpr hagain)]
            exact ⟨_, links, rfl, .cyclic hunknown hthere (List.mem_toFinset.mpr hagain)⟩
          · rw [if_neg (mt List.contains_iff_mem.mp hagain)]
            have hlt : id.index < cx.tree.references.size :=
              (Array.getElem?_eq_some_iff.mp hthere).1
            obtain ⟨first, links₁, heq, hbefore⟩ := ih (id :: inFlight)
              (List.nodup_cons.mpr ⟨hagain, hnodup⟩)
              (List.forall_mem_cons.mpr ⟨hlt, hin⟩) (by rw [List.length_cons]; omega)
              (cx.linker.provider cx.tree id reference).first links
            rw [heq]
            -- leaving the reference takes it off the set as the call takes it off the list
            have hnew : id ∉ inFlight.toFinset := mt List.mem_toFinset.mp hagain
            have hleave : Resolving.leave ⟨(id :: inFlight).toFinset, links₁⟩ cx id
                (cx.outcome id reference first) = ⟨inFlight.toFinset,
                  if cx.keeps (cx.outcome id reference first) then
                    links₁.setIfInBounds id.index (some (cx.outcome id reference first))
                  else links₁⟩ := by
              rw [Resolving.leave, List.toFinset_cons, Finset.erase_insert hnew]
            obtain ⟨cycle, links', heq', hafter⟩ := ihrest
              (if cx.keeps (cx.outcome id reference first) then
                links₁.setIfInBounds id.index (some (cx.outcome id reference first)) else links₁)
            rw [List.toFinset_cons] at hbefore
            refine ⟨cycle, links', ?_, .computed hunknown hthere hnew hbefore ?_⟩
            · rw [← heq']
              cases first <;> rfl
            · rw [← List.toFinset_cons, hleave]
              exact hafter

/-- Settling a reference resolves it. -/
theorem resolves_settle (links : Links) (id : RefId) :
    cx.Resolves ⟨∅, links⟩ [id] none ⟨∅, cx.settle links id⟩ := by
  obtain ⟨cycle, links', heq, h⟩ := cx.exists_resolves (cx.tree.references.size + 1) []
    List.nodup_nil (fun _ hid => absurd hid List.not_mem_nil)
    (by rw [List.length_nil]; omega) [id] links
  obtain rfl := h.cycle_eq_none rfl
  have hsettle : cx.settle links id = links' := by
    rw [settle]
    cases hknown : (links[id.index]?).join with
    | some r =>
      rw [resolveEach, resolveTo, hknown] at heq
      exact (Prod.mk.inj heq).2
    | none =>
      rw [resolveEach] at heq
      dsimp only
      rw [resolve]
      split at heq
      next hresolve => cases heq
      next hresolve =>
        rw [hresolve]
        exact (Prod.mk.inj heq).2
  rw [hsettle]
  exact h

/-- **Settling references one after the other resolves them.** -/
theorem resolves_settles (ids : List RefId) (links : Links) :
    cx.Resolves ⟨∅, links⟩ ids none ⟨∅, ids.foldl cx.settle links⟩ := by
  induction ids generalizing links with
  | nil => exact .nil _
  | cons id rest ih => exact (cx.resolves_settle links id).append (ih _)

end LinkContext

namespace Linker

/-- **Cyclic resolution is found and comes to an end.** With a provider that
resolves any other references of the document first, linking resolves every
reference, in one run that ends with nothing in flight. What was resolved
before stays as it is. If the references that were not resolved depend on each
other without a cycle, no outcome that is new carries one; and on every cycle
of these there is a reference with an outcome that does. -/
theorem link_reentrant (l : Linker) (x : Index) (d : Document) (tree : SyntaxTree)
    (hreentrant : l.provider.Reentrant tree) (htree : d.tree? = some tree)
    (hstate : d.state = .computedScopes) (hsize : d.links.size = tree.references.size) :
    ∃ links, l.link x d .never = ({ d with links }, some .never) ∧
      (∀ cycle p, LinkContext.Resolves ⟨l, x, d, tree⟩ ⟨∅, d.links⟩
        ((List.range tree.references.size).map RefId.mk) cycle p ↔ cycle = none ∧ p = ⟨∅, links⟩) ∧
      LinkContext.AllResolved tree links ∧
      (∀ (id : RefId) r, (d.links[id.index]?).join = some r → (links[id.index]?).join = some r) ∧
      ((∀ a, ¬ TransGen (LinkContext.DependsOn ⟨l, x, d, tree⟩ d.links) a a) →
        ∀ (id : RefId) r, (d.links[id.index]?).join = none → (links[id.index]?).join = some r →
          ¬ r.Cyclic) ∧
      ∀ a path, List.IsChain (LinkContext.DependsOn ⟨l, x, d, tree⟩ d.links) (a :: (path ++ [a])) →
        ∃ b ∈ a :: path, ∃ r, (links[b.index]?).join = some r ∧ r.Cyclic := by
  let cx : LinkContext := ⟨l, x, d, tree⟩
  let ids := (List.range tree.references.size).map RefId.mk
  have hlink : l.link x d .never =
      ({ d with links := ids.foldl cx.settle d.links }, some .never) := by
    rw [link_never, linked, context?, htree]
    rfl
  have hrun : cx.Resolves ⟨∅, d.links⟩ ids none ⟨∅, ids.foldl cx.settle d.links⟩ :=
    cx.resolves_settles ids d.links
  have hlate : .computedScopes ≤ cx.document.state := Nat.le_of_eq (congrArg _ hstate.symm)
  have hall : LinkContext.AllResolved tree (ids.foldl cx.settle d.links) := by
    intro i hi
    have hmem : (⟨i⟩ : RefId) ∈ ids := List.mem_map.mpr ⟨i, List.mem_range.mpr hi, rfl⟩
    exact Option.isSome_iff_exists.mp (hrun.resolved hlate hsize ⟨i⟩ hmem hi)
  refine ⟨_, hlink, fun cycle p => ⟨hrun.unique, ?_⟩, hall, hrun.kept, fun hacyclic id r hopen hr => ?_,
    fun a path hpath => hrun.exists_cyclic hlate hsize hreentrant hall hpath⟩
  · rintro ⟨rfl, rfl⟩
    exact hrun
  · intro hcyclic
    -- nothing is in flight, and nothing else is known, at the start
    obtain ⟨-, hnew⟩ := hrun.acyclic hlate hsize hreentrant hacyclic (fun _ _ hr => hr)
      fun f hf => absurd hf (Finset.notMem_empty f)
    have hold : (d.links[id.index]?).join = some r := hnew id r hr hcyclic
    rw [hopen] at hold
    cases hold

end Linker

/-! ## Items that refer to each other -/

namespace Workspace

namespace Circular

/-- For each reference the one after it comes first, and the first after the
last. -/
def next : ScopeProvider :=
  fun tree id _ => ⟨[⟨(id.index + 1) % tree.references.size⟩], .lexical⟩

theorem reentrant_next (tree : SyntaxTree) : next.Reentrant tree := by
  intro id reference hthere
  refine ⟨rfl, fun first hfirst => ?_⟩
  obtain rfl := List.mem_singleton.mp hfirst
  have hlt : id.index < tree.references.size := (Array.getElem?_eq_some_iff.mp hthere).1
  exact Nat.mod_lt _ (Nat.zero_lt_of_lt hlt)

/-- The linker that uses it. -/
def linker : Linker := { Items.services.linker with provider := next }

/-- The index of one file. -/
def indexOf (d : Document) : Index := Index.empty.updateContent Items.first d.exported

/-- Two items that refer to each other. -/
def pair : Document := Items.documentOf Items.services.parser Items.first "a:bb:a"

/-- An item that refers to itself. -/
def loop : Document := Items.documentOf Items.services.parser Items.first "a:a"

/-- The same after its reference was asked for. -/
def asked : Document := (linker.resolve (indexOf loop) loop ⟨0⟩).2

end Circular

open Circular in
/-- The second of two references that depend on each other fails, since the
first is being resolved; that one then has its usual answer. -/
theorem link_reentrant_pair :
    pair.state = .computedScopes ∧ ∃ tree links, pair.tree? = some tree ∧
      linker.provider.Reentrant tree ∧ pair.links.size = tree.references.size ∧
      linker.link (indexOf pair) pair .never = ({ pair with links }, some .never) ∧
      (links[0]?).join = some (.single ⟨Items.first, 1, ⟨2⟩⟩) ∧
      ∃ r, (links[1]?).join = some r ∧ r.Cyclic := by
  have hstate : pair.state = .computedScopes := by decide +kernel
  have hsizes : (pair.tree?.any fun tree => tree.references.size == 2) = true := by decide +kernel
  have hopen : pair.links = #[none, none] := by decide +kernel
  have hfirst : ((linker.link (indexOf pair) pair .never).1.links[0]?).join =
      some (.single ⟨Items.first, 1, ⟨2⟩⟩) := by decide +kernel
  obtain ⟨tree, htree, htwo⟩ := (Option.any_eq_true _ _).mp hsizes
  rw [beq_iff_eq] at htwo
  have hsize : pair.links.size = tree.references.size := by rw [hopen, htwo]; rfl
  have hdepends : ∀ i j, i < 2 → j < 2 → (i + 1) % 2 = j →
      LinkContext.DependsOn ⟨linker, indexOf pair, pair, tree⟩ pair.links ⟨i⟩ ⟨j⟩ := by
    intro i j hi hj hij
    have hnone : ∀ k, k < 2 → (pair.links[k]?).join = none := by
      rw [hopen]
      decide
    have hnext : (⟨j⟩ : RefId) = ⟨(i + 1) % tree.references.size⟩ := by rw [htwo, hij]
    exact ⟨_, Array.getElem?_eq_getElem (by rwa [htwo]), List.mem_singleton.mpr hnext, hnone i hi,
      hnone j hj⟩
  obtain ⟨links, hlink, -, -, -, -, hcycles⟩ := Linker.link_reentrant linker (indexOf pair) pair tree
    (reentrant_next tree) htree hstate hsize
  rw [hlink] at hfirst
  obtain ⟨b, hb, r, hr, hcyclic⟩ := hcycles ⟨0⟩ [⟨1⟩] (List.isChain_cons_cons.mpr
    ⟨hdepends 0 1 (by decide) (by decide) rfl,
      List.isChain_pair.mpr (hdepends 1 0 (by decide) (by decide) rfl)⟩)
  refine ⟨hstate, tree, links, htree, reentrant_next tree, hsize, hlink, hfirst, r, ?_, hcyclic⟩
  rcases List.mem_cons.mp hb with rfl | hb
  · rw [hfirst, Option.some.injEq] at hr
    subst hr
    obtain ⟨c, h | ⟨_, h⟩⟩ := hcyclic <;> cases h
  · obtain rfl := List.mem_singleton.mp hb
    exact hr

open Circular in
/-- A reference that was asked for before and is resolved to the error of a
cycle keeps it, though nothing is left that could be on a cycle. -/
theorem link_reentrant_asked :
    asked.state = .computedScopes ∧ ∃ tree, asked.tree? = some tree ∧
      linker.provider.Reentrant tree ∧ asked.links.size = tree.references.size ∧
      (∀ a, ¬ TransGen (LinkContext.DependsOn ⟨linker, indexOf loop, asked, tree⟩ asked.links) a a) ∧
      ∃ r, ((linker.link (indexOf loop) asked .never).1.links[0]?).join = some r ∧ r.Cyclic := by
  have hstate : asked.state = .computedScopes := by decide +kernel
  have hfound : (asked.tree?.any fun tree => tree.references.size == 1 &&
      (tree.reference? ⟨0⟩).any fun reference =>
        let cycle : Cycle := ⟨tree.pathOf reference.container, reference.property, reference.refText⟩
        asked.links == #[some (LinkContext.scopeFailure reference cycle.message)] &&
        (linker.link (indexOf loop) asked .never).1.links == asked.links) = true := by decide +kernel
  obtain ⟨tree, htree, hone⟩ := (Option.any_eq_true _ _).mp hfound
  rw [Bool.and_eq_true, Option.any_eq_true, beq_iff_eq] at hone
  obtain ⟨hone, reference, -, hlinks⟩ := hone
  rw [Bool.and_eq_true, beq_iff_eq, beq_iff_eq] at hlinks
  obtain ⟨hasked, hlinked⟩ := hlinks
  refine ⟨hstate, tree, htree, reentrant_next tree, by rw [hasked, hone]; rfl, fun a ha => ?_, _,
    by rw [hlinked, hasked]; rfl, _, .inr ⟨reference, rfl⟩⟩
  -- the only reference is resolved
  obtain ⟨b, ⟨_, hthere, -, hopen, -⟩, -⟩ := TransGen.head'_iff.mp ha
  have hzero : a.index = 0 := by
    have hlt : a.index < tree.references.size := (Array.getElem?_eq_some_iff.mp hthere).1
    omega
  rw [hasked, hzero] at hopen
  cases hopen

end Workspace

end Workbench
