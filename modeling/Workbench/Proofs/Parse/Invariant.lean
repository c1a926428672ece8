import Workbench.Proofs.Parse.Grow
/-!
# Invariants of a parse

Much of what is right about a state of a parse is kept for the same reason:
attempts that fail are taken back altogether (`restore_mark`), so only a few
changes remain that can touch it. Tokens are consumed, values are stored,
nodes are produced, and calls are opened and left. An `Invariant` says that
each of them keeps a property of the state; then the whole interpreter does,
and with the leaves of skipped and trailing tokens so does a whole parse.
-/

namespace Workbench

namespace Parse

variable {src : Source} {Known : ElementId → Prop} {P : State → Prop}
variable {V : State → Assigned → Prop} {s s' : State}

/-- The state of the caller after a call with a product. -/
def State.leave (s s' : State) (node : NodeId) : State :=
  { s' with composite := s.composite, node := s.node, produced := s.produced }.linkCst
    ⟨s.cst.size⟩ (some node)

/-- **What keeps a property of the state.** `V` is what is known in addition
about a value that was found, until it is stored or produced. -/
structure Invariant (src : Source) (Known : ElementId → Prop) (P : State → Prop)
    (V : State → Assigned → Prop) : Prop where
  /-- What is noted does not matter. -/
  noted : ∀ {s} furthest steps interrupt, P s → P { s with furthest, steps, interrupt }
  consume : ∀ {s index tok id}, Known id → s.nextSignificant src = some index →
    src.tokens[index]? = some tok → P s → P (s.consume src index tok (some id))
  scalar : ∀ {s value}, P s → V s (.scalar value)
  reference : ∀ {s s' index tok id target}, Known id → s.nextSignificant src = some index →
    src.tokens[index]? = some tok → s' = s.consume src index tok (some id) → P s →
    V s' (.reference tok.text ⟨s'.cst.size - 1⟩ target)
  store : ∀ {s s' n feature op value}, s.node = some n → Found s value s' → P s → P s' →
    V s' value → P (s'.store n feature op value)
  produce : ∀ {s s' n}, Found s (.node n) s' → P s' → V s' (.node n) →
    P { s' with produced := some n }
  openCall : ∀ {s rule id}, Known id → P s → P (openCall rule id s.mark s)
  leaveCall : ∀ {s s' rule id node}, Grown (Parse.openCall rule id s.mark s) s' → P s → P s' →
    (ownNode rule s.mark).or s'.produced = some node →
    P (s.leave s' node) ∧ V (s.leave s' node) (.node node)

namespace Invariant

theorem tick (h : Invariant src Known P V) {u : Unit} (ht : Parse.tick s = .ok (u, s')) (hs : P s) :
    P s' := by
  obtain ⟨steps, interrupt, rfl⟩ := tick_ok ht
  exact h.noted (s := s) s.furthest steps interrupt hs

theorem expect (h : Invariant src Known P V) (label : String) (hs : P s) :
    P (s.expect src label) := by
  rw [State.expect]
  split
  · exact h.noted _ s.steps s.interrupt hs
  · split
    · exact h.noted _ s.steps s.interrupt hs
    · exact hs

/-- Every step keeps an invariant. -/
theorem kept (h : Invariant src Known P V) :
    Kept src Known (fun _ _ _ => True) (fun s s' => Grown s s' ∧ (P s → P s'))
      (fun s value s' => Found s value s' ∧ (P s → P s' ∧ V s' value)) where
  refl := fun s => ⟨Grown.refl s, id⟩
  trans := fun h₁ h₂ => ⟨h₁.1.trans h₂.1, h₂.2 ∘ h₁.2⟩
  later := fun h₁ h₂ => ⟨(kept_grown src).later h₁.1 h₂.1, h₂.2 ∘ h₁.2⟩
  tick := fun ht => ⟨Grown.tick ht, h.tick ht⟩
  expect := fun s label => ⟨Grown.expect s label, h.expect label⟩
  consume := fun hid hnext htok => ⟨Grown.consume hnext, h.consume hid hnext htok⟩
  scalar := by
    rintro s s' index tok id value hid hnext htok rfl
    refine ⟨(kept_grown src).scalar trivial hnext htok rfl, fun hs => ?_⟩
    have hs' := h.consume hid hnext htok hs
    exact ⟨hs', h.scalar hs'⟩
  reference := by
    intro s s' index tok id target hid hnext htok hs'
    refine ⟨(kept_grown src).reference trivial hnext htok hs', fun hs => ?_⟩
    refine ⟨?_, h.reference hid hnext htok hs' hs⟩
    rw [hs']
    exact h.consume hid hnext htok hs
  store := by
    rintro s s' n feature op value - hn ⟨hfound, hgives⟩
    refine ⟨hfound.store hn, fun hs => ?_⟩
    obtain ⟨hs', hvalue⟩ := hgives hs
    exact h.store hn hfound hs hs' hvalue
  produce := by
    rintro s s' n ⟨hfound, hgives⟩
    refine ⟨(kept_grown src).produce hfound, fun hs => ?_⟩
    obtain ⟨hs', hvalue⟩ := hgives hs
    exact h.produce hfound hs' hvalue
  restore := by
    rintro s s' ⟨hgrown, -⟩
    refine ⟨hgrown.restore, fun hs => ?_⟩
    rw [restore_mark hgrown]
    exact h.noted _ _ _ hs

/-- Calls keep an invariant. -/
theorem keptBy_callRule (h : Invariant src Known P V)
    (hknown : ∀ rule ∈ src.grammar.rules, ∀ id ∈ rule.body.ids, Known id) (depth : ℕ) :
    KeptBy Known (fun s s' => Grown s s' ∧ (P s → P s'))
      (fun s value s' => Found s value s' ∧ (P s → P s' ∧ V s' value)) (callRule src depth) := by
  induction depth using Nat.strongRecOn with
  | _ depth ih =>
    intro id index s a s' hid hcall
    have hgrown := Parse.keptBy_callRule src depth id index s a s' trivial hcall
    rcases callRule_ok hcall with ⟨rfl, rfl⟩ | ⟨below, rule, s₁, b, rfl, hrule, hrun, -, hcases⟩
    · exact ⟨⟨Grown.refl s', fun hs => hs⟩, by simp⟩
    · obtain ⟨hgrown₁, hkeeps⟩ := h.kept.element (ih below (Nat.lt_succ_self below)) rule.body
        (hknown rule (Array.mem_of_getElem? hrule)) (fun _ _ _ _ => trivial) _ _ _ hrun
      rcases hcases with ⟨node, -, hproduct, rfl, rfl⟩ | ⟨rfl, rfl⟩
      · have hleave := fun hs : P s =>
          h.leaveCall hgrown₁ hs (hkeeps (h.openCall hid hs)) hproduct
        refine ⟨⟨hgrown.1, fun hs => (hleave hs).1⟩, ?_⟩
        rintro _ ⟨⟩
        exact ⟨hgrown.2 node rfl, hleave⟩
      · exact ⟨⟨hgrown.1, fun hs => h.noted _ _ _ hs⟩, by simp⟩

/-- An attempt at an element keeps an invariant. -/
theorem attemptMatch (h : Invariant src Known P V)
    (hknown : ∀ rule ∈ src.grammar.rules, ∀ id ∈ rule.body.ids, Known id) {depth : ℕ} {e : Element}
    (he : ∀ id ∈ e.ids, Known id) {b : Bool}
    (hmatch : Parse.attemptMatch (element src (callRule src depth) e) s = .ok (b, s')) :
    Grown s s' ∧ (P s → P s') :=
  h.kept.attemptMatch
    (h.kept.element (h.keptBy_callRule hknown depth) e he fun _ _ _ _ => trivial) hmatch

/-- **A whole parse keeps an invariant** that has nothing to do with places
and errors, if leaves that come of no element keep it. -/
theorem entry (h : Invariant src Known P V)
    (hknown : ∀ rule ∈ src.grammar.rules, ∀ id ∈ rule.body.ids, Known id) {rule : Rule}
    (hrule : ∀ id ∈ rule.body.ids, Known id)
    (hplace : ∀ {s : State} pos furthest steps interrupt errors, P s →
      P { s with pos, furthest, steps, interrupt, errors })
    (hleaf : ∀ {s : State} tok, P s → P (s.pushLeaf tok none)) {u : Unit}
    (hentry : Parse.entry src rule s = .ok (u, s')) (hs : P s) : P s' :=
  entry_keeps (fun pos furthest steps interrupt errors _ => hplace pos furthest steps interrupt errors)
    hleaf (fun _ _ _ hmatch => (h.attemptMatch hknown hrule hmatch).2) hentry hs

end Invariant

end Parse

end Workbench
