import Workbench.Proofs.Lexeme.Munch
import Workbench.Proofs.Parse.Deeper
import Workbench.Proofs.Parse.Laid
import Workbench.Proofs.Text.Lines
import Mathlib.Algebra.BigOperators.Group.List.Basic
/-!
# Places are bounded by the text

A list gets an item only with a value that was found, and a value is a token
or the node of a call. In a grammar where every rule that is called passes a
token, no list so has more items than tokens were passed, and items record
smaller places than that (`Counted`). An attempt that fails is undone, and
what is skipped after an error only adds to the tokens. There are no more of
these than characters, so the places in a parse are less than the length of
the text.
-/

namespace Workbench

/-- A call of a rule that may match without a token. -/
def Element.isIdleCall (rules : ℕ → Bool) : Element → Bool
  | .call _ rule => rules rule
  | _ => false

/-- **Every rule that is called passes a token**, if certain rules may match
without one. -/
def Grammar.passesCalled (g : Grammar) (rules : ℕ → Bool) : Bool :=
  g.rules.all fun rule => (rule.body.sites none).all fun site => !site.2.isIdleCall rules

theorem Property.listLength_eq_zero {p : Property} (h : p = .scalar (.bool false) ∨ p = .empty) :
    p.listLength = 0 := by
  rcases h with rfl | rfl <;> rfl

namespace Parse

variable {src : Source} {rules : ℕ → Bool} {rank : ℕ → ℕ} {s s' : State} {n : NodeId}

/-- An item makes a list one longer, or starts one. -/
theorem listLength_appendItem_le (old item : Property) :
    (appendItem old item).listLength ≤ max item.listLength (old.listLength + 1) := by
  cases item <;> cases old <;> simp [appendItem, Property.listLength]

/-- A node that is told its place has the properties it had. -/
theorem propertiesOf_setContainer {ast : Array AstNode} {child container : NodeId}
    {feature : String} {index : Option ℕ} :
    State.propertiesOf { s with ast := State.setContainer ast child container feature index } n =
      State.propertiesOf { s with ast } n := by
  simp only [State.propertiesOf, State.setContainer, Array.getElem?_modify]
  split_ifs <;> cases ast[n.index]? <;> rfl

/-- **Nothing counts more than the tokens passed**: no list has more items,
and the places of items are smaller. -/
structure Counted (src : Source) (s : State) : Prop extends Quiet src s where
  node : ∀ n, s.node = some n → n.index < s.ast.size
  lists : ∀ (i : ℕ) a, s.ast[i]? = some a → ∀ name p, (name, p) ∈ a.properties.entries →
    p.listLength ≤ s.pos
  places : ∀ (i : ℕ) a, s.ast[i]? = some a → ∀ k ∈ a.containerIndex, k < s.pos

namespace Counted

/-- What else changes does not matter, and more tokens may be passed. -/
theorem congr (h : Counted src s) (hquiet : Quiet src s') (hast : s'.ast = s.ast)
    (hnode : s'.node = s.node) (hpos : s.pos ≤ s'.pos) : Counted src s' where
  toQuiet := hquiet
  node := by
    rw [hast, hnode]
    exact h.node
  lists := by
    rw [hast]
    exact fun i a ha name p hp => Nat.le_trans (h.lists i a ha name p hp) hpos
  places := by
    rw [hast]
    exact fun i a ha k hk => Nat.lt_of_lt_of_le (h.places i a ha k hk) hpos

/-- A node is told a place that was passed. -/
theorem setContainer (h : Counted src s) {child container : NodeId} {feature : String}
    {index : Option ℕ} (hindex : ∀ k ∈ index, k < s.pos) :
    Counted src { s with ast := State.setContainer s.ast child container feature index } where
  toQuiet := h.toQuiet.congr rfl rfl
  node := by
    rw [State.size_setContainer]
    exact h.node
  lists := by
    intro i a ha
    obtain ⟨old, hold, -, hproperties, -⟩ := State.setContainer_cases ha
    rw [hproperties]
    exact h.lists i old hold
  places := by
    intro i a ha
    rw [State.setContainer, Array.getElem?_modify] at ha
    split at ha
    · obtain ⟨old, -, rfl⟩ := Option.map_eq_some_iff.mp ha
      exact hindex
    · exact h.places i a ha

/-- An item is put where there is room for one more. -/
theorem put (h : Counted src s) {feature : String} {op : AssignOp} {item : Property}
    (hitem : item.listLength = 0)
    (hroom : (((s.propertiesOf n).get? feature).getD .empty).listLength < s.pos) :
    Counted src (s.put n feature op item) where
  toQuiet := h.toQuiet.congr rfl rfl
  node := by
    simp only [State.put, State.size_setProperties]
    exact h.node
  lists := by
    intro i a ha name p hp
    simp only [State.put, State.setProperties, Array.getElem?_modify] at ha
    split at ha
    · next hi =>
      obtain ⟨old, hold, rfl⟩ := Option.map_eq_some_iff.mp ha
      rcases OrderedMap.mem_insert hp with heq | hp
      · obtain ⟨-, rfl⟩ := Prod.mk.inj heq
        have hle := listLength_appendItem_le (((s.propertiesOf n).get? feature).getD .empty) item
        show Property.listLength _ ≤ s.pos
        split <;> omega
      · rw [propertiesOf_eq (hi ▸ hold)] at hp
        exact h.lists i old hold name p hp
    · exact h.lists i a ha name p hp
  places := by
    intro i a ha
    simp only [State.put, State.setProperties, Array.getElem?_modify] at ha
    split at ha
    · obtain ⟨old, hold, rfl⟩ := Option.map_eq_some_iff.mp ha
      exact h.places i old hold
    · exact h.places i a ha

/-- **A value is stored** where the lists have room for one more. -/
theorem store (h : Counted src s) {feature : String} {op : AssignOp} {value : Assigned}
    (hroom : (((s.propertiesOf n).get? feature).getD .empty).listLength < s.pos) :
    Counted src (s.store n feature op value) := by
  have hindex : ∀ k ∈ (if op = .append then
      some ((((s.propertiesOf n).get? feature).map Property.listLength).getD 0) else none),
      k < s.pos := by
    intro k hk
    obtain ⟨-, hk⟩ := Option.ite_none_right_eq_some.mp hk
    rw [← Option.some.inj hk]
    cases hget : (s.propertiesOf n).get? feature <;>
      simpa [hget, Property.listLength] using hroom
  cases value with
  | scalar value => exact h.put rfl hroom
  | node child =>
    refine (h.setContainer hindex).put rfl ?_
    rw [propertiesOf_setContainer]
    exact hroom
  | reference text leaf target =>
    refine Counted.put (s := { s with references := s.references.push _ }) ?_ rfl hroom
    exact h.congr (h.toQuiet.congr rfl rfl) rfl rfl (Nat.le_refl _)

/-- A call is opened, with a node that holds nothing yet. -/
theorem openCall (h : Counted src s) (rule : Rule) (source : ElementId) :
    Counted src (Parse.openCall rule source s.mark s) := by
  have hcases : ∀ (i : ℕ) a, (Parse.openCall rule source s.mark s).ast[i]? = some a →
      s.ast[i]? = some a ∨ a = State.newNode rule ⟨s.cst.size⟩ := by
    intro i a ha
    simp only [Parse.openCall, State.linkCst, State.pushCst] at ha
    split at ha
    · exact Or.inl ha
    · exact (getElem?_push_cases ha).symm.imp_right And.right
  refine ⟨h.toQuiet.congr rfl rfl, ?_, ?_, ?_⟩
  · intro n hn
    have hn' : ownNode rule s.mark = some n := hn
    have hsize := openCall_ast_size rule source s
    rw [ownNode] at hn'
    split at hn'
    · cases hn'
    · next hunion =>
      rw [if_neg hunion] at hsize
      obtain rfl := Option.some.inj hn'
      show s.ast.size < _
      omega
  · intro i a ha name p hp
    rcases hcases i a ha with hold | rfl
    · exact h.lists i a hold name p hp
    · rw [Property.listLength_eq_zero (newNode_entry hp)]
      exact Nat.zero_le _
  · intro i a ha
    rcases hcases i a ha with hold | rfl
    · exact h.places i a hold
    · rintro k ⟨⟩

/-- What the entry rule starts with counts nothing. -/
theorem start (src : Source) (rule : Rule) : Counted src (State.start src rule .never) := by
  refine ⟨⟨rfl, Nat.zero_le _⟩, ?_, ?_, ?_⟩
  · rintro n ⟨⟩
    exact Nat.zero_lt_one
  · intro i a ha name p hp
    obtain ⟨-, rfl⟩ := getElem?_singleton_cases ha
    exact Nat.le_of_eq (Property.listLength_eq_zero (newNode_entry hp))
  · intro i a ha
    obtain ⟨-, rfl⟩ := getElem?_singleton_cases ha
    exact nofun

end Counted

/-! ## Steps -/

/-- A token is counted as an element, with nothing to interrupt it. -/
theorem Quiet.tick {u : Unit} (h : Quiet src s) (ht : Parse.tick s = .ok (u, s')) :
    Quiet src s' := by
  rw [Parse.tick] at ht
  dsimp only at ht
  have hcounted : Quiet src { s with steps := s.steps + 1 } := h.congr rfl rfl
  split at ht
  · rw [hcounted.check] at ht
    cases ht
    exact hcounted
  · cases ht
    exact hcounted

/-- **The lists of the node that is filled have room**: all of them are
shorter than the tokens passed. -/
def Roomy (s : State) : Prop :=
  ∀ n, s.node = some n → ∀ feature,
    (((s.propertiesOf n).get? feature).getD .empty).listLength < s.pos

/-- Lists that are left alone while a token is passed have room. -/
theorem Counted.roomy (h : Counted src s) (hnode : s'.node = s.node)
    (hown : ∀ n, s.node = some n → s'.ast[n.index]? = s.ast[n.index]?) (hlt : s.pos < s'.pos) :
    Roomy s' := by
  intro n hn feature
  rw [hnode] at hn
  refine Nat.lt_of_le_of_lt ?_ hlt
  rw [State.propertiesOf, hown n hn]
  split
  · next a ha =>
    cases hget : a.properties.get? feature with
    | none => exact Nat.zero_le _
    | some p => exact h.lists n.index a ha feature p (OrderedMap.mem_of_get? hget)
  · exact Nat.zero_le _

/-- **A token that is consumed leaves room.** -/
theorem Counted.consume (h : Counted src s) {index : ℕ} {tok : Token} (source : Option ElementId)
    (hnext : s.nextSignificant src = some index) (htok : src.tokens[index]? = some tok) :
    Counted src (s.consume src index tok source) ∧ Roomy (s.consume src index tok source) := by
  have hge : s.pos ≤ index := significantFrom_ge _ _ _ hnext
  have hsame : SameAst s (s.consume src index tok source) := SameAst.consume s index tok source
  have hquiet : Quiet src (s.consume src index tok source) :=
    ⟨(interrupt_attachHidden _ s).trans h.interrupt, (Array.getElem?_eq_some_iff.mp htok).1⟩
  have hlt : s.pos < (s.consume src index tok source).pos := Nat.lt_succ_of_le hge
  exact ⟨h.congr hquiet hsame.ast hsame.node hlt.le,
    h.roomy hsame.node (fun n _ => by rw [hsame.ast]) hlt⟩

/-- What is skipped adds to the tokens. -/
theorem Counted.skipTokens (h : Counted src s) (n : ℕ) : Counted src (skipTokens src n s) := by
  have hkept : SameAst s (Parse.skipTokens src n s) ∧ s.pos ≤ (Parse.skipTokens src n s).pos :=
    skipTokens_keeps (P := fun t => SameAst s t ∧ s.pos ≤ t.pos)
      (fun _ _ _ _ _ hle h => ⟨⟨h.1.ast, h.1.references, h.1.node⟩, Nat.le_trans h.2 hle⟩)
      (fun tok h => ⟨h.1.pushLeaf tok none, h.2⟩) n ⟨SameAst.refl s, Nat.le_refl _⟩
  exact h.congr (h.toQuiet.skipTokens n) hkept.1.ast hkept.1.node hkept.2

/-- **All rounds of the entry rule keep what is counted**, if attempts do. -/
theorem Counted.recover {body : Step Bool}
    (hbody : ∀ s b s', attemptMatch body s = .ok (b, s') → Counted src s → Counted src s') :
    ∀ (n : ℕ) {s s' : State} {u : Unit}, Parse.recover src body n s = .ok (u, s') →
    Counted src s → Counted src s'
  | 0, _, _, _, h, hs => by
    obtain ⟨-, rfl⟩ := pure_ok h
    exact hs
  | n + 1, s, s', _, h, hs => by
    obtain ⟨matched, s₁, hmatch, hcases⟩ := recover_ok h
    have hs₁ := hbody s matched s₁ hmatch hs
    rcases hcases with ⟨-, -, rfl⟩ | ⟨s₂, hcheck, hcases⟩
    · exact hs₁
    · rw [hs₁.toQuiet.check] at hcheck
      cases hcheck
      have hreported : Counted src (reported src s₁) :=
        hs₁.congr (hs₁.toQuiet.congr rfl rfl) rfl rfl (Nat.le_refl _)
      rcases hcases with ⟨-, rfl⟩ | ⟨next, -, hrest⟩
      · exact hreported
      · have hskipped := hreported.skipTokens
          (min (max s₁.furthest.pos next) (src.tokens.size - 1) + 1 - s₁.pos)
        refine Counted.recover hbody n hrest ?_
        exact hskipped.congr (hskipped.toQuiet.congr rfl rfl) rfl rfl (Nat.le_refl _)

end Parse

/-! ## Tokens and texts -/

/-- A text has no more lexemes than characters. -/
theorem Lexeme.Munched.length_le {g : Grammar} {offset : ℕ} {cs : List Char} {ls : List Lexeme}
    (h : Munched g offset cs ls) : ls.length ≤ cs.length := by
  have hnonempty : ∀ k ∈ ls.map fun l => l.text.length, 1 ≤ k := by
    intro k hk
    obtain ⟨l, hl, rfl⟩ := List.mem_map.mp hk
    obtain ⟨before, after, rfl⟩ := List.append_of_mem hl
    exact List.length_pos_of_ne_nil (h.inPlace before l after rfl).nonempty
  calc ls.length = (ls.map fun l => l.text.length).length := (List.length_map _).symm
    _ ≤ (ls.map fun l => l.text.length).sum := List.length_le_sum_of_one_le _ hnonempty
    _ = (ls.flatMap Lexeme.text).length := by rw [List.length_flatMap]
    _ = cs.length := by rw [h.tiles.flatMap_text]

end Workbench
