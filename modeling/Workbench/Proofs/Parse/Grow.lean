import Workbench.Proofs.Parse.Kept
/-!
# Steps only grow the tree

Whatever a step of a parse does, it leaves alone what was there before: it
adds concrete nodes, at the top level as further children of the current
composite, it adds nodes and references, and it changes the properties of
the current node (`Grown`). So going back to the mark of the state before
takes everything back, except for what was noted about failures and the
count of elements (`restore_mark`).
-/

namespace Workbench

namespace Parse

/-! ## Arenas after a change -/

theorem getElem?_push_cases {α : Type} {xs : Array α} {x y : α} {i : ℕ}
    (h : (xs.push x)[i]? = some y) : (i = xs.size ∧ y = x) ∨ xs[i]? = some y := by
  rw [Array.getElem?_push] at h
  split at h
  · next hi => exact Or.inl ⟨hi, (Option.some.inj h).symm⟩
  · exact Or.inr h

theorem getElem?_singleton_cases {α : Type} {x y : α} {i : ℕ} (h : #[x][i]? = some y) :
    i = 0 ∧ y = x := by
  obtain rfl : i = 0 := Nat.lt_one_iff.mp (Array.getElem?_eq_some_iff.mp h).1
  exact ⟨rfl, (Option.some.inj h).symm⟩

theorem getElem?_push_old {α : Type} {xs : Array α} {y : α} {i : ℕ} (h : xs[i]? = some y) (x : α) :
    (xs.push x)[i]? = some y := by
  have hlt := (Array.getElem?_eq_some_iff.mp h).1
  rw [Array.getElem?_push_lt hlt, ← Array.getElem?_eq_getElem hlt]
  exact h

namespace State

variable {ast : Array AstNode} {child container n : NodeId} {feature : String} {index : Option ℕ}

theorem size_setProperties (ast : Array AstNode) (n : NodeId) (properties : Properties) :
    (setProperties ast n properties).size = ast.size := by
  rw [setProperties, Array.size_modify]

theorem getElem?_setProperties {a : AstNode} (ha : ast[n.index]? = some a)
    (properties : Properties) (i : ℕ) : (setProperties ast n properties)[i]? =
      if n.index = i then some { a with properties } else ast[i]? := by
  rw [setProperties, Array.getElem?_modify]
  split
  · next hi => rw [← hi, ha]; rfl
  · rfl

theorem size_setContainer : (setContainer ast child container feature index).size = ast.size := by
  rw [setContainer, Array.size_modify]

theorem getElem?_setContainer_ne {i : ℕ} (h : child.index ≠ i) :
    (setContainer ast child container feature index)[i]? = ast[i]? := by
  rw [setContainer, Array.getElem?_modify, if_neg h]

/-- A node that is told its place is the same node otherwise. -/
theorem setContainer_cases {i : ℕ} {a : AstNode}
    (h : (setContainer ast child container feature index)[i]? = some a) :
    ∃ old, ast[i]? = some old ∧ a.typeName = old.typeName ∧ a.properties = old.properties ∧
      a.cstNode = old.cstNode ∧ (a.container = some container ∨ a.container = old.container) := by
  rw [setContainer, Array.getElem?_modify] at h
  split at h
  · obtain ⟨old, hold, rfl⟩ := Option.map_eq_some_iff.mp h
    exact ⟨old, hold, rfl, rfl, rfl, Or.inl rfl⟩
  · exact ⟨a, h, rfl, rfl, rfl, Or.inr rfl⟩

end State

/-! ## Growth -/

/-- **What a step may have done** to the state. -/
structure Grown (s s' : State) : Prop where
  pos : s.pos ≤ s'.pos
  composite : s'.composite = s.composite
  node : s'.node = s.node
  errors : s'.errors = s.errors
  cst_size : s.cst.size ≤ s'.cst.size
  /-- The concrete nodes outside the composite are as before. -/
  cst : ∀ i, i < s.cst.size → i ≠ s.composite.index → s'.cst[i]? = s.cst[i]?
  /-- The composite may have got further children. -/
  children : ∀ c, s.cst[s.composite.index]? = some c → ∃ more : Array CstId,
    s'.cst[s.composite.index]? = some { c with kind := c.kind.mapChildren (· ++ more) }
  ast_size : s.ast.size ≤ s'.ast.size
  /-- The other nodes are as before. -/
  ast : ∀ i, i < s.ast.size → s.node ≠ some ⟨i⟩ → s'.ast[i]? = s.ast[i]?
  /-- The node may have got other properties. -/
  own : ∀ n a, s.node = some n → s.ast[n.index]? = some a →
    ∃ properties, s'.ast[n.index]? = some { a with properties }
  /-- References may have been added. -/
  references : ∃ more, s'.references = s.references ++ more
  /-- The product is that of before, or a new node. -/
  produced : s'.produced = s.produced ∨
    ∃ p, s'.produced = some p ∧ s.ast.size ≤ p.index ∧ p.index < s'.ast.size

/-- What is known about a value that was found: nodes and leaves are new. -/
def Found (s : State) (value : Assigned) (s' : State) : Prop :=
  Grown s s' ∧ match value with
    | .scalar _ => True
    | .node n => s.ast.size ≤ n.index ∧ n.index < s'.ast.size
    | .reference _ leaf _ => leaf.index < s'.cst.size

variable {s s' s₁ s₂ s₃ : State} {src : Source}

theorem mapChildren_append (kind : CstKind) (more more' : Array CstId) :
    (kind.mapChildren (· ++ more)).mapChildren (· ++ more') =
      kind.mapChildren (· ++ (more ++ more')) := by
  cases kind <;> simp [CstKind.mapChildren]

theorem mapChildren_empty (kind : CstKind) : kind.mapChildren (· ++ #[]) = kind := by
  cases kind <;> simp [CstKind.mapChildren]

namespace Grown

theorem refl (s : State) : Grown s s where
  pos := Nat.le_refl _
  composite := rfl
  node := rfl
  errors := rfl
  cst_size := Nat.le_refl _
  cst := fun _ _ _ => rfl
  children := fun c hc => ⟨#[], by rw [mapChildren_empty]; exact hc⟩
  ast_size := Nat.le_refl _
  ast := fun _ _ _ => rfl
  own := fun _ a _ ha => ⟨a.properties, ha⟩
  references := ⟨#[], by simp⟩
  produced := Or.inl rfl

theorem trans (h₁ : Grown s₁ s₂) (h₂ : Grown s₂ s₃) : Grown s₁ s₃ where
  pos := Nat.le_trans h₁.pos h₂.pos
  composite := h₂.composite.trans h₁.composite
  node := h₂.node.trans h₁.node
  errors := h₂.errors.trans h₁.errors
  cst_size := Nat.le_trans h₁.cst_size h₂.cst_size
  cst := by
    intro i hi hne
    rw [h₂.cst i (Nat.lt_of_lt_of_le hi h₁.cst_size) (by rw [h₁.composite]; exact hne), h₁.cst i hi hne]
  children := by
    intro c hc
    obtain ⟨more, hmore⟩ := h₁.children c hc
    rw [← h₁.composite] at hmore
    obtain ⟨more', hmore'⟩ := h₂.children _ hmore
    rw [h₁.composite] at hmore'
    exact ⟨more ++ more', by rw [hmore', mapChildren_append]⟩
  ast_size := Nat.le_trans h₁.ast_size h₂.ast_size
  ast := by
    intro i hi hne
    rw [h₂.ast i (Nat.lt_of_lt_of_le hi h₁.ast_size) (by rw [h₁.node]; exact hne), h₁.ast i hi hne]
  own := by
    intro n a hn ha
    obtain ⟨properties, hp⟩ := h₁.own n a hn ha
    obtain ⟨properties', hp'⟩ := h₂.own n _ (by rw [h₁.node]; exact hn) hp
    exact ⟨properties', hp'⟩
  references := by
    obtain ⟨more, hmore⟩ := h₁.references
    obtain ⟨more', hmore'⟩ := h₂.references
    exact ⟨more ++ more', by rw [hmore', hmore, Array.append_assoc]⟩
  produced := by
    rcases h₂.produced with hsame | ⟨p, hp, hge, hlt⟩
    · rcases h₁.produced with hsame' | ⟨p, hp, hge, hlt⟩
      · exact Or.inl (hsame.trans hsame')
      · exact Or.inr ⟨p, hsame.trans hp, hge, Nat.lt_of_lt_of_le hlt h₂.ast_size⟩
    · exact Or.inr ⟨p, hp, Nat.le_trans h₁.ast_size hge, hlt⟩

end Grown

/-! ## Going back -/

theorem getElem?_shrink {α : Type} (xs : Array α) (n i : ℕ) :
    (xs.shrink n)[i]? = if i < n then xs[i]? else none := by
  rw [Array.shrink_eq_take, Array.take_eq_extract, Array.getElem?_extract]
  rcases Nat.lt_or_ge i xs.size with hi | hi
  · by_cases hn : i < n
    · rw [if_pos (by omega), if_pos hn, Nat.zero_add]
    · rw [if_neg (by omega), if_neg hn]
  · rw [if_neg (by omega), Array.getElem?_eq_none hi]
    split <;> rfl

theorem mapChildren_shrink (kind : CstKind) (more : Array CstId) :
    (kind.mapChildren (· ++ more)).mapChildren (·.shrink kind.children.size) = kind := by
  cases kind <;> simp [CstKind.mapChildren, CstKind.children, Array.shrink_eq_take]

theorem restore_cst (h : Grown s s') :
    (s'.cst.shrink s.cst.size).modify s.composite.index (fun node =>
      { node with kind := node.kind.mapChildren (·.shrink s.children.size) }) = s.cst := by
  refine Array.ext_getElem? fun i => ?_
  rw [Array.getElem?_modify, getElem?_shrink]
  rcases Nat.lt_or_ge i s.cst.size with hi | hi
  · rw [if_pos hi]
    by_cases hc : s.composite.index = i
    · subst hc
      obtain ⟨more, hmore⟩ := h.children _ (Array.getElem?_eq_getElem hi)
      have hsize : s.children.size = s.cst[s.composite.index].kind.children.size := by
        rw [State.children, Array.getElem?_eq_getElem hi]
      rw [if_pos rfl, hmore, hsize, Array.getElem?_eq_getElem hi, Option.map_some,
        mapChildren_shrink]
    · rw [if_neg hc, h.cst i hi (Ne.symm hc)]
  · rw [if_neg (Nat.not_lt.mpr hi), Array.getElem?_eq_none hi]
    split <;> rfl

theorem restore_ast (h : Grown s s') : (s'.restore s.mark).ast = s.ast := by
  have hother : ∀ i, s.node ≠ some ⟨i⟩ → (s'.ast.shrink s.ast.size)[i]? = s.ast[i]? := by
    intro i hne
    rw [getElem?_shrink]
    rcases Nat.lt_or_ge i s.ast.size with hi | hi
    · rw [if_pos hi, h.ast i hi hne]
    · rw [if_neg (Nat.not_lt.mpr hi), Array.getElem?_eq_none hi]
  refine Array.ext_getElem? fun i => ?_
  cases hn : s.node with
  | none =>
    simp only [State.restore, State.mark, hn, Option.map_none]
    exact hother i (by rw [hn]; exact nofun)
  | some n =>
    simp only [State.restore, State.mark, hn, Option.map_some, Array.getElem?_modify]
    -- the node of the call has changed in its properties only, and the mark has those
    by_cases hi : n.index = i
    · subst hi
      rw [if_pos rfl, getElem?_shrink]
      rcases Nat.lt_or_ge n.index s.ast.size with hlt | hge
      · have hget := Array.getElem?_eq_getElem hlt
        obtain ⟨properties, hp⟩ := h.own n _ hn hget
        have hprops : s.propertiesOf n = s.ast[n.index].properties := by
          rw [State.propertiesOf, hget]
        rw [if_pos hlt, hp, hget, hprops]
        rfl
      · rw [if_neg (Nat.not_lt.mpr hge), Array.getElem?_eq_none hge]
        rfl
    · rw [if_neg hi]
      refine hother i ?_
      rw [hn]
      rintro ⟨⟩
      exact hi rfl

/-- **Going back to the mark of an earlier state gives that state**, but for
the furthest failure and what counts the elements. -/
theorem restore_mark (h : Grown s s') :
    s'.restore s.mark = { s with
      furthest := s'.furthest, steps := s'.steps, interrupt := s'.interrupt } := by
  obtain ⟨more, hmore⟩ := h.references
  have hrefs : s'.references.shrink s.references.size = s.references := by
    rw [hmore, Array.shrink_eq_take]
    simp
  have hast := restore_ast h
  calc s'.restore s.mark
      = { s' with
          pos := s.pos
          ast := (s'.restore s.mark).ast
          cst := (s'.cst.shrink s.cst.size).modify s.composite.index (fun node =>
            { node with kind := node.kind.mapChildren (·.shrink s.children.size) })
          references := s'.references.shrink s.references.size
          produced := s.produced } := rfl
    _ = { s with furthest := s'.furthest, steps := s'.steps, interrupt := s'.interrupt } := by
        rw [restore_cst h, hast, hrefs, h.composite, h.node, h.errors]

/-! ## Single steps -/

namespace Grown

/-- What was noted about failures, and what counts the elements, is no part
of the tree. -/
theorem noted (s : State) (furthest : Furthest) (steps : ℕ) (interrupt : Interrupt) :
    Grown s { s with furthest, steps, interrupt } :=
  { refl s with }

theorem tick {u : Unit} (h : Parse.tick s = .ok (u, s')) : Grown s s' := by
  obtain ⟨steps, interrupt, rfl⟩ := tick_ok h
  exact noted s s.furthest steps interrupt

theorem expect (s : State) (label : String) : Grown s (s.expect src label) := by
  rw [State.expect]
  split
  · exact noted s _ s.steps s.interrupt
  · split
    · exact noted s _ s.steps s.interrupt
    · exact refl s

theorem restore (h : Grown s s') : Grown s (s'.restore s.mark) := by
  rw [restore_mark h]
  exact noted s _ _ _

/-- A concrete node is added to the composite. -/
theorem pushCst (s : State) (kind : CstKind) (source : Option ElementId) (hidden : Bool) :
    Grown s (s.pushCst kind source hidden) :=
  { refl s with
    cst_size := by
      simp only [State.pushCst, State.addChild, Array.size_modify, Array.size_push]
      omega
    cst := by
      intro i hi hne
      simp only [State.pushCst, State.addChild]
      rw [Array.getElem?_modify, if_neg (Ne.symm hne), Array.getElem?_push_lt hi,
        Array.getElem?_eq_getElem hi]
    children := by
      intro c hc
      have hlt := (Array.getElem?_eq_some_iff.mp hc).1
      refine ⟨#[s.nextCst], ?_⟩
      simp only [State.pushCst, State.addChild]
      rw [Array.getElem?_modify, if_pos rfl, Array.getElem?_push_lt hlt,
        ← Array.getElem?_eq_getElem hlt, hc, Option.map_some]
      cases hk : c.kind <;> simp [CstKind.mapChildren] }

/-- The place moves on. -/
theorem advance (s : State) {pos : ℕ} (h : s.pos ≤ pos) : Grown s { s with pos } :=
  { refl s with pos := h }

theorem attachHidden (n : ℕ) (s : State) : Grown s (s.attachHidden src n) := by
  induction n generalizing s with
  | zero => exact refl s
  | succ n ih =>
    rw [State.attachHidden]
    split
    · exact refl s
    · next tok _ =>
      dsimp only
      refine trans ?_ (ih _)
      split
      · exact trans (pushCst s _ _ _) (advance _ (Nat.le_succ _))
      · exact advance s (Nat.le_succ _)

end Grown

theorem attachHidden_pos_le (src : Source) (n : ℕ) (s : State) :
    (s.attachHidden src n).pos ≤ s.pos + n := by
  induction n generalizing s with
  | zero => exact Nat.le_refl _
  | succ n ih =>
    rw [State.attachHidden]
    split
    · omega
    · next tok _ =>
      dsimp only
      refine Nat.le_trans (ih _) ?_
      have hpos : (if tok.hidden = true then s.pushLeaf tok none else s).pos = s.pos := by
        split <;> rfl
      simp only [hpos]
      omega

/-- The next token lies ahead. -/
theorem significantFrom_ge {tokens : Array Token} :
    ∀ n i index, State.significantFrom tokens n i = some index → i ≤ index := by
  intro n
  induction n with
  | zero => intro i index h; cases h
  | succ n ih =>
    intro i index h
    rw [State.significantFrom] at h
    split at h
    · cases h
    · split at h
      · exact Nat.le_trans (Nat.le_succ i) (ih (i + 1) index h)
      · cases h
        exact Nat.le_refl _

theorem Grown.consume {index : ℕ} {tok : Token} {source : Option ElementId}
    (h : s.nextSignificant src = some index) : Grown s (s.consume src index tok source) := by
  have hge : s.pos ≤ index := significantFrom_ge _ _ _ h
  have hpos := attachHidden_pos_le src (index - s.pos) s
  have hpush : Grown s ((s.attachHidden src (index - s.pos)).pushLeaf tok source) :=
    Grown.trans (Grown.attachHidden (index - s.pos) s) (Grown.pushCst _ _ source tok.hidden)
  refine Grown.trans hpush (Grown.advance _ ?_)
  show (s.attachHidden src (index - s.pos)).pos ≤ index + 1
  omega

theorem size_pushCst (s : State) (kind : CstKind) (source : Option ElementId) (hidden : Bool) :
    (s.pushCst kind source hidden).cst.size = s.cst.size + 1 := by
  simp only [State.pushCst, State.addChild, Array.size_modify, Array.size_push]

/-- The properties of the current node are replaced. -/
theorem Grown.put (s : State) {n : NodeId} (hn : s.node = some n) (feature : String)
    (op : AssignOp) (item : Property) : Grown s (s.put n feature op item) :=
  { refl s with
    ast_size := Nat.le_of_eq (State.size_setProperties _ _ _).symm
    produced := Or.inl rfl
    ast := by
      intro i _ hne
      simp only [State.put, State.setProperties]
      rw [Array.getElem?_modify, if_neg]
      rintro rfl
      exact hne hn
    own := by
      intro n' a hn' ha
      rw [hn, Option.some.injEq] at hn'
      subst hn'
      refine ⟨(s.propertiesOf n).insert feature (if op = .append then
        appendItem (((s.propertiesOf n).get? feature).getD .empty) item else item), ?_⟩
      simp only [State.put, State.setProperties]
      rw [Array.getElem?_modify, if_pos rfl, ha]
      rfl }

/-- A new node is told where it is held. -/
theorem Grown.setContainer (h : Grown s s') {child container : NodeId} {feature : String}
    {index : Option ℕ} (hchild : s.ast.size ≤ child.index) :
    Grown s { s' with ast := State.setContainer s'.ast child container feature index } := by
  have hlook : ∀ i, i < s.ast.size →
      (State.setContainer s'.ast child container feature index)[i]? = s'.ast[i]? :=
    fun i hi => State.getElem?_setContainer_ne (by omega)
  have hsize : (State.setContainer s'.ast child container feature index).size = s'.ast.size :=
    State.size_setContainer
  exact { h with
    ast_size := by
      show s.ast.size ≤ (State.setContainer s'.ast child container feature index).size
      rw [hsize]
      exact h.ast_size
    ast := by
      intro i hi hne
      exact (hlook i hi).trans (h.ast i hi hne)
    own := by
      intro n a hn ha
      obtain ⟨properties, hp⟩ := h.own n a hn ha
      exact ⟨properties, (hlook n.index (Array.getElem?_eq_some_iff.mp ha).1).trans hp⟩
    produced := by
      rcases h.produced with hsame | ⟨p, hp, hge, hlt⟩
      · exact Or.inl hsame
      · exact Or.inr ⟨p, hp, hge, by
          show p.index < (State.setContainer s'.ast child container feature index).size
          rw [hsize]
          exact hlt⟩ }

theorem Grown.pushReference (s : State) (ref : Reference) :
    Grown s { s with references := s.references.push ref } :=
  { refl s with references := ⟨#[ref], by simp⟩ }

/-- **A value that was found is stored.** -/
theorem Found.store {n : NodeId} {feature : String} {op : AssignOp} {value : Assigned}
    (hn : s.node = some n) (h : Found s value s') : Grown s (s'.store n feature op value) := by
  obtain ⟨hgrown, hvalue⟩ := h
  have hn' : s'.node = some n := hgrown.node.trans hn
  cases value with
  | scalar value => exact Grown.trans hgrown (Grown.put s' hn' _ _ _)
  | node child =>
    refine Grown.trans (Grown.setContainer hgrown hvalue.1) (Grown.put _ ?_ _ _ _)
    exact hn'
  | reference text leaf target =>
    refine Grown.trans hgrown (Grown.trans (Grown.pushReference s' _) (Grown.put _ ?_ _ _ _))
    exact hn'

theorem size_consume_pos (src : Source) (s : State) (index : ℕ) (tok : Token)
    (source : Option ElementId) :
    0 < (s.consume src index tok source).cst.size := by
  show 0 < ((s.attachHidden src (index - s.pos)).pushLeaf tok source).cst.size
  rw [State.pushLeaf, size_pushCst]
  omega

/-- **Every step grows the tree.** -/
theorem kept_grown (src : Source) :
    Kept src (fun _ => True) (fun _ _ _ => True) Grown Found where
  refl := Grown.refl
  trans := Grown.trans
  later := by
    rintro s₁ s₂ s₃ value h ⟨hgrown, hvalue⟩
    refine ⟨h.trans hgrown, ?_⟩
    cases value with
    | scalar => trivial
    | node n => exact ⟨Nat.le_trans h.ast_size hvalue.1, hvalue.2⟩
    | reference => exact hvalue
  tick := Grown.tick
  expect := fun s label => Grown.expect s label
  consume := fun _ hnext _ => Grown.consume hnext
  scalar := by
    rintro s s' index tok id value - hnext - rfl
    exact ⟨Grown.consume hnext, trivial⟩
  reference := by
    rintro s s' index tok id target - hnext - rfl
    have hpos := size_consume_pos src s index tok (some id)
    exact ⟨Grown.consume hnext, by simp only; omega⟩
  store := fun _ => Found.store
  produce := by
    rintro s s' node ⟨hgrown, hvalue⟩
    exact { hgrown with produced := Or.inr ⟨node, rfl, hvalue⟩ }
  restore := Grown.restore

/-! ## Calls -/

theorem openCall_cst_size (rule : Rule) (source : ElementId) (s : State) :
    (openCall rule source s.mark s).cst.size = s.cst.size + 1 := by
  simp only [openCall, State.linkCst, Array.size_modify, size_pushCst]

/-- What opening a call does to the concrete nodes that are there. -/
theorem openCall_cst (rule : Rule) (source : ElementId) (s : State) {i : ℕ} (hi : i < s.cst.size) :
    (openCall rule source s.mark s).cst[i]? =
      (s.pushCst (.composite #[]) (some source) false).cst[i]? := by
  have hne : s.cst.size ≠ i := by omega
  simp only [openCall, State.linkCst, State.mark]
  rw [Array.getElem?_modify, if_neg hne]

/-- The composite of a call when it is opened. -/
theorem openCall_composite (rule : Rule) (source : ElementId)
    (hlt : s.composite.index < s.cst.size) :
    (openCall rule source s.mark s).cst[s.cst.size]? = some
      ⟨.composite #[], some s.composite, ⟨0⟩, ownNode rule s.mark, some source, false⟩ := by
  have hne : s.composite.index ≠ s.cst.size := by omega
  simp only [openCall, State.linkCst, State.pushCst, State.addChild, State.mark]
  rw [Array.getElem?_modify, if_pos rfl, Array.getElem?_modify, if_neg hne,
    Array.getElem?_push_size]
  rfl

theorem openCall_ast_size (rule : Rule) (source : ElementId) (s : State) :
    (openCall rule source s.mark s).ast.size = s.ast.size + if rule.isUnion then 0 else 1 := by
  simp only [openCall, State.linkCst, State.pushCst]
  split <;> simp

theorem openCall_ast (rule : Rule) (source : ElementId) (s : State) {i : ℕ} (hi : i < s.ast.size) :
    (openCall rule source s.mark s).ast[i]? = s.ast[i]? := by
  simp only [openCall, State.linkCst, State.pushCst]
  split
  · rfl
  · rw [Array.getElem?_push_lt hi, Array.getElem?_eq_getElem hi]

/-- The nodes of the caller are left alone. -/
theorem Grown.ast_of_call {rule : Rule} {source : ElementId}
    (h : Grown (openCall rule source s.mark s) s') {i : ℕ} (hi : i < s.ast.size) :
    s'.ast[i]? = s.ast[i]? := by
  have hsize := openCall_ast_size rule source s
  rw [h.ast i (by omega) ?_, openCall_ast rule source s hi]
  show ownNode rule s.mark ≠ some ⟨i⟩
  rw [ownNode]
  split
  · exact nofun
  · rw [Ne, Option.some.injEq, NodeId.mk.injEq]
    show s.ast.size ≠ i
    omega

/-- The concrete nodes of the caller only get the composite of the call. -/
theorem Grown.cst_of_call {rule : Rule} {source : ElementId}
    (h : Grown (openCall rule source s.mark s) s') {i : ℕ} (hi : i < s.cst.size) :
    s'.cst[i]? = (s.pushCst (.composite #[]) (some source) false).cst[i]? := by
  have hsize := openCall_cst_size rule source s
  rw [h.cst i (by omega) (by show i ≠ s.cst.size; omega), openCall_cst rule source s hi]

/-- **A call grows the tree of its caller**, whatever its body did. -/
theorem Grown.leaveCall {rule : Rule} {source : ElementId}
    (h : Grown (openCall rule source s.mark s) s') :
    Grown s { s' with composite := s.composite, node := s.node, produced := s.produced } := by
  have hsize := openCall_cst_size rule source s
  have hsize' := openCall_ast_size rule source s
  have hpush := Grown.pushCst s (.composite #[]) (some source) false
  have hcst := fun {i : ℕ} (hi : i < s.cst.size) => h.cst_of_call hi
  exact
    { pos := h.pos
      composite := rfl
      node := rfl
      errors := h.errors
      cst_size := by
        have := h.cst_size
        simp only
        omega
      cst := fun i hi hne => (hcst hi).trans (hpush.cst i hi hne)
      children := by
        intro c hc
        obtain ⟨more, hmore⟩ := hpush.children c hc
        exact ⟨more, (hcst (Array.getElem?_eq_some_iff.mp hc).1).trans hmore⟩
      ast_size := by
        have := h.ast_size
        simp only
        omega
      ast := fun i hi _ => h.ast_of_call hi
      own := by
        intro n a _ ha
        exact ⟨a.properties, (h.ast_of_call (Array.getElem?_eq_some_iff.mp ha).1).trans ha⟩
      references := h.references
      produced := Or.inl rfl }

/-- A new concrete node is linked. -/
theorem Grown.linkCst (h : Grown s s') (id : CstId) (hid : s.cst.size ≤ id.index)
    (link : Option NodeId) : Grown s (s'.linkCst id link) := by
  have hlook : ∀ i, i < s.cst.size → (s'.linkCst id link).cst[i]? = s'.cst[i]? := by
    intro i hi
    simp only [State.linkCst]
    rw [Array.getElem?_modify, if_neg (by omega)]
  exact { h with
    cst_size := by
      simp only [State.linkCst, Array.size_modify]
      exact h.cst_size
    cst := fun i hi hne => (hlook i hi).trans (h.cst i hi hne)
    children := by
      intro c hc
      obtain ⟨more, hmore⟩ := h.children c hc
      exact ⟨more, (hlook _ (Array.getElem?_eq_some_iff.mp hc).1).trans hmore⟩ }

/-- What a call that succeeds gives is new. -/
theorem product_new {rule : Rule} {source : ElementId} {node : NodeId}
    (h : Grown (openCall rule source s.mark s) s')
    (hnode : (ownNode rule s.mark).or s'.produced = some node) :
    s.ast.size ≤ node.index ∧ node.index < s'.ast.size := by
  have hsize := openCall_ast_size rule source s
  have hle := h.ast_size
  rw [ownNode] at hnode
  split at hnode
  · next hunion =>
    rw [if_pos hunion] at hsize
    rcases h.produced with hsame | ⟨p, hp, hge, hlt⟩
    · rw [hsame] at hnode
      cases hnode
    · rw [hp, Option.none_or, Option.some.injEq] at hnode
      subst hnode
      exact ⟨by omega, hlt⟩
  · next hunion =>
    rw [if_neg hunion] at hsize
    rw [Option.some_or, Option.some.injEq] at hnode
    subst hnode
    exact ⟨Nat.le_refl _, by show s.ast.size < _; omega⟩

/-- **What becomes of a call**: its product under its composite, or nothing
but what is noted about failures and counted. -/
theorem closeCall_ok {rule : Rule} {source : ElementId} {body : Step Bool} {a : Option NodeId}
    (hbody : ∀ b s₁, body (openCall rule source s.mark s) = .ok (b, s₁) →
      Grown (openCall rule source s.mark s) s₁)
    (h : closeCall rule s.mark body (openCall rule source s.mark s) = .ok (a, s')) :
    (∃ s₁ node, body (openCall rule source s.mark s) = .ok (true, s₁) ∧
      (ownNode rule s.mark).or s₁.produced = some node ∧ a = some node ∧
      s' = { s₁ with
        composite := s.composite, node := s.node, produced := s.produced }.linkCst
          ⟨s.cst.size⟩ (some node)) ∨
    (∃ s₁ b, body (openCall rule source s.mark s) = .ok (b, s₁) ∧ a = none ∧ s' = { s with
      furthest := s₁.furthest, steps := s₁.steps, interrupt := s₁.interrupt }) := by
  have hnode : s.mark.node.map Prod.fst = s.node := by
    simp only [State.mark, Option.map_map]
    cases s.node <;> rfl
  rw [closeCall] at h
  split at h
  · cases h
  · next matched s₁ hrun =>
    simp only [hnode] at h
    -- a call that gives nothing is undone to the mark of the caller
    have hgrown := Grown.leaveCall (hbody matched s₁ hrun)
    split at h
    · next node hproduct =>
      cases h
      exact Or.inl ⟨s₁, node, hrun, hproduct, rfl, rfl⟩
    · simp only [Except.ok.injEq, Prod.mk.injEq] at h
      refine Or.inr ⟨s₁, _, hrun, h.1.symm, ?_⟩
      rw [← h.2]
      exact restore_mark hgrown

/-- Elements grow the tree if the calls in them do. -/
theorem Grown.elementOf {call : Call} (hcall : KeptBy (fun _ => True) Grown Found call)
    {e : Element} {b : Bool} (h : Parse.element src call e s = .ok (b, s')) : Grown s s' :=
  (kept_grown src).element hcall e (fun _ _ => trivial) (fun _ _ _ _ => trivial) s b s' h

/-- **Calls grow the tree.** -/
theorem keptBy_callRule (src : Source) (depth : ℕ) :
    KeptBy (fun _ => True) Grown Found (callRule src depth) := by
  induction depth with
  | zero =>
    intro id index s a s' _ h
    rw [callRule, goOn] at h
    cases h
  | succ depth ih =>
    intro id index s a s' _ h
    rw [callRule] at h
    dsimp only at h
    split at h
    · cases h
      exact ⟨Grown.refl s, nofun⟩
    · next rule hrule =>
      have hbody : ∀ b s₁, Parse.element src (callRule src depth) rule.body
          (openCall rule id s.mark s) = .ok (b, s₁) → Grown (openCall rule id s.mark s) s₁ :=
        fun _ _ => Grown.elementOf ih
      rcases closeCall_ok hbody h with ⟨s₁, node, hrun, hproduct, rfl, rfl⟩ | ⟨s₁, b, hrun, rfl, rfl⟩
      · have hgrown := hbody true s₁ hrun
        have hcall := (Grown.leaveCall hgrown).linkCst ⟨s.cst.size⟩ (Nat.le_refl _) (some node)
        refine ⟨hcall, ?_⟩
        rintro _ ⟨⟩
        have hnew := product_new hgrown hproduct
        exact ⟨hcall, hnew⟩
      · exact ⟨Grown.noted s _ _ _, nofun⟩

/-- **Elements grow the tree.** -/
theorem Grown.element {depth : ℕ} {e : Element} {b : Bool}
    (h : Parse.element src (callRule src depth) e s = .ok (b, s')) : Grown s s' :=
  Grown.elementOf (keptBy_callRule src depth) h

/-- **What a call does**: nothing if there is no such rule; else its body is run
on the opened call, and then it is left with its product, or undone. -/
theorem callRule_ok {depth : ℕ} {id : ElementId} {index : ℕ} {a : Option NodeId}
    (h : callRule src depth id index s = .ok (a, s')) :
    (a = none ∧ s' = s) ∨
    ∃ below rule s₁ b, depth = below + 1 ∧ src.grammar.rules[index]? = some rule ∧
      Parse.element src (callRule src below) rule.body (openCall rule id s.mark s) = .ok (b, s₁) ∧
      Grown (openCall rule id s.mark s) s₁ ∧
      ((∃ node, b = true ∧ (ownNode rule s.mark).or s₁.produced = some node ∧ a = some node ∧
        s' = { s₁ with
          composite := s.composite, node := s.node, produced := s.produced }.linkCst
            ⟨s.cst.size⟩ (some node)) ∨
      (a = none ∧ s' = { s with
        furthest := s₁.furthest, steps := s₁.steps, interrupt := s₁.interrupt })) := by
  cases depth with
  | zero =>
    rw [callRule, goOn] at h
    cases h
  | succ below =>
    rw [callRule] at h
    dsimp only at h
    split at h
    · cases h
      exact Or.inl ⟨rfl, rfl⟩
    · next rule hrule =>
      have hbody : ∀ b s₁, Parse.element src (callRule src below) rule.body
          (openCall rule id s.mark s) = .ok (b, s₁) → Grown (openCall rule id s.mark s) s₁ :=
        fun _ _ => Grown.element
      rcases closeCall_ok hbody h with ⟨s₁, node, hrun, hproduct, ha, hs'⟩ | ⟨s₁, b, hrun, ha, hs'⟩
      · exact Or.inr ⟨below, rule, s₁, true, rfl, hrule, hrun, hbody _ _ hrun,
          Or.inl ⟨node, rfl, hproduct, ha, hs'⟩⟩
      · exact Or.inr ⟨below, rule, s₁, b, rfl, hrule, hrun, hbody _ _ hrun, Or.inr ⟨ha, hs'⟩⟩

/-- An attempt that fails has done nothing but note failures and count. -/
theorem attemptMatch_false {step : Step Bool}
    (hstep : ∀ s b s', step s = .ok (b, s') → Grown s s')
    (h : attemptMatch step s = .ok (false, s')) :
    ∃ furthest steps interrupt, s' = { s with furthest, steps, interrupt } := by
  obtain ⟨s₁, hs, rfl⟩ := attemptMatch_isFalse h
  exact ⟨s₁.furthest, s₁.steps, s₁.interrupt, restore_mark (hstep s _ _ hs)⟩

end Parse

end Workbench
