import Workbench.Proofs.Parse.Lossless
import Workbench.Proofs.Parse.Recovery
import Workbench.Proofs.Parse.Sound
/-!
# Where concrete nodes come from

The interpreter passes the numbers of elements on without looking them up. What
they stand for is said here by the elements themselves: a leaf that was matched
comes from an element that asks for a token of its kind, and a composite from a
call of the rule that was run for it; both are in the body of the rule that was
run for their container (`Sourced`). Steps leave alone what closed calls have
made, so the runs can be pointed at in the tree that is parsed in the end
(`Ran`).
-/

namespace Workbench

namespace Parse

variable {src : Source} {rule rule' : Rule} {s s' s₁ s₂ s₃ : State} {t t₁ t₂ t₃ : SyntaxTree}
variable {m n i : ℕ} {c : CstId} {node : CstNode}

/-- The tree so far. -/
def State.tree (s : State) : SyntaxTree := ⟨s.ast, s.cst, s.references, ⟨0⟩, ⟨0⟩⟩

/-! ## Trees that go on -/

theorem map_typeName_modify {f : AstNode → AstNode} (hf : ∀ a, (f a).typeName = a.typeName)
    (xs : Array AstNode) (k : ℕ) :
    (xs.modify k f).map AstNode.typeName = xs.map AstNode.typeName := by
  refine Array.ext_getElem? fun i => ?_
  rw [Array.getElem?_map, Array.getElem?_map, Array.getElem?_modify]
  split
  · cases xs[i]? with
    | none => rfl
    | some a => exact congrArg some (hf a)
  · rfl

/-- Nodes keep their types when something is stored. -/
theorem map_typeName_store (s : State) (n : NodeId) (feature : String) (op : AssignOp)
    (value : Assigned) :
    (s.store n feature op value).ast.map AstNode.typeName = s.ast.map AstNode.typeName := by
  have hput : ∀ (s : State) item,
      (s.put n feature op item).ast.map AstNode.typeName = s.ast.map AstNode.typeName := by
    intro s item
    simp only [State.put, State.setProperties]
    exact map_typeName_modify (by exact fun _ => rfl) _ _
  cases value with
  | scalar value => exact hput s _
  | reference text leaf target => exact hput _ _
  | node child =>
    simp only [State.store, hput, State.setContainer]
    exact map_typeName_modify (by exact fun _ => rfl) _ _

/-- **A tree goes on in another one**: the concrete nodes from `m` on are there
as they were, and the nodes are of the types that they had. -/
structure Extends (m : ℕ) (t t' : SyntaxTree) : Prop where
  cst_size : t.cst.size ≤ t'.cst.size
  ast_size : t.ast.size ≤ t'.ast.size
  cst : ∀ i, m ≤ i → i < t.cst.size → t'.cst[i]? = t.cst[i]?
  types : ∀ i, i < t.ast.size → t'.ast[i]?.map AstNode.typeName = t.ast[i]?.map AstNode.typeName

namespace Extends

theorem refl (m : ℕ) (t : SyntaxTree) : Extends m t t :=
  ⟨Nat.le_refl _, Nat.le_refl _, fun _ _ _ => rfl, fun _ _ => rfl⟩

theorem trans (h : Extends m t₁ t₂) (h' : Extends m t₂ t₃) : Extends m t₁ t₃ where
  cst_size := Nat.le_trans h.cst_size h'.cst_size
  ast_size := Nat.le_trans h.ast_size h'.ast_size
  cst i hm hi := (h'.cst i hm (Nat.lt_of_lt_of_le hi h.cst_size)).trans (h.cst i hm hi)
  types i hi := (h'.types i (Nat.lt_of_lt_of_le hi h.ast_size)).trans (h.types i hi)

/-- Less has to be as it was. -/
theorem mono (h : Extends m t t₁) (hle : m ≤ n) : Extends n t t₁ :=
  { h with cst := fun i hn hi => h.cst i (Nat.le_trans hle hn) hi }

/-- Steps only change the composite that is open, which lies before. -/
theorem of_grown (h : Grown s s') (hm : s.composite.index < m) : Extends m s.tree s'.tree where
  cst_size := h.cst_size
  ast_size := h.ast_size
  cst i hi hlt := h.cst i hlt (by omega)
  types i hi := by
    show s'.ast[i]?.map AstNode.typeName = s.ast[i]?.map AstNode.typeName
    by_cases hn : s.node = some ⟨i⟩
    · have hlook : s.ast[i]? = some s.ast[i] := Array.getElem?_eq_getElem hi
      obtain ⟨properties, hprops⟩ := h.own ⟨i⟩ _ hn hlook
      rw [hprops, hlook]
      rfl
    · rw [h.ast i hi hn]

/-- What is stored changes no types. -/
theorem store (s : State) (n : NodeId) (feature : String) (op : AssignOp) (value : Assigned) :
    Extends m s.tree (s.store n feature op value).tree := by
  have hcst : (s.store n feature op value).cst = s.cst := cst_store _ _ _ _ _
  have htypes := map_typeName_store s n feature op value
  have hsize := congrArg Array.size htypes
  rw [Array.size_map, Array.size_map] at hsize
  refine ⟨Nat.le_of_eq (congrArg Array.size hcst).symm, Nat.le_of_eq hsize.symm, ?_, ?_⟩
  · intro i _ _
    exact congrArg (·[i]?) hcst
  · intro i _
    rw [← Array.getElem?_map, ← Array.getElem?_map]
    exact congrArg (·[i]?) htypes

/-- A link only changes its own concrete node. -/
theorem linkCst (s : State) (id : CstId) (link : Option NodeId) (hm : id.index < m) :
    Extends m s.tree (s.linkCst id link).tree where
  cst_size := Nat.le_of_eq Array.size_modify.symm
  ast_size := Nat.le_refl _
  cst i hi _ := by
    show (s.cst.modify id.index _)[i]? = _
    rw [Array.getElem?_modify, if_neg (by omega)]
    rfl
  types _ _ := rfl

end Extends

/-! ## Runs of rules -/

/-- **A rule was run for a concrete node**: a call has made the node, and what
the call has left goes on in the tree. -/
def Ran (src : Source) (t : SyntaxTree) (c : CstId) (id : ElementId) (index : ℕ) : Prop :=
  ∃ depth s n s', callRule src depth id index s = .ok (some n, s') ∧ s.nextCst = c ∧
    Extends c.index s'.tree t

theorem Ran.mono {id : ElementId} {index : ℕ} (h : Ran src t c id index) (hle : m ≤ c.index)
    (hext : Extends m t t₁) : Ran src t₁ c id index := by
  obtain ⟨depth, s, n, s', hcall, hc, hleft⟩ := h
  exact ⟨depth, s, n, s', hcall, hc, hleft.trans (hext.mono hle)⟩

/-- The rule of a run is there. -/
theorem Ran.exists_rule {id : ElementId} {index : ℕ} (h : Ran src t c id index) :
    ∃ rule, src.grammar.rules[index]? = some rule := by
  obtain ⟨_, _, _, _, hcall, -, -⟩ := h
  rcases callRule_ok hcall with ⟨hnone, -⟩ | ⟨_, rule, _, _, -, hrule, -⟩
  · cases hnone
  · exact ⟨rule, hrule⟩

/-- A leaf is not a composite. -/
theorem leaf?_eq_none (h : node.isLeaf = false) : node.leaf? = none := by
  rw [CstNode.isLeaf] at h
  rw [CstNode.leaf?]
  cases hkind : node.kind with
  | leaf => rw [hkind] at h; cases h
  | composite => rfl
  | root => rfl

/-- **What a concrete node comes from** in the body of a rule. -/
inductive Origin (src : Source) (rule : Rule) (t : SyntaxTree) (c : CstId) (node : CstNode) : Prop
  /-- A token was matched by an element that asks for its kind. -/
  | token {feature : Option String} {e : Element} {tok : Token} :
      (feature, e) ∈ rule.body.sites none → e.single? = some tok.kind → tok ∈ src.tokens →
      tok.hidden = false → node.source = some e.id → node.leaf? = some tok.leaf →
      Origin src rule t c node
  /-- A rule was run by a call. -/
  | call {feature : Option String} {id : ElementId} {index : ℕ} :
      (feature, .call id index) ∈ rule.body.sites none → Ran src t c id index →
      node.source = some id → node.isLeaf = false → Origin src rule t c node
  /-- A token was passed that no element asks for. -/
  | passed {tok : Token} : node.source = none → node.leaf? = some tok.leaf →
      Origin src rule t c node

/-- A composite comes from a call. -/
theorem Origin.of_composite (h : Origin src rule t c node) (hcomposite : node.isLeaf = false) :
    ∃ feature id index, (feature, .call id index) ∈ rule.body.sites none ∧
      Ran src t c id index ∧ node.source = some id := by
  cases h with
  | token _ _ _ _ _ hleaf =>
    rw [leaf?_eq_none hcomposite] at hleaf
    cases hleaf
  | call hsite hran hsource _ => exact ⟨_, _, _, hsite, hran, hsource⟩
  | passed _ hleaf =>
    rw [leaf?_eq_none hcomposite] at hleaf
    cases hleaf

theorem Origin.mono (h : Origin src rule t c node) (hle : m ≤ c.index) (hext : Extends m t t₁) :
    Origin src rule t₁ c node := by
  cases h with
  | token hsite hkind htok hhidden hsource hleaf =>
    exact .token hsite hkind htok hhidden hsource hleaf
  | call hsite hran hsource hleaf => exact .call hsite (hran.mono hle hext) hsource hleaf
  | passed hsource hleaf => exact .passed hsource hleaf

/-- **Every concrete node from `m` on comes from the rule that was run for its
container.** For the current composite, this is the rule that is being run. -/
def Sourced (src : Source) (rule : Rule) (current : CstId) (m : ℕ) (t : SyntaxTree) : Prop :=
  ∀ i node, m ≤ i → t.cst[i]? = some node → ∃ p rule', node.container = some p ∧
    Origin src rule' t ⟨i⟩ node ∧
    (p = current ∧ rule' = rule ∨
      m ≤ p.index ∧ ∃ id index, Ran src t p id index ∧ src.grammar.rules[index]? = some rule')

/-- Concrete nodes that are there already may have been made before. -/
theorem Sourced.extend {current : CstId} (h : Sourced src rule current m t)
    (hext : Extends m t t₁) (hm : m ≤ n)
    (hnew : ∀ i node, t.cst.size ≤ i → t₁.cst[i]? = some node → ∃ p rule',
      node.container = some p ∧ Origin src rule' t₁ ⟨i⟩ node ∧
      (p = current ∧ rule' = rule ∨
        n ≤ p.index ∧ ∃ id index, Ran src t₁ p id index ∧
          src.grammar.rules[index]? = some rule')) :
    Sourced src rule current m t₁ := by
  intro i node hi hnode
  rcases Nat.lt_or_ge i t.cst.size with hlt | hge
  · rw [hext.cst i hi hlt] at hnode
    obtain ⟨p, rule', hp, horigin, hruns⟩ := h i node hi hnode
    refine ⟨p, rule', hp, horigin.mono hi hext, hruns.imp_right ?_⟩
    rintro ⟨hle, id, index, hran, hrule⟩
    exact ⟨hle, id, index, hran.mono hle hext, hrule⟩
  · obtain ⟨p, rule', hp, horigin, hruns⟩ := hnew i node hge hnode
    exact ⟨p, rule', hp, horigin, hruns.imp_right fun h => ⟨Nat.le_trans hm h.1, h.2⟩⟩

/-! ## Steps -/

/-- **What a step adds for a rule** that is being run: it comes from that rule,
or from those that are called. -/
structure Traced (src : Source) (rule : Rule) (s s' : State) : Prop where
  grown : Grown s s'
  sourced : s.composite.index < s.cst.size →
    Sourced src rule s.composite s.cst.size s'.tree

/-- More is added to what was added. -/
theorem Sourced.step (h : Sourced src rule s.composite m s.tree) (hm : s.composite.index < m)
    (hle : m ≤ s.cst.size) (hstep : Traced src rule s s') :
    Sourced src rule s.composite m s'.tree :=
  h.extend (.of_grown hstep.grown hm) hle (hstep.sourced (Nat.lt_of_lt_of_le hm hle))

namespace Traced

/-- Nothing is added. -/
theorem of_cst (h : Grown s s') (hcst : s'.cst = s.cst) : Traced src rule s s' where
  grown := h
  sourced _ i node hi hnode := by
    have hlook : s.cst[i]? = some node := hcst ▸ hnode
    have := (Array.getElem?_eq_some_iff.mp hlook).1
    omega

theorem refl (s : State) : Traced src rule s s := of_cst (.refl s) rfl

theorem trans (h : Traced src rule s₁ s₂) (h' : Traced src rule s₂ s₃) :
    Traced src rule s₁ s₃ where
  grown := h.grown.trans h'.grown
  sourced hlt := by
    have hsame := h.grown.composite
    have hsourced := h.sourced hlt
    rw [← hsame] at hsourced hlt ⊢
    exact hsourced.step hlt h.grown.cst_size h'

/-- What else becomes of the state does not matter. -/
theorem of_extends (h : Traced src rule s s₁) (hgrown : Grown s s')
    (hext : Extends s.cst.size s₁.tree s'.tree) (hcst : s'.cst = s₁.cst) :
    Traced src rule s s' where
  grown := hgrown
  sourced hlt := (h.sourced hlt).extend hext (Nat.le_refl _) fun i node hi hnode => by
    have hlook : s₁.cst[i]? = some node := hcst ▸ hnode
    exact absurd (Array.getElem?_eq_some_iff.mp hlook).1 (Nat.not_lt.mpr hi)

/-- A leaf is added to the composite. -/
theorem pushLeaf (s : State) (tok : Token) (source : Option ElementId)
    (horigin : ∀ node : CstNode, node.source = source → node.leaf? = some tok.leaf →
      Origin src rule (s.pushLeaf tok source).tree ⟨s.cst.size⟩ node) :
    Traced src rule s (s.pushLeaf tok source) where
  grown := .pushCst s _ _ _
  sourced hlt i node hi hnode := by
    have hnode' : (s.pushLeaf tok source).cst[i]? = some node := hnode
    rw [State.pushLeaf, State.pushCst, State.nextCst, CstSound.lookup_addChild hlt] at hnode'
    split at hnode'
    · next heq =>
      subst heq
      obtain rfl := Option.some.inj hnode'
      exact ⟨_, rule, rfl, horigin _ rfl rfl, .inl ⟨rfl, rfl⟩⟩
    · next hne =>
      rw [if_neg (by omega)] at hnode'
      have := (Array.getElem?_eq_some_iff.mp hnode').1
      omega

/-- Where the state stands in the text does not matter. -/
theorem advance (h : Traced src rule s s₁) {pos : ℕ} (hpos : s₁.pos ≤ pos) :
    Traced src rule s { s₁ with pos } :=
  h.of_extends (h.grown.trans (.advance s₁ hpos)) (.refl _ _) rfl

theorem attachHidden (n : ℕ) (s : State) : Traced src rule s (s.attachHidden src n) := by
  induction n generalizing s with
  | zero => exact refl s
  | succ n ih =>
    rw [State.attachHidden]
    split
    · exact refl s
    · next tok _ =>
      dsimp only
      refine trans ?_ (ih _)
      split
      · exact (pushLeaf s tok none fun _ => .passed).advance (Nat.le_succ _)
      · exact (refl s).advance (Nat.le_succ _)

/-- **A token is consumed** by an element of the rule. -/
theorem consume {feature : Option String} {e : Element} {index : ℕ} {tok : Token}
    (hsite : (feature, e) ∈ rule.body.sites none) (hkind : e.single? = some tok.kind)
    (hnext : s.nextSignificant src = some index) (htok : src.tokens[index]? = some tok) :
    Traced src rule s (s.consume src index tok (some e.id)) := by
  have hhidden : tok.hidden = false := by
    obtain ⟨tok', htok', hhidden, -⟩ := nextSignificant_spec hnext
    rw [htok, Option.some.injEq] at htok'
    exact htok' ▸ hhidden
  have hattached : Traced src rule s (s.attachHidden src (index - s.pos)) := attachHidden _ s
  have hleaf := hattached.trans
    (pushLeaf _ tok (some e.id) fun _ => .token hsite hkind (Array.mem_of_getElem? htok) hhidden)
  exact hleaf.of_extends (.consume hnext) (.refl _ _) rfl

end Traced

/-- What is known of a value that was found while a rule is run. -/
def FindsTraced (src : Source) (rule : Rule) (s : State) (value : Assigned) (s' : State) : Prop :=
  Found s value s' ∧ Traced src rule s s'

/-- **Every step of a rule adds what comes from it**, if calls do. -/
theorem keptAt_traced (src : Source) (rule : Rule) :
    KeptAt src (fun feature e => (feature, e) ∈ rule.body.sites none) (fun _ _ _ => True)
      (Traced src rule) (FindsTraced src rule) where
  refl := .refl
  trans := .trans
  later := fun h h' => ⟨(kept_grown src).later h.grown h'.1, h.trans h'.2⟩
  tick := by
    intro s s' u htick
    obtain ⟨steps, interrupt, rfl⟩ := tick_ok htick
    exact .of_cst (.tick htick) rfl
  expect := by
    intro s label
    refine .of_cst (.expect s label) ?_
    rw [State.expect]
    split
    · rfl
    · split <;> rfl
  consume := .consume
  scalar := by
    rintro s s' index tok feature e value hsite hkind hnext htok rfl
    exact ⟨(kept_grown src).scalar trivial hnext htok rfl, .consume hsite hkind hnext htok⟩
  reference := by
    rintro s s' index tok feature e target hsite hkind hnext htok rfl
    exact ⟨(kept_grown src).reference trivial hnext htok rfl, .consume hsite hkind hnext htok⟩
  store := by
    rintro s s' n feature op value - hn ⟨hfound, htraced⟩
    exact htraced.of_extends (hfound.store hn) (.store s' n feature op value) (cst_store _ _ _ _ _)
  produce := fun h => h.2.of_extends ((kept_grown src).produce h.1) (.refl _ _) rfl
  restore := by
    intro s s' h
    refine .of_cst h.grown.restore ?_
    rw [restore_mark h.grown]

/-- **Calls add one composite for the caller**, and below it what comes from the
rule that is called. -/
theorem Traced.leaveCall {depth index : ℕ} {id : ElementId} {product : NodeId}
    {feature : Option String} (hsite : (feature, .call id index) ∈ rule.body.sites none)
    (hcall : callRule src depth id index s = .ok (some product, s.leave s₁ product))
    (hrule : src.grammar.rules[index]? = some rule')
    (hbody : Traced src rule' (openCall rule' id s.mark s) s₁)
    (hgrown : Grown s (s.leave s₁ product)) : Traced src rule s (s.leave s₁ product) where
  grown := hgrown
  sourced hlt := by
    have hsize := openCall_cst_size rule' id s
    have hbelow := hbody.sourced (by rw [hsize]; exact Nat.lt_succ_self s.cst.size)
    rw [hsize] at hbelow
    -- leaving links the composite of the call, and nothing that was there before it
    have hext : Extends (s.cst.size + 1) s₁.tree (s.leave s₁ product).tree :=
      .linkCst _ _ _ (Nat.lt_succ_self s.cst.size)
    have hran : Ran src (s.leave s₁ product).tree ⟨s.cst.size⟩ id index :=
      ⟨depth, s, product, _, hcall, rfl, .refl _ _⟩
    intro i node hi hnode
    rcases Nat.eq_or_lt_of_le hi with rfl | hi
    · -- the composite of the call
      obtain ⟨more, hmore⟩ := hbody.grown.children _ (openCall_composite rule' id hlt)
      have hmade : s₁.cst[s.cst.size]? = _ := hmore
      have hlook : (s.leave s₁ product).cst[s.cst.size]? = some node := hnode
      rw [State.leave, State.linkCst, Array.getElem?_modify, if_pos rfl, hmade] at hlook
      obtain rfl := Option.some.inj hlook
      exact ⟨s.composite, rule, rfl, .call hsite hran rfl rfl, .inl ⟨rfl, rfl⟩⟩
    · -- what the call has made below it
      have hin : i < s₁.cst.size := by
        have := (Array.getElem?_eq_some_iff.mp hnode).1
        have hsame : (s.leave s₁ product).cst.size = s₁.cst.size := Array.size_modify
        exact hsame ▸ this
      rw [hext.cst i hi hin] at hnode
      obtain ⟨p, rule₂, hp, horigin, hruns⟩ := hbelow i node hi hnode
      refine ⟨p, rule₂, hp, horigin.mono hi hext, .inr ?_⟩
      rcases hruns with ⟨rfl, rfl⟩ | ⟨hle, id', index', hran', hrule'⟩
      · exact ⟨Nat.le_refl _, id, index, hran, hrule⟩
      · exact ⟨by omega, id', index', hran'.mono hle hext, hrule'⟩

/-- **Calls add what comes from the rule of the caller.** -/
theorem keptByAt_traced (src : Source) (depth : ℕ) (rule : Rule) :
    KeptByAt (fun feature e => (feature, e) ∈ rule.body.sites none) (Traced src rule)
      (FindsTraced src rule) (callRule src depth) := by
  -- for all rules at once: below the composite it is the callee that is run
  induction depth using Nat.strong_induction_on generalizing rule with
  | _ depth ih =>
    intro feature id index s a s' hsite hcall
    obtain ⟨hgrown, hfound⟩ := keptBy_callRule src depth id index s a s' trivial hcall
    suffices htraced : Traced src rule s s' from
      ⟨htraced, fun node hnode => ⟨hfound node hnode, htraced⟩⟩
    rcases callRule_ok hcall with
      ⟨-, rfl⟩ | ⟨below, rule', s₁, b, rfl, hrule', hrun, -, hcases⟩
    · exact .refl s'
    · have hbody := (keptAt_traced src rule').element
        (ih below (Nat.lt_succ_self below) rule') rule'.body (fun _ hsite => hsite)
        (fun _ _ _ _ => trivial) _ _ _ hrun
      rcases hcases with ⟨product, -, -, rfl, rfl⟩ | ⟨-, rfl⟩
      · exact .leaveCall hsite hcall hrule' hbody hgrown
      · exact .of_cst hgrown rfl

/-! ## Whole parses -/

/-- **A rule was run for a concrete node**: the entry rule for the root, and
other rules by calls. -/
def RunsAt (src : Source) (entry : Rule) (t : SyntaxTree) (c : CstId) (index : ℕ) : Prop :=
  c = t.cstRoot ∧ src.grammar.rules[index]? = some entry ∨ ∃ id, Ran src t c id index

/-- **The tree of a parse so far**: the root is for the entry rule, and all else
comes from the rule that was run for its container. -/
structure Rooted (src : Source) (rule : Rule) (s : State) : Prop where
  composite : s.composite = ⟨0⟩
  root : ∃ node, s.cst[0]? = some node ∧ node.source = some rule.id ∧ node.isLeaf = false
  sourced : Sourced src rule ⟨0⟩ 1 s.tree

namespace Rooted

theorem step (h : Rooted src rule s) (hstep : Traced src rule s s') : Rooted src rule s' := by
  have hcomposite := h.composite
  obtain ⟨node, hnode, hsource, hleaf⟩ := h.root
  have hpos := (Array.getElem?_eq_some_iff.mp hnode).1
  refine ⟨hstep.grown.composite.trans hcomposite, ?_, ?_⟩
  · have hopen : s.composite.index = 0 := congrArg CstId.index hcomposite
    obtain ⟨more, hmore⟩ := hstep.grown.children node (by rw [hopen]; exact hnode)
    rw [hopen] at hmore
    exact ⟨_, hmore, hsource, (CstSound.isLeaf_mapChildren _ _).trans hleaf⟩
  · have hsourced := h.sourced
    rw [← hcomposite] at hsourced ⊢
    refine hsourced.step ?_ hpos hstep
    rw [hcomposite]
    exact Nat.zero_lt_one

theorem start (src : Source) (rule : Rule) (interrupt : Interrupt) :
    Rooted src rule (State.start src rule interrupt) where
  composite := rfl
  root := ⟨_, rfl, rfl, rfl⟩
  sourced i node hi hnode := by
    have hlt := (Array.getElem?_eq_some_iff.mp hnode).1
    exact absurd hi (Nat.not_le.mpr hlt)

/-- **A whole parse** traces every concrete node. -/
theorem entry {u : Unit} (h : Rooted src rule s)
    (hentry : Parse.entry src rule s = .ok (u, s')) : Rooted src rule s' := by
  refine entry_keeps (P := Rooted src rule) ?_ ?_ ?_ hentry h
  · exact fun _ _ _ _ _ _ h => ⟨h.composite, h.root, h.sourced⟩
  · exact fun tok h => h.step (.pushLeaf _ tok none fun _ => .passed)
  · intro s b s' hmatch h
    exact h.step ((keptAt_traced src rule).attemptMatch ((keptAt_traced src rule).element
      (keptByAt_traced src _ rule) rule.body (fun _ hsite => hsite) fun _ _ _ _ => trivial) hmatch)

/-- Every concrete node but the root has an origin in the rule that was run for
its container. -/
theorem origin (h : Rooted src rule s) {i : ℕ} (hrule : src.grammar.rules[i]? = some rule)
    (hnode : s.tree.cst? c = some node) (hroot : c ≠ ⟨0⟩) :
    ∃ p index rule', node.container = some p ∧ RunsAt src rule s.tree p index ∧
      src.grammar.rules[index]? = some rule' ∧ Origin src rule' s.tree c node := by
  have hpos : 1 ≤ c.index := by
    refine Nat.one_le_iff_ne_zero.mpr fun hzero => hroot ?_
    cases c
    cases hzero
    rfl
  obtain ⟨p, rule', hp, horigin, ⟨rfl, rfl⟩ | ⟨-, id, index, hran, hrule'⟩⟩ :=
    h.sourced c.index node hpos hnode
  · exact ⟨⟨0⟩, i, rule', hp, .inl ⟨rfl, hrule⟩, hrule, horigin⟩
  · exact ⟨p, index, rule', hp, .inr ⟨id, hran⟩, hrule', horigin⟩

end Rooted

end Parse

end Workbench
