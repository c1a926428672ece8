import Workbench.Proofs.Parse.Reports
import Workbench.Proofs.Parse.Traced
/-!
# Sources tell what concrete nodes come from

The number that a concrete node carries is looked up in a table that was built
without the parse. In a grammar that was built the numbers are those of the
table, and the entry tells of the element that it tells of: that of a composite
names the rule that was run, and that of a leaf the type of its token. Nothing
but what is hidden and what was skipped after errors has no source.
-/

namespace Workbench

namespace Parse

variable {src : Source} {rule : Rule} {s : State} {t : SyntaxTree} {c : CstId} {node : CstNode}

/-! ## What sources tell -/

/-- **A concrete node comes from an element** of the rule that was run for its
container. The source is the number of the element, and its entry is the shape
of the element, the rule, and the feature that is assigned around it. -/
structure ComesFrom (src : Source) (entry : Rule) (t : SyntaxTree) (node : CstNode) (index : ℕ)
    (feature : Option String) (e : Element) : Prop where
  container : ∃ p, node.container = some p ∧ RunsAt src entry t p index
  site : ∃ rule, src.grammar.rules[index]? = some rule ∧ (feature, e) ∈ rule.body.sites none
  source : node.source = some e.id
  entry : src.grammar.table.entry? e.id = some ⟨e.tag src.grammar, index, feature⟩

/-- **What the sources of a tree tell**, if its parse has skipped tokens in
these rounds. -/
structure Attributed (src : Source) (entry : Rule) (t : SyntaxTree) (skips : List (State × State)) :
    Prop where
  /-- The source of the root is the entry rule. -/
  root : ∃ node, t.cst? t.cstRoot = some node ∧ node.source = some entry.id
  /-- The source of a composite is a call of the rule that was run for it. -/
  composite : ∀ c node, t.cst? c = some node → node.isLeaf = false → c ≠ t.cstRoot →
    ∃ index feature id called rule, ComesFrom src entry t node index feature (.call id called) ∧
      Ran src t c id called ∧ src.grammar.rules[called]? = some rule ∧
      src.grammar.table.entry? id = some ⟨.ruleCall rule.name, index, feature⟩
  /-- The source of a leaf, if it has one, is an element that asks for a token
  of its type. -/
  leaf : ∀ c node leaf id, t.cst? c = some node → node.leaf? = some leaf → node.source = some id →
    ∃ index feature e tag, ComesFrom src entry t node index feature e ∧
      src.grammar.table.entry? id = some ⟨tag, index, feature⟩ ∧
      (tag = .keyword leaf.tokenType ∨ tag = .terminal leaf.tokenType ∨
        ∃ type, tag = .crossRef type)
  /-- Leaves without a source are hidden or were skipped. -/
  unsourced : ∀ c node leaf, t.cst? c = some node → node.leaf? = some leaf →
    (node.source = none ↔ leaf.hidden = true ∨
      ∃ skip ∈ skips, ∃ tok ∈ src.significantIn skip.1.pos skip.2.pos, tok.leaf = leaf)

/-! ## Leaves with a source -/

/-- The entry of an element that asks for a token of a kind names the type of
such tokens, or a cross-reference. -/
theorem tag_of_token {g : Grammar} {chars : List Char} {e : Element} {tok : Token}
    (hkind : e.single? = some tok.kind) (htok : tok.Of g chars) :
    e.tag g = .keyword tok.label ∨ e.tag g = .terminal tok.label ∨
      ∃ type, e.tag g = .crossRef type := by
  cases e with
  | keyword id text =>
    rcases htok.label with ⟨hlabel, -⟩ | ⟨index, terminal, hlabel, -⟩
    · rw [hlabel] at hkind
      cases hkind
      exact .inl rfl
    · rw [hlabel] at hkind
      cases hkind
  | terminal id index =>
    rcases htok.label with ⟨hlabel, -⟩ | ⟨index', terminal, hlabel, hterminal, hname, -⟩
    · rw [hlabel] at hkind
      cases hkind
    · rw [hlabel] at hkind
      cases hkind
      refine .inr (.inl ?_)
      rw [Element.tag, Grammar.terminalName, hterminal, hname]
      rfl
  | crossRef id target index => exact .inr (.inr ⟨target.typeName, rfl⟩)
  | call => cases hkind
  | assign => cases hkind
  | seq => cases hkind
  | alt => cases hkind
  | repeated => cases hkind

/-! ## Leaves without a source -/

/-- What is found only once is found in one place. -/
theorem eq_of_filterMap_nodup {α β : Type} {f : α → Option β} {l : List α}
    (h : (l.filterMap f).Nodup) {a b : α} {x : β} (ha : a ∈ l) (hb : b ∈ l) (hfa : f a = some x)
    (hfb : f b = some x) : a = b := by
  rw [List.Nodup, List.pairwise_filterMap] at h
  exact List.Pairwise.forall_of_forall_of_flip (R := fun a b => f a = some x → f b = some x → a = b)
    (fun _ _ _ _ => rfl) (h.imp fun hne hfa hfb => absurd rfl (hne x hfa x hfb))
    (h.imp fun hne hfb hfa => absurd rfl (hne x hfa x hfb)) ha hb hfa hfb

/-- Tokens in the order of a text have different leaves. -/
theorem Spread.nodup_leaves (h : Spread src) : (src.tokens.toList.map Token.leaf).Nodup := by
  rw [List.Nodup, List.pairwise_map]
  refine h.ordered.imp_of_mem fun {tok tok'} htok _ hle heq => ?_
  have hoffset : tok.offset = tok'.offset := congrArg Leaf.offset heq
  have := h.nonempty tok (Array.mem_toList_iff.mp htok)
  omega

/-- **A leaf has no source** if it is hidden or was skipped, and otherwise it has
one. -/
theorem source_eq_none_iff (hspread : Spread src)
    (hleaves : s.cst.toList.filterMap CstNode.leaf? = src.tokens.toList.map Token.leaf)
    {skips : List (State × State)}
    (hskipped : s.skippedLeaves = skips.flatMap fun skip =>
      (src.significantIn skip.1.pos skip.2.pos).map Token.leaf)
    {leaf : Leaf} (horigin : Origin src rule t c node) (hnode : node ∈ s.cst.toList)
    (hleaf : node.leaf? = some leaf) :
    node.source = none ↔ leaf.hidden = true ∨
      ∃ skip ∈ skips, ∃ tok ∈ src.significantIn skip.1.pos skip.2.pos, tok.leaf = leaf := by
  have hmem : leaf ∈ s.skippedLeaves ↔
      ∃ skip ∈ skips, ∃ tok ∈ src.significantIn skip.1.pos skip.2.pos, tok.leaf = leaf := by
    rw [hskipped, List.mem_flatMap]
    simp only [List.mem_map]
  have hhidden : node.hidden = leaf.hidden := by
    rw [CstNode.leaf?] at hleaf
    split at hleaf
    · exact congrArg Leaf.hidden (Option.some.inj hleaf)
    · cases hleaf
  rw [← hmem]
  constructor
  · intro hsource
    by_cases hshown : leaf.hidden = true
    · exact .inl hshown
    · -- a leaf in view without a source counts as skipped
      refine .inr (List.mem_filterMap.mpr ⟨node, hnode, ?_⟩)
      rw [CstNode.skippedLeaf?, if_pos ⟨hsource, by rw [hhidden]; simpa using hshown⟩, hleaf]
  · rintro (hshown | hskip)
    · -- what is matched is not hidden
      cases horigin with
      | token _ _ _ hshown' _ hleaf' =>
        rw [hleaf, Option.some.injEq] at hleaf'
        rw [hleaf', Token.leaf, hshown'] at hshown
        cases hshown
      | call _ _ _ hcomposite =>
        rw [leaf?_eq_none hcomposite] at hleaf
        cases hleaf
      | passed hsource _ => exact hsource
    · -- the leaf that was skipped is this one, as no two are the same
      obtain ⟨node', hnode', hfound⟩ := List.mem_filterMap.mp hskip
      obtain ⟨⟨hsource, -⟩, hleaf'⟩ := Option.ite_none_right_eq_some.mp hfound
      have hnodup := hleaves ▸ hspread.nodup_leaves
      obtain rfl := eq_of_filterMap_nodup hnodup hnode' hnode hleaf' hleaf
      exact hsource

/-! ## Whole parses -/

namespace Rooted

variable {d : Definition} {i : ℕ} {leaf : Leaf}

/-- The root is not a leaf. -/
theorem ne_root (h : Rooted src rule s) (hnode : s.tree.cst? c = some node)
    (hleaf : node.leaf? = some leaf) : c ≠ ⟨0⟩ := by
  rintro rfl
  obtain ⟨root, hlook, -, hcomposite⟩ := h.root
  obtain rfl := Option.some.inj (hlook.symm.trans hnode)
  rw [leaf?_eq_none hcomposite] at hleaf
  cases hleaf

/-- **A composite comes from a call** of the rule that was run for it, if the
grammar was built. -/
theorem composite_comesFrom (h : Rooted src rule s) (hbuild : d.build = .ok src.grammar)
    (hrule : src.grammar.rules[i]? = some rule) (hnode : s.tree.cst? c = some node)
    (hcomposite : node.isLeaf = false) (hroot : c ≠ ⟨0⟩) :
    ∃ index feature id called calledRule,
      ComesFrom src rule s.tree node index feature (.call id called) ∧
      Ran src s.tree c id called ∧ src.grammar.rules[called]? = some calledRule ∧
      src.grammar.table.entry? id = some ⟨.ruleCall calledRule.name, index, feature⟩ := by
  obtain ⟨p, index, rule', hp, hruns, hrule', horigin⟩ := h.origin hrule hnode hroot
  obtain ⟨feature, id, called, hsite, hran, hsource⟩ := horigin.of_composite hcomposite
  obtain ⟨calledRule, hcalled⟩ := hran.exists_rule
  have hentry := Definition.entry?_site hbuild hrule' hsite
  have hname : src.grammar.ruleName called = calledRule.name := by
    rw [Grammar.ruleName, hcalled]
    rfl
  refine ⟨index, feature, id, called, calledRule,
    ⟨⟨p, hp, hruns⟩, ⟨rule', hrule', hsite⟩, hsource, hentry⟩, hran, hcalled, ?_⟩
  rw [← hname]
  exact hentry

/-- **A leaf with a source comes from an element** that asks for a token of its
type, if the grammar was built. -/
theorem leaf_comesFrom (h : Rooted src rule s) (hbuild : d.build = .ok src.grammar)
    (hrule : src.grammar.rules[i]? = some rule) {chars : List Char}
    (htokens : ∀ tok ∈ src.tokens, tok.Of src.grammar chars)
    (hnode : s.tree.cst? c = some node) (hleaf : node.leaf? = some leaf) {id : ElementId}
    (hsource : node.source = some id) :
    ∃ index feature e tag, ComesFrom src rule s.tree node index feature e ∧
      src.grammar.table.entry? id = some ⟨tag, index, feature⟩ ∧
      (tag = .keyword leaf.tokenType ∨ tag = .terminal leaf.tokenType ∨
        ∃ type, tag = .crossRef type) := by
  obtain ⟨p, index, rule', hp, hruns, hrule', horigin⟩ :=
    h.origin hrule hnode (h.ne_root hnode hleaf)
  cases horigin with
  | @token feature e tok hsite hkind htok _ hsource' hleaf' =>
    obtain rfl := Option.some.inj (hleaf.symm.trans hleaf')
    obtain rfl := Option.some.inj (hsource.symm.trans hsource')
    have hentry := Definition.entry?_site hbuild hrule' hsite
    exact ⟨index, feature, e, _, ⟨⟨p, hp, hruns⟩, ⟨rule', hrule', hsite⟩, hsource', hentry⟩,
      hentry, tag_of_token hkind (htokens tok htok)⟩
  | call _ _ _ hcomposite =>
    rw [leaf?_eq_none hcomposite] at hleaf
    cases hleaf
  | passed hnone _ =>
    rw [hsource] at hnone
    cases hnone

end Rooted

/-- **A parse attributes its concrete nodes**, if the grammar was built. -/
theorem Attributed.entry {d : Definition} {i : ℕ} {interrupt : Interrupt} {u : Unit}
    {skips : List (State × State)} {chars : List Char} (hbuild : d.build = .ok src.grammar)
    (hrule : src.grammar.rules[i]? = some rule)
    (htokens : ∀ tok ∈ src.tokens, tok.Of src.grammar chars) (hspread : Spread src)
    (hentry : Parse.entry src rule (State.start src rule interrupt) = .ok (u, s))
    (hskipped : s.skippedLeaves = skips.flatMap fun skip =>
      (src.significantIn skip.1.pos skip.2.pos).map Token.leaf) :
    Attributed src rule s.tree skips where
  root := by
    obtain ⟨root, hlook, hsource, -⟩ := ((Rooted.start src rule interrupt).entry hentry).root
    exact ⟨root, hlook, hsource⟩
  composite _ _ hnode hcomposite hroot :=
    ((Rooted.start src rule interrupt).entry hentry).composite_comesFrom hbuild hrule hnode
      hcomposite hroot
  leaf _ _ _ _ hnode hleaf hsource :=
    ((Rooted.start src rule interrupt).entry hentry).leaf_comesFrom hbuild hrule htokens hnode
      hleaf hsource
  unsourced c node leaf hnode hleaf := by
    have hrooted := (Rooted.start src rule interrupt).entry hentry
    obtain ⟨p, index, rule', -, -, -, horigin⟩ :=
      hrooted.origin hrule hnode (hrooted.ne_root hnode hleaf)
    exact source_eq_none_iff hspread (Covered.entry hentry) hskipped horigin
      (Array.mem_toList_iff.mpr (Array.mem_of_getElem? hnode)) hleaf

/-- What is skipped in the rounds of a parse. -/
theorem entry_skipped {interrupt : Interrupt} {u : Unit}
    (hentry : entry src rule (State.start src rule interrupt) = .ok (u, s)) :
    ∃ skips t, Recovery src (element src (callRule src (callDepth src)) rule.body)
        (State.start src rule interrupt) skips t ∧
      s.skippedLeaves = skips.flatMap fun skip =>
        (src.significantIn skip.1.pos skip.2.pos).map Token.leaf := by
  obtain ⟨skips, t, turns, hrecovery, rfl | rfl, -, hskipped, -⟩ := entry_turns hentry
  · exact ⟨turns, t, hrecovery, hskipped⟩
  · -- the last turn only reports
    have hnone : src.significantIn t.pos t.pos = [] := by
      rw [Source.significantIn, Nat.sub_self, List.take_zero, List.filter_nil]
    rw [List.flatMap_append, List.flatMap_singleton, hnone, List.map_nil, List.append_nil]
      at hskipped
    exact ⟨skips, t, hrecovery, hskipped⟩

end Parse

/-- **Sources identify the elements that concrete nodes come from**, in every
grammar that was built. Its rules and their elements have the numbers of the
element table, each once and in order, and the table has at each number the
shape of what has it, the rule it is in, and the feature that is assigned around
it. The numbers of the table come back from being sent, also none, and no others
are understood. In every parse the source of the root is the entry rule, that of
a composite is a call of the rule that was run for it, that of a leaf is an
element that asks for tokens of its type, all in the rule that was run for the
container, and only leaves that are hidden or were skipped have none. -/
theorem Definition.sources_identify {d : Definition} {g : Grammar} (hbuild : d.build = .ok g) :
    g.rules.toList.flatMap Rule.ids = (List.range g.table.entries.size).map ElementId.mk ∧
    (∀ (i : ℕ) rule, g.rules[i]? = some rule →
      g.table.entry? rule.id = some ⟨.rule rule.name, i, none⟩ ∧
      ∀ feature e, (feature, e) ∈ rule.body.sites none →
        g.table.entry? e.id = some ⟨e.tag g, i, feature⟩) ∧
    (∀ source : Option ElementId, (∀ id ∈ source, id.index < g.table.entries.size) →
      g.table.decode (ElementTable.encode source) = .ok source) ∧
    (∀ raw : Int, raw ≠ ElementTable.noElement →
      (∀ i, i < g.table.entries.size → raw ≠ ElementTable.encode (some ⟨i⟩)) →
        g.table.decode raw = .error ⟨raw⟩) ∧
    ∀ (text : String) (name : Option String) (interrupt left : Interrupt) (r : ParseResult),
      g.parse text name interrupt = .ok (r, left) →
      ∃ rule lexemes start skips t, g.entryRule name = .ok rule ∧
        Lexeme.ofText? g text.toList = some lexemes ∧ interrupt.check = some start ∧
        let src := Parse.sourceOf g text lexemes
        Parse.Recovery src (Parse.element src (Parse.callRule src (Parse.callDepth src)) rule.body)
          (Parse.State.start src rule start) skips t ∧
        Parse.Attributed src rule r.tree skips := by
  refine ⟨Definition.ids_eq_range hbuild, fun i rule hrule =>
      ⟨Definition.entry?_id hbuild hrule, fun feature e => Definition.entry?_site hbuild hrule⟩,
    g.table.decode_encode, fun raw => g.table.decode_eq_error, ?_⟩
  intro text name interrupt left r hparse
  obtain ⟨rule, i, lexemes, start, s, hi, hrule, hstart, hlexemes, hentry, -, htree, -, -⟩ :=
    Parse.parse_ok hparse
  obtain ⟨skips, t, hrecovery, hskipped⟩ := Parse.entry_skipped hentry
  refine ⟨rule, lexemes, start, skips, t, hrule, hlexemes, hstart, hrecovery, ?_⟩
  have hattributed : Parse.Attributed (Parse.sourceOf g text lexemes) rule s.tree skips :=
    .entry hbuild hi (Parse.token_of hlexemes) (Parse.spread_sourceOf hlexemes) hentry hskipped
  rw [htree]
  exact hattributed

/-- What the sources of a parse with notes and half an item are: the leaves
without one are the three notes and what was skipped. -/
theorem Definition.sources_identify_noted :
    Noted.definition.build = .ok Noted.grammar ∧
    Noted.grammar.parse Noted.text none .never = .ok (Noted.result, .never) ∧
    Noted.grammar.table.entries.size = 11 ∧
    Noted.result.tree.cst.toList.map (fun node =>
        (node.leaf?.map Leaf.tokenType, node.source.bind Noted.grammar.table.entry?)) =
      [(none, some ⟨.rule "Model", 0, none⟩),
        (none, some ⟨.ruleCall "Item", 0, some "items"⟩),
        (some "Note", none),
        (some "Name", some ⟨.terminal "Name", 1, some "name"⟩),
        (some ":", some ⟨.keyword ":", 1, none⟩),
        (some "Name", some ⟨.crossRef "Item", 1, some "of"⟩),
        (some "Name", none), (some "Note", none), (some "Name", none), (some "Note", none)] ∧
    Noted.grammar.table.decode 11 = .error ⟨11⟩ ∧
    ∃ rule src skips, Parse.Attributed src rule Noted.result.tree skips ∧
      src.grammar.rules = Noted.grammar.rules := by
  obtain ⟨-, -, -, hdecode, hparses⟩ := Definition.sources_identify Noted.build_definition
  obtain ⟨rule, lexemes, _, skips, _, -, -, -, -, hattributed⟩ :=
    hparses _ _ _ _ _ Noted.parse_text
  have hsize : Noted.grammar.table.entries.size = 11 := by decide +kernel
  refine ⟨Noted.build_definition, Noted.parse_text, hsize, by decide +kernel, ?_,
    rule, _, skips, hattributed, rfl⟩
  refine hdecode 11 (by decide) fun i hi => ?_
  rw [hsize] at hi
  intro heq
  have : i = 11 := Int.ofNat.inj heq.symm
  omega

end Workbench
