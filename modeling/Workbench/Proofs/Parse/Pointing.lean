import Workbench.Proofs.Parse.Reports
import Workbench.Proofs.Tree.LeafAt
/-!
# What an offset of a parsed text points to

A parse adds its leaves in the order of the text and hides only leaves, so
the descent of `SyntaxTree.leafAt?` finds the visible leaf at an offset
whenever there is one. Every byte of the text lies in one lexeme, and the
visible leaves are the tokens that are not hidden: where there is no visible
leaf, there is a comment, a match that was skipped, a run that nothing
matched, or no text any more (`Grammar.parse_leafAt?`).
-/

namespace Workbench

namespace Parse

variable {src : Source} {s s' : State}

/-! ## Only leaves are hidden -/

/-- **Only leaves are hidden.** -/
def OnlyLeavesHidden (cst : Array CstNode) : Prop :=
  ∀ node ∈ cst, node.isLeaf = false → node.hidden = false

namespace OnlyLeavesHidden

variable {cst : Array CstNode}

/-- Neither what is below a node nor what it is linked to matters. -/
theorem modify (h : OnlyLeavesHidden cst) {f : CstNode → CstNode}
    (hleaf : ∀ node, (f node).isLeaf = node.isLeaf) (hhidden : ∀ node, (f node).hidden = node.hidden)
    (i : ℕ) : OnlyLeavesHidden (cst.modify i f) := by
  intro node hnode
  obtain ⟨j, hj⟩ := Array.getElem?_of_mem hnode
  rw [Array.getElem?_modify] at hj
  split at hj
  · obtain ⟨old, hold, rfl⟩ := Option.map_eq_some_iff.mp hj
    rw [hleaf, hhidden]
    exact h old (Array.mem_of_getElem? hold)
  · exact h node (Array.mem_of_getElem? hj)

theorem pushCst (h : OnlyLeavesHidden s.cst) {kind : CstKind} (source : Option ElementId)
    {hidden : Bool} (hnew : kind.isLeaf = false → hidden = false) :
    OnlyLeavesHidden (s.pushCst kind source hidden).cst := by
  refine modify (f := fun node => { node with kind := node.kind.mapChildren (·.push s.nextCst) }) ?_
    (fun node => CstSound.isLeaf_mapChildren node.kind _) (fun _ => rfl) _
  intro node hnode
  rcases Array.mem_push.mp hnode with hold | rfl
  · exact h node hold
  · exact hnew

theorem pushLeaf (h : OnlyLeavesHidden s.cst) (tok : Token) (source : Option ElementId) :
    OnlyLeavesHidden (s.pushLeaf tok source).cst := h.pushCst source nofun

theorem linkCst (h : OnlyLeavesHidden s.cst) (id : CstId) (link : Option NodeId) :
    OnlyLeavesHidden (s.linkCst id link).cst :=
  h.modify (f := fun node => { node with astNode := link }) (fun _ => rfl) (fun _ => rfl) _

end OnlyLeavesHidden

/-- **Every step hides only leaves.** -/
theorem invariant_onlyLeavesHidden (src : Source) :
    Invariant src (fun _ => True) (fun s => OnlyLeavesHidden s.cst) (fun _ _ => True) where
  noted := fun _ _ _ hs => hs
  consume := by
    rintro s index tok id - - - hs
    have hhidden : OnlyLeavesHidden (s.attachHidden src (index - s.pos)).cst :=
      attachHidden_keeps (P := fun s => OnlyLeavesHidden s.cst) (fun _ _ _ _ _ _ h => h)
        (fun tok h => h.pushLeaf tok none) _ hs
    exact hhidden.pushLeaf tok _
  scalar := fun _ => trivial
  reference := fun _ _ _ _ _ => trivial
  store := by
    rintro s s' n feature op value - - - hs' -
    rw [cst_store]
    exact hs'
  produce := fun _ hs' _ => hs'
  openCall := fun _ hs => (hs.pushCst _ fun _ => rfl).linkCst _ _
  leaveCall := fun _ _ hs' _ => ⟨hs'.linkCst _ _, trivial⟩

/-! ## Leaves and tokens -/

theorem bytes?_eq_leaf? (node : CstNode) :
    node.bytes? = node.leaf?.map fun leaf => (leaf.offset, leaf.offset + leaf.length) := by
  rcases node with ⟨kind, _, _, _, _, _⟩
  cases kind <;> rfl

theorem hidden_of_leaf? {node : CstNode} {leaf : Leaf} (h : node.leaf? = some leaf) :
    leaf.hidden = node.hidden := by
  rcases node with ⟨kind, _, _, _, _, _⟩
  cases kind with
  | leaf =>
    cases h
    rfl
  | _ => cases h

/-- The leaves of an arena come in the order of the tokens. -/
theorem ordered_of_leaves (hspread : Spread src) {t : SyntaxTree}
    (hleaves : t.cst.toList.filterMap CstNode.leaf? = src.tokens.toList.map Token.leaf) (i j : ℕ)
    (p q : ℕ × ℕ) (hij : i < j) (hp : t.leafBytes? ⟨i⟩ = some p) (hq : t.leafBytes? ⟨j⟩ = some q) :
    p.2 ≤ q.1 := by
  have hpieces : t.cst.toList.filterMap CstNode.bytes? =
      src.tokens.toList.map fun tok => (tok.offset, tok.offset + tok.length) := by
    rw [funext bytes?_eq_leaf?, ← List.map_filterMap, hleaves, List.map_map]
    rfl
  have hordered : (t.cst.toList.filterMap CstNode.bytes?).Pairwise fun p q => p.2 ≤ q.1 := by
    rw [hpieces, List.pairwise_map]
    exact hspread.ordered
  obtain ⟨old, hold, hp⟩ := Option.bind_eq_some_iff.mp hp
  obtain ⟨new, hnew, hq⟩ := Option.bind_eq_some_iff.mp hq
  obtain ⟨hi, rfl⟩ := Array.getElem?_eq_some_iff.mp hold
  obtain ⟨hj, rfl⟩ := Array.getElem?_eq_some_iff.mp hnew
  exact List.pairwise_iff_getElem.mp (List.pairwise_filterMap.mp hordered) i j hi hj hij p hp q hq

/-- **A parse gives its leaves in the order of the text.** -/
theorem leavesInOrder_of_entry (hspread : Spread src) {rule : Rule} {interrupt : Interrupt}
    {u : Unit}
    {t : SyntaxTree} (h : Parse.entry src rule (State.start src rule interrupt) = .ok (u, s))
    (ht : t = ⟨s.ast, s.cst, s.references, ⟨0⟩, ⟨0⟩⟩) : t.LeavesInOrder := by
  obtain ⟨hordered, hcomposite⟩ := CstOrdered.entry h
  -- composites are opened as shown, and hidden tokens only add leaves
  have hhidden : OnlyLeavesHidden s.cst := by
    refine (invariant_onlyLeavesHidden src).entry (fun _ _ _ _ => trivial) (fun _ _ => trivial)
      (fun _ _ _ _ _ hs => hs) (fun tok hs => hs.pushLeaf tok none) h ?_
    intro node hnode _
    rw [Array.mem_singleton.mp hnode]
  have hleaves : t.cst.toList.filterMap CstNode.leaf? = src.tokens.toList.map Token.leaf := by
    rw [ht]
    exact Covered.entry h
  refine ⟨by rw [ht], ?_, ?_, ordered_of_leaves hspread hleaves, ?_⟩
  · -- the root is the composite that is open at the end
    obtain ⟨root, hroot, hleaf⟩ := hordered.composite
    have hfound : t.cst? t.cstRoot = some root := by
      rw [ht, ← hroot, hcomposite]
      rfl
    rw [SyntaxTree.leafBytes?_eq hfound]
    by_contra hbytes
    obtain ⟨p, hp⟩ := Option.ne_none_iff_exists'.mp hbytes
    have hisLeaf : root.kind.isLeaf = true := (CstNode.isLeaf_of_bytes? hp).1
    rw [hleaf] at hisLeaf
    cases hisLeaf
  · have hspans := hordered.spans
    rw [hcomposite] at hspans
    rw [ht]
    exact hspans
  · intro id node hnode hleaf
    rw [ht] at hnode
    exact hhidden node (Array.mem_of_getElem? hnode) hleaf

/-- The leaves at an offset are the tokens there. -/
theorem exists_leafOver_iff {t : SyntaxTree} (h : t.LeavesInOrder)
    (hleaves : t.cst.toList.filterMap CstNode.leaf? = src.tokens.toList.map Token.leaf)
    (hidden : Bool) (offset : ℕ) :
    (∃ id, t.LeafOver hidden offset id) ↔
      ∃ tok ∈ src.tokens, tok.hidden = hidden ∧ tok.offset ≤ offset ∧
        offset < tok.offset + tok.length := by
  simp only [h.leafOver_iff]
  constructor
  · rintro ⟨id, node, p, hnode, hbytes, hhidden, hle, hlt⟩
    rw [bytes?_eq_leaf?] at hbytes
    obtain ⟨leaf, hleaf, rfl⟩ := Option.map_eq_some_iff.mp hbytes
    have hmem : leaf ∈ src.tokens.toList.map Token.leaf := by
      rw [← hleaves, List.mem_filterMap]
      exact ⟨node, Array.mem_def.mp (Array.mem_of_getElem? hnode), hleaf⟩
    obtain ⟨tok, htok, rfl⟩ := List.mem_map.mp hmem
    refine ⟨tok, Array.mem_def.mpr htok, ?_, hle, hlt⟩
    rw [← hhidden]
    exact hidden_of_leaf? hleaf
  · rintro ⟨tok, htok, rfl, hle, hlt⟩
    have hmem : tok.leaf ∈ t.cst.toList.filterMap CstNode.leaf? := by
      rw [hleaves]
      exact List.mem_map_of_mem (Array.mem_def.mp htok)
    obtain ⟨node, hnode, hleaf⟩ := List.mem_filterMap.mp hmem
    obtain ⟨i, hi⟩ := Array.getElem?_of_mem (Array.mem_def.mpr hnode)
    refine ⟨⟨i⟩, node, (tok.offset, tok.offset + tok.length), hi, ?_, (hidden_of_leaf? hleaf).symm,
      hle, hlt⟩
    rw [bytes?_eq_leaf?, hleaf]
    rfl

end Parse

/-! ## What is not shown -/

/-- A match of a terminal that is skipped. -/
def Lexeme.IsSkipped (g : Grammar) (l : Lexeme) : Prop :=
  ∃ (index : ℕ) (terminal : Terminal), l.kind = .terminal index ∧
    g.terminals[index]? = some terminal ∧ terminal.kind = .skip

namespace Parse

variable {g : Grammar} {text : String} {lexemes : List Lexeme} {l : Lexeme} {range : Range}

/-- A lexeme that is a token was matched by something that is not skipped. -/
theorem matched_of_ofLexeme? {tok : Token} (h : Token.ofLexeme? g l range = some tok) :
    l.kind ≠ .unmatched ∧ ¬ l.IsSkipped g := by
  obtain ⟨kind, offset, cs⟩ := l
  cases kind with
  | unmatched => cases h
  | keyword keyword =>
    refine ⟨nofun, ?_⟩
    rintro ⟨_, _, hkind, -⟩
    cases hkind
  | terminal index =>
    refine ⟨nofun, ?_⟩
    rintro ⟨_, terminal, hkind, hterminal, hskip⟩
    cases hkind
    rw [Lexeme.ofLexeme?_terminal hterminal, if_pos hskip] at h
    cases h

/-- An error is that of a lexeme that nothing matched. -/
theorem unmatched_of_error? {e : SyntaxError} (h : l.error? range = some e) :
    l.kind = .unmatched ∧ e.offset = l.offset ∧ e.length = l.length := by
  rw [Lexeme.error?] at h
  split at h
  next hkind =>
    cases h
    exact ⟨hkind, rfl, rfl⟩
  next => cases h

theorem mem_of_mem_withRanges {chars : List Char} {e : Lexeme × Range}
    (h : e ∈ Lexeme.withRanges chars lexemes) : e.1 ∈ lexemes := by
  rw [← Lexeme.map_fst_withRanges chars lexemes]
  exact List.mem_map_of_mem h

/-- **Every offset** without a visible token lies past the end, in a hidden
token, in a run that is an error, or in what is skipped. -/
theorem not_exists_visible_iff (h : Lexeme.ofText? g text.toList = some lexemes) (offset : ℕ) :
    (¬ ∃ tok ∈ (sourceOf g text lexemes).tokens, tok.hidden = false ∧ tok.offset ≤ offset ∧
        offset < tok.offset + tok.length) ↔
      text.utf8ByteSize ≤ offset ∨
      (∃ tok ∈ (sourceOf g text lexemes).tokens, tok.hidden = true ∧ tok.offset ≤ offset ∧
        offset < tok.offset + tok.length) ∨
      (∃ e ∈ (Lexeme.withRanges text.toList lexemes).filterMap fun (l, range) => l.error? range,
        e.offset ≤ offset ∧ offset < e.offset + e.length) ∨
      ∃ l ∈ lexemes, l.IsSkipped g ∧ l.offset ≤ offset ∧ offset < l.offset + l.length := by
  have hmunched := Lexeme.Munched.of_ofText? h
  have hcovers := hmunched.tiles.covers offset (Nat.zero_le offset)
  rw [Text.byteLength_toList, Nat.zero_add] at hcovers
  have htoken : ∀ tok, tok ∈ (sourceOf g text lexemes).tokens ↔
      ∃ e ∈ Lexeme.withRanges text.toList lexemes, Token.ofLexeme? g e.1 e.2 = some tok := by
    intro tok
    rw [sourceOf, List.mem_toArray, List.mem_filterMap]
  constructor
  · intro hnone
    rcases Nat.lt_or_ge offset text.utf8ByteSize with hlt | hge
    · refine .inr ?_
      obtain ⟨l, ⟨hl, hle, hlt⟩, -⟩ := hcovers hlt
      rw [← Lexeme.map_fst_withRanges text.toList lexemes, List.mem_map] at hl
      obtain ⟨e, he, rfl⟩ := hl
      rcases hmunched.sorted text.toList e he with
        ⟨tok, htok, -, -, -, hoffset, hlength⟩ | ⟨err, -, herr, -, hoffset, hlength⟩ |
        ⟨-, -, hskipped⟩
      · have hmem := (htoken tok).mpr ⟨e, he, htok⟩
        have hin : tok.offset ≤ offset ∧ offset < tok.offset + tok.length := by omega
        cases hhidden : tok.hidden with
        | true => exact .inl ⟨tok, hmem, hhidden, hin⟩
        | false => exact absurd ⟨tok, hmem, hhidden, hin⟩ hnone
      · refine .inr (.inl ⟨err, List.mem_filterMap.mpr ⟨e, he, herr⟩, ?_⟩)
        omega
      · exact .inr (.inr ⟨e.1, mem_of_mem_withRanges he, hskipped, hle, hlt⟩)
    · exact .inl hge
  · rintro hcases ⟨tok, htok, hvisible, hle, hlt⟩
    have hinside : tok.offset + tok.length ≤ text.utf8ByteSize := (spread_sourceOf h).inside tok htok
    obtain ⟨e, he, hfrom⟩ := (htoken tok).mp htok
    obtain ⟨hoffset, hlength⟩ := ofLexeme?_place hfrom
    obtain ⟨hmatched, hkept⟩ := matched_of_ofLexeme? hfrom
    -- the lexeme of the token is the only one at the offset
    obtain ⟨l, -, honly⟩ := hcovers (Nat.lt_of_lt_of_le hlt hinside)
    have hhere :
        ∀ l' ∈ lexemes, l'.offset ≤ offset → offset < l'.offset + l'.length → l' = e.1 := by
      intro l' hl' hle' hlt'
      rw [honly l' ⟨hl', hle', hlt'⟩, honly e.1 ⟨mem_of_mem_withRanges he, by omega, by omega⟩]
    rcases hcases with hend | ⟨tok', htok', hhidden, hle', hlt'⟩ | ⟨err, herr, hle', hlt'⟩ |
      ⟨l', hl', hskipped, hle', hlt'⟩
    · omega
    · obtain ⟨i, hi⟩ := Array.getElem?_of_mem htok
      obtain ⟨j, hj⟩ := Array.getElem?_of_mem htok'
      obtain ⟨e', he', hfrom'⟩ := (htoken tok').mp htok'
      obtain ⟨hoffset', hlength'⟩ := ofLexeme?_place hfrom'
      have hsame := hhere e'.1 (mem_of_mem_withRanges he') (by omega) (by omega)
      have hij : i = j := (spread_sourceOf h).index_eq hi hj (by rw [hoffset, hoffset', hsame])
      rw [hij, hj, Option.some.injEq] at hi
      rw [← hi, hhidden] at hvisible
      cases hvisible
    · obtain ⟨e', he', herror⟩ := List.mem_filterMap.mp herr
      obtain ⟨hkind, hoffset', hlength'⟩ := unmatched_of_error? herror
      have hsame := hhere e'.1 (mem_of_mem_withRanges he') (by omega) (by omega)
      exact hmatched (hsame ▸ hkind)
    · exact hkept (hhere l' hl' hle' hlt' ▸ hskipped)

end Parse

/-- **The leaf at an offset of a parsed text is the visible leaf there**, of
which there is at most one. There is none exactly past the end, in a comment,
in a run that is reported as an error, and in what the lexer skips. -/
theorem Grammar.parse_leafAt? {g : Grammar} {text : String} {name : Option String}
    {interrupt left : Interrupt} {r : ParseResult}
    (hparse : g.parse text name interrupt = .ok (r, left)) (offset : ℕ) :
    (∀ id, r.tree.leafAt? offset = some id ↔ r.tree.LeafOver false offset id) ∧
    (∀ id id', r.tree.LeafOver false offset id → r.tree.LeafOver false offset id' → id = id') ∧
    ∃ lexemes, Lexeme.ofText? g text.toList = some lexemes ∧
      (r.tree.leafAt? offset = none ↔
        text.utf8ByteSize ≤ offset ∨ (∃ id, r.tree.LeafOver true offset id) ∨
        (∃ e ∈ r.lexerErrors, e.offset ≤ offset ∧ offset < e.offset + e.length) ∨
        ∃ l ∈ lexemes, l.IsSkipped g ∧ l.offset ≤ offset ∧ offset < l.offset + l.length) := by
  obtain ⟨rule, -, lexemes, start, s, -, -, -, hlexemes, hentry, -, htree, herrors, -⟩ :=
    Parse.parse_ok hparse
  have horder := Parse.leavesInOrder_of_entry (Parse.spread_sourceOf hlexemes) hentry htree
  have hleaves : r.tree.cst.toList.filterMap CstNode.leaf? =
      (Parse.sourceOf g text lexemes).tokens.toList.map Token.leaf := by
    rw [htree]
    exact Parse.Covered.entry hentry
  refine ⟨fun id => horder.leafAt?_eq_some_iff, fun id id' => horder.leafOver_unique, lexemes,
    hlexemes, ?_⟩
  have hnone : r.tree.leafAt? offset = none ↔ ¬ ∃ id, r.tree.LeafOver false offset id := by
    rw [Option.eq_none_iff_forall_ne_some, not_exists]
    exact forall_congr' fun id => not_congr horder.leafAt?_eq_some_iff
  rw [hnone, Parse.exists_leafOver_iff horder hleaves, Parse.exists_leafOver_iff horder hleaves,
    herrors]
  exact Parse.not_exists_visible_iff hlexemes offset

/-- The half item is pointed to, and no note, no blank and not the mark that
nothing matches. -/
theorem Grammar.parse_leafAt?_noted :
    Noted.grammar.parse Noted.text none .never = .ok (Noted.result, .never) ∧
    (List.range 12).map (fun offset => (Noted.result.tree.leafAt? offset).isSome) =
      [false, true, true, true, false, false, true, false, false, true, false, false] ∧
    (∃ id, Noted.result.tree.LeafOver false 6 id ∧
      ∀ id', Noted.result.tree.LeafOver false 6 id' → id' = id) ∧
    ∀ id, ¬ Noted.result.tree.LeafOver false 7 id := by
  obtain ⟨hpointed, hunique, -⟩ := Grammar.parse_leafAt? Noted.parse_text 6
  obtain ⟨hblank, -, -⟩ := Grammar.parse_leafAt? Noted.parse_text 7
  have hitem : (Noted.result.tree.leafAt? 6).isSome = true := by decide +kernel
  have hnote : Noted.result.tree.leafAt? 7 = none := by decide +kernel
  obtain ⟨id, hid⟩ := Option.isSome_iff_exists.mp hitem
  refine ⟨Noted.parse_text, by decide +kernel, ⟨id, (hpointed id).mp hid, ?_⟩, ?_⟩
  · exact fun id' hid' => hunique id' id hid' ((hpointed id).mp hid)
  · intro id' hid'
    rw [(hblank id').mpr hid'] at hnote
    cases hnote

end Workbench
