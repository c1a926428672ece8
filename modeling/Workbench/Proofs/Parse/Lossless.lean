import Workbench.Proofs.Lexeme.Munch
import Workbench.Proofs.Parse.Invariant
import Workbench.Proofs.Parse.Ordered
/-!
# Concrete trees are lossless

Tokens enter the tree in four places: where they are matched, as hidden
tokens before a match, where they are skipped after an error, and as hidden
tokens at the end. They leave it again where an attempt is undone. At any
time the leaves are the tokens passed so far, in order (`Covered`): the place
and the leaves advance together, and go back together.
-/

namespace Workbench

/-- What a leaf tells of its token. -/
structure Leaf where
  tokenType : String
  offset : Nat
  length : Nat
  range : Range
  hidden : Bool
deriving DecidableEq, Repr

/-- The leaf that a concrete node is. -/
def CstNode.leaf? (node : CstNode) : Option Leaf :=
  match node.kind with
  | .leaf tokenType offset length range => some ⟨tokenType, offset, length, range, node.hidden⟩
  | _ => none

/-- The leaf of a token. -/
def Token.leaf (t : Token) : Leaf := ⟨t.label, t.offset, t.length, t.range, t.hidden⟩

/-- **The leaves of a tree**, in preorder. -/
def SyntaxTree.leaves (t : SyntaxTree) : List Leaf :=
  t.cstPreorder.filterMap fun id => (t.cst? id).bind CstNode.leaf?

/-- What is found at the handles of the concrete nodes, in their order. -/
theorem SyntaxTree.filterMap_handles {β : Type} (t : SyntaxTree) (found : CstNode → Option β) :
    (((List.range t.cst.size).map CstId.mk).filterMap fun id => (t.cst? id).bind found) =
      t.cst.toList.filterMap found := by
  calc (((List.range t.cst.size).map CstId.mk).filterMap fun id => (t.cst? id).bind found)
      = ((List.range t.cst.size).map (fun i => t.cst[i]?)).filterMap (·.bind found) := by
        rw [List.filterMap_map, List.filterMap_map]
        rfl
    _ = t.cst.toList.filterMap found := by
        rw [Parse.map_getElem?_range, List.filterMap_map]
        rfl

/-- **A token of a text**: it is named for what matched it, and hidden if
that says so; its range and its text are those of its bytes. -/
structure Token.Of (g : Grammar) (chars : List Char) (t : Token) : Prop where
  label : (t.kind = .keyword t.label ∧ t.hidden = false) ∨
    ∃ (index : ℕ) (terminal : Terminal), t.kind = .terminal index ∧
      g.terminals[index]? = some terminal ∧ t.label = terminal.name ∧
      terminal.kind = if t.hidden then .hidden else .token
  range : t.range = (LineIndex.ofText chars).range chars t.offset t.length
  text : Text.slice? chars t.offset (t.offset + t.length) = some t.text.toList

namespace Parse

variable {src : Source} {s s' : State}

/-- **The tokens of a text are what they say.** -/
theorem token_of {g : Grammar} {text : String} {lexemes : List Lexeme}
    (h : Lexeme.ofText? g text.toList = some lexemes) :
    ∀ t ∈ (sourceOf g text lexemes).tokens, t.Of g text.toList := by
  intro t ht
  have hspelled := (Lexeme.Munched.of_ofText? h).tiles.spelled []
  rw [sourceOf, List.mem_toArray, List.mem_filterMap, Lexeme.withRanges] at ht
  obtain ⟨_, hplaced, ht⟩ := ht
  obtain ⟨l, hl, rfl⟩ := List.mem_map.mp hplaced
  have htext : Text.slice? text.toList l.offset (l.offset + l.length) = some l.text :=
    hspelled l hl
  dsimp only at ht
  rw [Token.ofLexeme?] at ht
  split at ht
  · cases ht
  · next keyword hkind =>
    cases ht
    exact ⟨.inl ⟨hkind, rfl⟩, rfl, by rw [htext, String.toList_ofList]⟩
  · next index hkind =>
    split at ht
    · cases ht
    · next terminal hterminal =>
      split at ht
      · cases ht
      · next hhidden =>
        cases ht
        exact ⟨.inr ⟨index, terminal, hkind, hterminal, rfl, hhidden⟩, rfl,
          by rw [htext, String.toList_ofList]⟩
      · next htoken =>
        cases ht
        exact ⟨.inr ⟨index, terminal, hkind, hterminal, rfl, htoken⟩, rfl,
          by rw [htext, String.toList_ofList]⟩

/-! ## Tokens and leaves -/

/-- **The leaves so far are the tokens passed.** -/
structure Covered (src : Source) (s : State) : Prop where
  pos : s.pos ≤ src.tokens.size
  leaves : s.cst.toList.filterMap CstNode.leaf? = (src.tokens.toList.take s.pos).map Token.leaf

theorem filterMap_modify {α β : Type} {f : α → α} {found : α → Option β}
    (h : ∀ a, found (f a) = found a) (xs : Array α) (i : ℕ) :
    (xs.modify i f).toList.filterMap found = xs.toList.filterMap found := by
  have hmap : (xs.modify i f).toList.map found = xs.toList.map found := by
    refine List.ext_getElem? fun j => ?_
    rw [List.getElem?_map, List.getElem?_map, Array.getElem?_toList, Array.getElem?_toList,
      Array.getElem?_modify]
    split
    · cases xs[j]? with
      | none => rfl
      | some a => exact congrArg some (h a)
    · rfl
  have hid : ∀ l : List α, l.filterMap found = (l.map found).filterMap id := by
    intro l
    rw [List.filterMap_map]
    rfl
  rw [hid, hid, hmap]

/-- **What is read off leaves**: neither children nor links to nodes matter. -/
structure OfLeaves {β : Type} (found : CstNode → Option β) : Prop where
  mapChildren : ∀ (node : CstNode) f,
    found { node with kind := node.kind.mapChildren f } = found node
  link : ∀ (node : CstNode) link, found { node with astNode := link } = found node
  composite : ∀ node : CstNode, node.leaf? = none → found node = none

namespace OfLeaves

variable {β : Type} {found : CstNode → Option β}

/-- What is added to the tree is all that is found in addition. -/
theorem pushCst (h : OfLeaves found) (s : State) (kind : CstKind) (source : Option ElementId)
    (hidden : Bool) :
    (s.pushCst kind source hidden).cst.toList.filterMap found =
      s.cst.toList.filterMap found ++
        (found ⟨kind, some s.composite, ⟨0⟩, s.node, source, hidden⟩).toList := by
  rw [State.pushCst, State.addChild, filterMap_modify (fun node => h.mapChildren node _),
    Array.toList_push, List.filterMap_append]
  rfl

theorem linkCst (h : OfLeaves found) (s : State) (id : CstId) (link : Option NodeId) :
    (s.linkCst id link).cst.toList.filterMap found = s.cst.toList.filterMap found := by
  rw [State.linkCst, filterMap_modify]
  exact fun node => h.link node link

theorem openCall (h : OfLeaves found) (rule : Rule) (source : ElementId) (s : State) :
    (Parse.openCall rule source s.mark s).cst.toList.filterMap found =
      s.cst.toList.filterMap found := by
  simp only [Parse.openCall]
  rw [h.linkCst, h.pushCst, h.composite _ rfl]
  exact List.append_nil _

end OfLeaves

theorem ofLeaves_leaf? : OfLeaves CstNode.leaf? where
  mapChildren := by
    rintro ⟨kind, _, _, _, _, _⟩ f
    cases kind <;> rfl
  link := fun _ _ => rfl
  composite := fun _ h => h

namespace Covered

/-- Only the place and the concrete nodes matter. -/
theorem congr (h : Covered src s) (hpos : s'.pos = s.pos)
    (hleaves : s'.cst.toList.filterMap CstNode.leaf? = s.cst.toList.filterMap CstNode.leaf?) :
    Covered src s' where
  pos := hpos ▸ h.pos
  leaves := by rw [hleaves, hpos]; exact h.leaves

/-- **A token is passed as a leaf.** -/
theorem pass (h : Covered src s) {tok : Token} (htok : src.tokens[s.pos]? = some tok)
    (source : Option ElementId) :
    Covered src { s.pushLeaf tok source with pos := s.pos + 1 } where
  pos := (Array.getElem?_eq_some_iff.mp htok).1
  leaves := by
    have hget : src.tokens.toList[s.pos]? = some tok := by
      rw [Array.getElem?_toList]
      exact htok
    show (s.pushLeaf tok source).cst.toList.filterMap CstNode.leaf? = _
    rw [State.pushLeaf, ofLeaves_leaf?.pushCst, h.leaves, List.take_add_one, hget, List.map_append]
    rfl

/-- Hidden tokens are passed. -/
theorem attachHidden (n : ℕ) (h : Covered src s) (hn : s.pos + n ≤ src.tokens.size)
    (hhidden : ∀ i tok, s.pos ≤ i → i < s.pos + n → src.tokens[i]? = some tok →
      tok.hidden = true) :
    Covered src (s.attachHidden src n) ∧ (s.attachHidden src n).pos = s.pos + n := by
  induction n generalizing s with
  | zero => exact ⟨h, rfl⟩
  | succ n ih =>
    have hlt : s.pos < src.tokens.size := by omega
    have htok := Array.getElem?_eq_getElem hlt
    have htrue := hhidden s.pos _ (Nat.le_refl _) (by omega) htok
    simp only [State.attachHidden, htok, htrue, if_true]
    obtain ⟨hcovered, hpos⟩ := ih (h.pass htok none) (by simp only; omega)
      (fun i tok hi hi' => hhidden i tok (by simp only at hi; omega) (by simp only at hi'; omega))
    refine ⟨hcovered, hpos.trans ?_⟩
    simp only
    omega

/-- Tokens are skipped, hidden or not. -/
theorem skipTokens (n : ℕ) (h : Covered src s) (hn : s.pos + n ≤ src.tokens.size) :
    Covered src (Parse.skipTokens src n s) ∧ (Parse.skipTokens src n s).pos = s.pos + n := by
  induction n generalizing s with
  | zero => exact ⟨h, rfl⟩
  | succ n ih =>
    have hlt : s.pos < src.tokens.size := by omega
    have htok := Array.getElem?_eq_getElem hlt
    simp only [Parse.skipTokens, htok]
    obtain ⟨hcovered, hpos⟩ := ih (h.pass htok none) (by simp only; omega)
    refine ⟨hcovered, hpos.trans ?_⟩
    simp only
    omega

end Covered

/-! ## Matches -/

/-- Between a place and the next token that is not hidden, all are hidden. -/
theorem significantFrom_spec (tokens : Array Token) : ∀ n i,
    (State.significantFrom tokens n i = none → ∀ j tok, i ≤ j → j < i + n →
      tokens[j]? = some tok → tok.hidden = true) ∧
    ∀ index, State.significantFrom tokens n i = some index → index < tokens.size ∧
      ∀ j tok, i ≤ j → j < index → tokens[j]? = some tok → tok.hidden = true := by
  intro n
  induction n with
  | zero => exact fun i => ⟨fun _ j tok hi hj => absurd hj (by omega), by simp [State.significantFrom]⟩
  | succ n ih =>
    intro i
    rw [State.significantFrom]
    cases hget : tokens[i]? with
    | none =>
      refine ⟨fun _ j tok hi hj htok => ?_, by simp⟩
      have hsize := Array.getElem?_eq_none_iff.mp hget
      have hlt := (Array.getElem?_eq_some_iff.mp htok).1
      omega
    | some first =>
      -- a hidden token in front of a hidden stretch makes one longer
      have hstep : ∀ {k : ℕ}, (∀ j tok, i + 1 ≤ j → j < k → tokens[j]? = some tok →
          tok.hidden = true) → first.hidden = true →
          ∀ j tok, i ≤ j → j < k → tokens[j]? = some tok → tok.hidden = true := by
        intro k hrest hfirst j tok hi hj htok
        rcases Nat.eq_or_lt_of_le hi with rfl | hi
        · rw [hget, Option.some.injEq] at htok
          rwa [← htok]
        · exact hrest j tok hi hj htok
      dsimp only
      split
      · next hhidden =>
        obtain ⟨hnone, hsome⟩ := ih (i + 1)
        refine ⟨fun h => hstep (k := i + (n + 1)) ?_ hhidden, fun index h => ?_⟩
        · intro j tok hi hj
          exact hnone h j tok hi (by omega)
        · obtain ⟨hlt, hrest⟩ := hsome index h
          exact ⟨hlt, hstep hrest hhidden⟩
      · refine ⟨by simp, ?_⟩
        rintro _ ⟨⟩
        exact ⟨(Array.getElem?_eq_some_iff.mp hget).1, fun j tok hi hj => absurd hj (by omega)⟩

/-- A token is consumed with the hidden tokens before it. -/
theorem Covered.consume (h : Covered src s) {index : ℕ} {tok : Token} {source : Option ElementId}
    (hnext : s.nextSignificant src = some index) (htok : src.tokens[index]? = some tok) :
    Covered src (s.consume src index tok source) := by
  obtain ⟨hlt, hhidden⟩ := (significantFrom_spec _ _ _).2 index hnext
  have hge : s.pos ≤ index := significantFrom_ge _ _ _ hnext
  obtain ⟨hcovered, hpos⟩ := h.attachHidden (index - s.pos) (by omega)
    fun i tok' hi hi' => hhidden i tok' hi (by omega)
  have hplace : (s.attachHidden src (index - s.pos)).pos = index := by omega
  have hpass := hcovered.pass (by rw [hplace]; exact htok) source
  rw [hplace] at hpass
  exact hpass

/-- **Every match keeps the leaves to the tokens passed.** -/
theorem invariant_covered (src : Source) :
    Invariant src (fun _ => True) (Covered src) (fun _ _ => True) where
  noted := fun _ _ _ hs => hs.congr rfl rfl
  consume := fun _ hnext htok hs => hs.consume hnext htok
  scalar := fun _ => trivial
  reference := fun _ _ _ _ _ => trivial
  store := by
    rintro s s' n feature op value - - - hs' -
    refine hs'.congr ?_ (by rw [cst_store])
    cases value <;> rfl
  produce := fun _ hs' _ => hs'.congr rfl rfl
  openCall := fun _ hs => hs.congr rfl (ofLeaves_leaf?.openCall _ _ _)
  leaveCall := fun _ _ hs' _ => ⟨hs'.congr rfl (ofLeaves_leaf?.linkCst _ _ _), trivial⟩

/-! ## Whole parses -/

/-- **Recovery ends where no token is left** that is not hidden: every round
but the last skips one at least. -/
theorem Covered.recover {body : Step Bool}
    (hbody : ∀ s b s', attemptMatch body s = .ok (b, s') →
      Grown s s' ∧ (Covered src s → Covered src s')) :
    ∀ n s u s', Parse.recover src body n s = .ok (u, s') → Covered src s →
      src.tokens.size < s.pos + n → Covered src s' ∧ s'.nextSignificant src = none := by
  intro n
  induction n with
  | zero =>
    intro s u s' h hs hn
    have := hs.pos
    omega
  | succ n ih =>
    intro s u s' h hs hn
    obtain ⟨matched, s₁, hmatch, hcases⟩ := recover_ok h
    obtain ⟨hgrown, hkeeps⟩ := hbody s matched s₁ hmatch
    have hs₁ := hkeeps hs
    rcases hcases with ⟨-, hnext, rfl⟩ | ⟨s₂, hcheck, hcases⟩
    · exact ⟨hs₁, hnext⟩
    · obtain ⟨interrupt, rfl⟩ := check_ok hcheck
      have hs₃ : Covered src (reported src { s₁ with interrupt }) := hs₁.congr rfl rfl
      rcases hcases with ⟨hnext, rfl⟩ | ⟨next, hnext, hrest⟩
      · exact ⟨hs₃, hnext⟩
      · obtain ⟨hlt, -⟩ := (significantFrom_spec _ _ _).2 next hnext
        have hge : s₁.pos ≤ next := significantFrom_ge _ _ _ hnext
        have hmoved := hgrown.pos
        -- skipping passes the next token at least, so the bound falls
        obtain ⟨hskipped, hpos⟩ := hs₃.skipTokens
          (min (max s₁.furthest.pos next) (src.tokens.size - 1) + 1 - s₁.pos)
          (by show s₁.pos + _ ≤ _; omega)
        have hlast : (skipped src next (reported src { s₁ with interrupt })).pos = s₁.pos +
            (min (max s₁.furthest.pos next) (src.tokens.size - 1) + 1 - s₁.pos) := hpos
        exact ih _ _ _ hrest (hskipped.congr rfl rfl) (by omega)

/-- **A parse passes every token once.** -/
theorem Covered.entry {rule : Rule} {interrupt : Interrupt}
    {u : Unit} (h : Parse.entry src rule (State.start src rule interrupt) = .ok (u, s)) :
    s.cst.toList.filterMap CstNode.leaf? = src.tokens.toList.map Token.leaf := by
  rw [Parse.entry] at h
  obtain ⟨_, s₁, hrecover, h⟩ := bind_ok h
  obtain rfl := modify_ok h
  have hstart : Covered src (State.start src rule interrupt) := ⟨Nat.zero_le _, rfl⟩
  obtain ⟨hcovered, hnext⟩ := Covered.recover
    (fun s b s' hmatch => (invariant_covered src).attemptMatch (fun _ _ _ _ => trivial)
      (fun _ _ => trivial) hmatch)
    _ _ _ _ hrecover hstart (by show src.tokens.size < 0 + (src.tokens.size + 1); omega)
  have hle := hcovered.pos
  obtain ⟨hall, hpos⟩ := hcovered.attachHidden (src.tokens.size - s₁.pos) (by omega)
    fun i tok hi hi' => (significantFrom_spec _ _ _).1 hnext i tok hi (by omega)
  rw [hall.leaves, hpos, List.take_of_length_le (by simp; omega)]

/-- The concrete nodes of a parse are all that the arena holds, in order. -/
theorem cstPreorder_of_entry {rule : Rule} {interrupt : Interrupt} {u : Unit} {t : SyntaxTree}
    (h : Parse.entry src rule (State.start src rule interrupt) = .ok (u, s))
    (ht : t = ⟨s.ast, s.cst, s.references, ⟨0⟩, ⟨0⟩⟩) :
    t.cstPreorder = (List.range t.cst.size).map CstId.mk := by
  obtain ⟨hordered, hroot⟩ := CstOrdered.entry h
  rw [ht]
  exact hordered.cstPreorder hroot

end Parse

namespace Noted

/-- A model of items that refer to each other, with notes anywhere. -/
def definition : Definition :=
  { name := "Noted"
    terminals := [⟨"Note", "#", .hidden, .text⟩, ⟨"Gap", " ", .skip, .text⟩,
      ⟨"Name", "[a-z]", .token, .text⟩]
    rules := [
      ⟨"Model", some "Model", .repeated .many (.assign "items" .append (.call "Item"))⟩,
      ⟨"Item", some "Item",
        .seq [.assign "name" .set (.terminal "Name"), .keyword ":",
          .assign "of" .set (.crossRef "Item" "Name" false)]⟩]
    entry := none }

/-- The compiled definition. -/
def grammar : Grammar := definition.grammar

/-- An item, a character that nothing matches, half an item, and three
notes. -/
def text : String := "#a:b? c# d#"

/-- The parse of the text. -/
def result : ParseResult :=
  match grammar.parse text none .never with
  | .ok (r, _) => r
  | .error _ => default

theorem parse_text : grammar.parse text none .never = .ok (result, .never) := by
  have hleft : (grammar.parse text none .never).toOption.map Prod.snd = some .never := by
    decide +kernel
  rw [result]
  cases hparse : grammar.parse text none .never with
  | ok found =>
    obtain ⟨r, left⟩ := found
    rw [hparse] at hleft
    obtain rfl : left = .never := Option.some.inj hleft
    rfl
  | error e =>
    rw [hparse] at hleft
    cases hleft

theorem build_definition : definition.build = .ok grammar :=
  Definition.build_of_parse parse_text

end Noted

end Workbench
