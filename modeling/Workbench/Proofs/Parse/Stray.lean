import Workbench.Proofs.Grammar.Accepted
import Workbench.Proofs.Parse.Expression
import Workbench.Proofs.Parse.Grow
import Workbench.Proofs.Parse.Lossless
/-!
# Where a parse never comes

The interpreter gives up quietly where it meets what building should have kept
out: a cross-reference outside of an assignment, an assigned value of another
shape, an assignment without a node to take it, a rule or a terminal that is
not there. If building let one of them through, the rule would just never
match. So here is the interpreter with something else to do at these places
(`Stray`), whatever it is; for a grammar that was built, no text is parsed in
another way (`Grammar.parseOr_eq`).
-/

namespace Workbench

namespace Parse

/-- **What to do where a parse should never come.** -/
structure Stray where
  /-- With an element that cannot be matched for itself. -/
  element : Element → Step Bool
  /-- With an element that has no value. -/
  value : Element → Step (Option Assigned)
  /-- With a call of a rule that is not there. -/
  call : Call

/-- What the interpreter does there: it finds nothing. -/
def Stray.silent (src : Source) : Stray where
  element
    | .terminal id index => return (← terminal src id index).isSome
    | _ => return false
  value
    | .terminal id index =>
      return (← terminal src id index).map fun (_, token) => .scalar (convert .text token.text)
    | .crossRef id target index =>
      return (← terminal src id index).map fun (leaf, token) => .reference token.text leaf target
    | _ => return none
  call _ _ := return none

/-! ## The interpreter with something else to do -/

mutual

/-- The value of an element inside an assignment. -/
def assignedOr (stray : Stray) (src : Source) (call : Call) : Element → Step (Option Assigned)
  | .keyword id text => do
    tick
    return (← keyword src id text).map fun _ => .scalar (.str text)
  | .terminal id index => do
    tick
    match src.grammar.terminals[index]? with
    | some found =>
      return (← terminal src id index).map fun (_, token) => .scalar (convert found.value token.text)
    | none => stray.value (.terminal id index)
  | .call id rule => do
    tick
    return (← call id rule).map .node
  | .crossRef id target index => do
    tick
    match src.grammar.terminals[index]? with
    | some _ =>
      return (← terminal src id index).map fun (leaf, token) => .reference token.text leaf target
    | none => stray.value (.crossRef id target index)
  | .alt _ items => do
    tick
    firstAssignedOr stray src call items
  | .assign id feature op value => do
    tick
    stray.value (.assign id feature op value)
  | .seq id items => do
    tick
    stray.value (.seq id items)
  | .repeated id cardinality body => do
    tick
    stray.value (.repeated id cardinality body)

/-- The value of the first element that gives one. -/
def firstAssignedOr (stray : Stray) (src : Source) (call : Call) :
    List Element → Step (Option Assigned)
  | [] => return none
  | item :: items => do
    match ← attempt (assignedOr stray src call item) with
    | some value => return some value
    | none => firstAssignedOr stray src call items

end

mutual

/-- Matches an element. -/
def elementOr (stray : Stray) (src : Source) (call : Call) : Element → Step Bool
  | .keyword id text => do
    tick
    return (← keyword src id text).isSome
  | .terminal id index => do
    tick
    match src.grammar.terminals[index]? with
    | some _ => return (← terminal src id index).isSome
    | none => stray.element (.terminal id index)
  | .call id rule => do
    tick
    match ← call id rule with
    | some node => do
      modify fun s => { s with produced := some node }
      return true
    | none => return false
  | .crossRef id target index => do
    tick
    stray.element (.crossRef id target index)
  | .assign id feature op value => do
    tick
    match (← get).node with
    | none => stray.element (.assign id feature op value)
    | some node =>
      match ← assignedOr stray src call value with
      | none => return false
      | some value => do
        modify (State.store node feature op value)
        return true
  | .seq _ items => do
    tick
    allElementsOr stray src call items
  | .alt _ items => do
    tick
    firstElementOr stray src call items
  | .repeated _ cardinality body => do
    tick
    let n := src.tokens.size - (← get).pos
    let count ← rounds (cardinality = .optional) (elementOr stray src call body) (n + 1)
    return count > 0 || cardinality != .atLeastOne

/-- Matches all elements, one after the other. -/
def allElementsOr (stray : Stray) (src : Source) (call : Call) : List Element → Step Bool
  | [] => return true
  | item :: items => do
    if ← elementOr stray src call item then allElementsOr stray src call items else return false

/-- Matches the first element that matches. -/
def firstElementOr (stray : Stray) (src : Source) (call : Call) : List Element → Step Bool
  | [] => return false
  | item :: items => do
    if ← attemptMatch (elementOr stray src call item) then return true
    else firstElementOr stray src call items

end

/-- Runs a rule. -/
def callRuleOr (stray : Stray) (src : Source) : Nat → Call
  | 0, _, _ => goOn
  | depth + 1, source, index => fun s =>
    match src.grammar.rules[index]? with
    | none => stray.call source index s
    | some rule =>
      let m := s.mark
      closeCall rule m (elementOr stray src (callRuleOr stray src depth) rule.body)
        (openCall rule source m s)

/-- Parses the tokens of a source from a rule. -/
def entryOr (stray : Stray) (src : Source) (rule : Rule) : Step Unit := do
  recover src (elementOr stray src (callRuleOr stray src (callDepth src)) rule.body)
    (src.tokens.size + 1)
  modify fun s => s.attachHidden src (src.tokens.size - s.pos)

/-- Parses a text from a rule. -/
def runOr (stray : Source → Stray) (g : Grammar) (rule : Rule) (text : String)
    (interrupt : Interrupt) : Except Abort (ParseResult × Interrupt) :=
  match interrupt.check with
  | none => .error .cancelled
  | some interrupt =>
    match Lexeme.ofText? g text.toList with
    | none => .error .endless
    | some lexemes =>
      let src := sourceOf g text lexemes
      match entryOr (stray src) src rule (State.start src rule interrupt) with
      | .error abort => .error abort
      | .ok (_, s) =>
        let lexerErrors := (Lexeme.withRanges text.toList lexemes).filterMap fun (l, range) =>
          l.error? range
        .ok (⟨⟨s.ast, s.cst, s.references, ⟨0⟩, ⟨0⟩⟩, lexerErrors, s.errors⟩, s.interrupt)

end Parse

/-- **Parses a text with something else to do at the places where a parse
should never come.** -/
def Grammar.parseOr (stray : Parse.Source → Parse.Stray) (g : Grammar) (text : String)
    (entry : Option String) (interrupt : Interrupt) :
    Except Parse.Abort (ParseResult × Interrupt) := do
  let rule ← g.entryRule entry
  Parse.runOr stray g rule text interrupt

/-! ## The terminals of elements -/

mutual

/-- The terminals of an element and its parts. -/
def Element.tokens : Element → List Nat
  | .keyword _ _ => []
  | .terminal _ index => [index]
  | .call _ _ => []
  | .crossRef _ _ index => [index]
  | .assign _ _ _ value => value.tokens
  | .seq _ items => Element.tokensOf items
  | .alt _ items => Element.tokensOf items
  | .repeated _ _ body => body.tokens

/-- The terminals of several elements and their parts. -/
def Element.tokensOf : List Element → List Nat
  | [] => []
  | e :: es => e.tokens ++ Element.tokensOf es

end

section Tokens

variable {d : Definition} {rule : RuleDef} {g : Grammar}

theorem Definition.token_lt {name : String} {index : ℕ} (h : d.token rule name = .ok index) :
    index < d.terminals.length := by
  rw [Definition.token] at h
  split at h
  next i hfound =>
    cases h
    exact (List.findIdx?_eq_some_iff_getElem.mp (Option.filter_eq_some_iff.mp hfound).1).1
  next => cases h

mutual

/-- What is compiled mentions terminals that are there. -/
theorem Expr.Compiles.tokens : ∀ {assigned : Bool} {e : Expr} {next next' : ℕ} {el : Element},
    Expr.Compiles d rule assigned e next el next' → ∀ i ∈ el.tokens, i < d.terminals.length
  | _, _, _, _, _, .keyword => nofun
  | _, _, _, _, _, .terminal hindex => List.forall_mem_singleton.mpr (Definition.token_lt hindex)
  | _, _, _, _, _, .call _ _ => nofun
  | _, _, _, _, _, .crossRef _ hindex =>
    List.forall_mem_singleton.mpr (Definition.token_lt hindex)
  | _, _, _, _, _, .assign _ _ hvalue => by
    rw [Element.tokens]
    exact hvalue.tokens
  | _, _, _, _, _, .seq hitems => hitems.tokens
  | _, _, _, _, _, .alt hitems => hitems.tokens
  | _, _, _, _, _, .repeated hbody => by
    rw [Element.tokens]
    exact hbody.tokens

theorem Expr.CompilesAll.tokens : ∀ {assigned : Bool} {es : List Expr} {next next' : ℕ}
    {els : List Element}, Expr.CompilesAll d rule assigned es next els next' →
      ∀ i ∈ Element.tokensOf els, i < d.terminals.length
  | _, _, _, _, _, .nil => nofun
  | _, _, _, _, _, .cons he hes => List.forall_mem_append.mpr ⟨he.tokens, hes.tokens⟩

end

theorem RuleDef.CompilesAll.tokens {rs : List RuleDef} {next next' : ℕ} {rules : List Rule}
    (h : RuleDef.CompilesAll d rs next rules next') :
    ∀ r ∈ rules, ∀ i ∈ r.body.tokens, i < d.terminals.length := by
  induction h with
  | nil => exact List.forall_mem_nil _
  | cons hone _ ih => exact List.forall_mem_cons.mpr ⟨hone.body.tokens, ih⟩

/-- **The rules of a grammar mention terminals that are there.** -/
theorem Definition.tokens_lt (h : d.build = .ok g) {r : Rule} (hr : r ∈ g.rules) :
    ∀ i ∈ r.body.tokens, i < g.terminals.size := by
  obtain ⟨terminals, rules, last, entry, hterminals, hrules, -, rfl⟩ := Definition.build_ok h
  show ∀ i ∈ r.body.tokens, i < terminals.toArray.size
  rw [List.size_toArray, length_of_mapM hterminals]
  exact (RuleDef.compilesAll hrules).tokens r (List.mem_toArray.mp hr)

end Tokens

namespace Parse

variable {src : Source} {stray : Stray} {callOr call : Call} {union : Bool} {s : State}

/-! ## Nothing strays -/

section Congruence

variable {α β : Type}

/-- Steps that agree where they are taken. -/
theorem bind_congr_at {x y : Step α} {f g : α → Step β} (hx : x s = y s)
    (hf : ∀ a s', y s = .ok (a, s') → f a s' = g a s') : (x >>= f) s = (y >>= g) s := by
  cases hy : y s with
  | error abort =>
    simp only [Bind.bind, StateT.bind, Except.bind, hx, hy]
  | ok r => rw [bind_of_ok (hx.trans hy), bind_of_ok hy, hf r.1 r.2 hy]

theorem attemptMatch_congr {x y : Step Bool} (h : x s = y s) :
    attemptMatch x s = attemptMatch y s := by
  rw [attemptMatch, attemptMatch, matchOrRestore, matchOrRestore, h]

/-- Rounds of steps that agree as long as there is a node, or none. -/
theorem rounds_congr (src : Source) {once : Bool} {x y : Step Bool}
    (h : ∀ s : State, s.node.isNone = union → x s = y s)
    (hgrown : ∀ s b s', y s = .ok (b, s') → Grown s s') (n : ℕ) (hs : s.node.isNone = union) :
    rounds once x n s = rounds once y n s := by
  induction n generalizing s with
  | zero => rfl
  | succ n ih =>
    rw [rounds, rounds, get_then, get_then]
    refine bind_congr_at (attemptMatch_congr (h s hs)) fun matched s₁ hmatch => ?_
    have hnode := ((kept_grown src).attemptMatch hgrown hmatch).node
    cases matched with
    | false => rfl
    | true =>
      rw [if_pos rfl, if_pos rfl, get_then, get_then]
      split
      · rfl
      · exact bind_congr_at (ih (by rw [hnode]; exact hs)) fun _ _ _ => rfl

end Congruence

/-- An element can be the value of an assignment, or there is nothing else to
do. -/
def AllowedValue (stray : Stray) (src : Source) (e : Element) : Prop :=
  stray = .silent src ∨
    e.isValue src.grammar.rules.size = true ∧ ∀ i ∈ e.tokens, i < src.grammar.terminals.size

/-- An element can be matched for itself, or there is nothing else to do. -/
def Allowed (stray : Stray) (src : Source) (union : Bool) (e : Element) : Prop :=
  stray = .silent src ∨
    e.placed src.grammar.rules.size union = true ∧ ∀ i ∈ e.tokens, i < src.grammar.terminals.size

/-- Calls agree on the rules that are there, or there is nothing else to do. -/
def CallsAgree (stray : Stray) (src : Source) (callOr call : Call) : Prop :=
  ∀ id index, stray = .silent src ∨ index < src.grammar.rules.size → callOr id index = call id index

/-- There is nothing else to do with what is no value. -/
theorem AllowedValue.silent {e : Element} (h : AllowedValue stray src e)
    (hvalue : e.isValue src.grammar.rules.size = false) : stray = .silent src :=
  h.resolve_right fun hallowed => absurd hallowed.1 (by rw [hvalue]; exact Bool.false_ne_true)

theorem Allowed.silent {e : Element} (h : Allowed stray src union e)
    (hplaced : e.placed src.grammar.rules.size union = false) : stray = .silent src :=
  h.resolve_right fun hallowed => absurd hallowed.1 (by rw [hplaced]; exact Bool.false_ne_true)

/-- There is nothing else to do without a terminal either: those of what is
allowed are there. -/
theorem silent_of_none {P : Prop} {e : Element} {index : ℕ}
    (h : stray = .silent src ∨ P ∧ ∀ i ∈ e.tokens, i < src.grammar.terminals.size)
    (hmem : index ∈ e.tokens) (hnone : src.grammar.terminals[index]? = none) :
    stray = .silent src :=
  h.resolve_right fun hallowed =>
    absurd (hallowed.2 index hmem) (Nat.not_lt.mpr (Array.getElem?_eq_none_iff.mp hnone))

mutual

/-- **A value is found in the same way.** -/
theorem assignedOr_eq (hcall : CallsAgree stray src callOr call) :
    ∀ (e : Element), AllowedValue stray src e →
      assignedOr stray src callOr e = assigned src call e
  | .keyword id text, _ => by rw [assignedOr, assigned]
  | .terminal id index, h => by
    rw [assignedOr, assigned]
    cases hfound : src.grammar.terminals[index]? with
    | some found => rfl
    | none =>
      obtain rfl := silent_of_none h List.mem_cons_self hfound
      rfl
  | .call id index, h => by
    rw [assignedOr, assigned, hcall id index (h.imp_right fun h => of_decide_eq_true h.1)]
  | .crossRef id target index, h => by
    rw [assignedOr, assigned]
    cases hfound : src.grammar.terminals[index]? with
    | some found => rfl
    | none =>
      obtain rfl := silent_of_none h List.mem_cons_self hfound
      rfl
  | .alt id items, h => by
    rw [assignedOr, assigned, firstAssignedOr_eq hcall items h]
  | .assign id feature op value, h => by
    rw [assignedOr, assigned]
    obtain rfl := h.silent rfl
    rfl
  | .seq id items, h => by
    rw [assignedOr, assigned]
    obtain rfl := h.silent rfl
    rfl
  | .repeated id cardinality body, h => by
    rw [assignedOr, assigned]
    obtain rfl := h.silent rfl
    rfl

theorem firstAssignedOr_eq (hcall : CallsAgree stray src callOr call) :
    ∀ (items : List Element), stray = .silent src ∨
        Element.areValues src.grammar.rules.size items = true ∧
          (∀ i ∈ Element.tokensOf items, i < src.grammar.terminals.size) →
      firstAssignedOr stray src callOr items = firstAssigned src call items
  | [], _ => by rw [firstAssignedOr, firstAssigned]
  | item :: items, h => by
    rw [Element.areValues, Bool.and_eq_true, Element.tokensOf, List.forall_mem_append] at h
    rw [firstAssignedOr, assignedOr_eq hcall item (h.imp_right fun h => ⟨h.1.1, h.2.1⟩),
      firstAssignedOr_eq hcall items (h.imp_right fun h => ⟨h.1.2, h.2.2⟩)]
    rfl

end

mutual

/-- **An element is matched in the same way**, if there is a node for the
assignments in it. -/
theorem elementOr_eq (hcall : CallsAgree stray src callOr call)
    (hgrown : KeptBy (fun _ => True) Grown Found call) :
    ∀ (e : Element) (s : State), Allowed stray src union e → s.node.isNone = union →
      elementOr stray src callOr e s = element src call e s
  | .keyword id text, s, _, _ => by rw [elementOr, element]
  | .terminal id index, s, h, _ => by
    rw [elementOr, element]
    cases hfound : src.grammar.terminals[index]? with
    | some found => rfl
    | none =>
      obtain rfl := silent_of_none h List.mem_cons_self hfound
      rfl
  | .call id index, s, h, _ => by
    rw [elementOr, hcall id index (h.imp_right fun h => of_decide_eq_true h.1)]
    rfl
  | .crossRef id target index, s, h, _ => by
    rw [elementOr, element]
    obtain rfl := h.silent rfl
    rfl
  | .assign id feature op value, s, h, hs => by
    rw [elementOr, element]
    refine bind_congr_at rfl fun _ s₁ htick => ?_
    rw [get_then, get_then]
    have hvalue : AllowedValue stray src value := h.imp_right fun h =>
      ⟨(Bool.and_eq_true _ _ ▸ h.1 : _ ∧ _).2, h.2⟩
    cases hnode : s₁.node with
    | some node =>
      exact bind_congr_at (by rw [assignedOr_eq hcall value hvalue]) fun _ _ _ => rfl
    | none =>
      rcases h with rfl | ⟨hplaced, -⟩
      · rfl
      · -- unions assign nothing, and other rules have nodes
        rw [← (Grown.tick htick).node, hnode] at hs
        subst hs
        cases hplaced
  | .seq id items, s, h, hs => by
    rw [elementOr, element]
    refine bind_congr_at rfl fun _ s₁ htick => ?_
    exact allElementsOr_eq hcall hgrown items s₁ h (by rw [(Grown.tick htick).node]; exact hs)
  | .alt id items, s, h, hs => by
    rw [elementOr, element]
    refine bind_congr_at rfl fun _ s₁ htick => ?_
    exact firstElementOr_eq hcall hgrown items s₁ h (by rw [(Grown.tick htick).node]; exact hs)
  | .repeated id cardinality body, s, h, hs => by
    rw [elementOr, element]
    refine bind_congr_at rfl fun _ s₁ htick => ?_
    rw [get_then, get_then]
    have hs₁ : s₁.node.isNone = union := by
      rw [(Grown.tick htick).node]
      exact hs
    exact bind_congr_at (rounds_congr src (fun s hs => elementOr_eq hcall hgrown body s h hs)
      (fun _ _ _ => Grown.elementOf hgrown) _ hs₁) fun _ _ _ => rfl

theorem allElementsOr_eq (hcall : CallsAgree stray src callOr call)
    (hgrown : KeptBy (fun _ => True) Grown Found call) :
    ∀ (items : List Element) (s : State), stray = .silent src ∨
        Element.allPlaced src.grammar.rules.size union items = true ∧
          (∀ i ∈ Element.tokensOf items, i < src.grammar.terminals.size) → s.node.isNone = union →
      allElementsOr stray src callOr items s = allElements src call items s
  | [], s, _, _ => by rw [allElementsOr, allElements]
  | item :: items, s, h, hs => by
    rw [Element.allPlaced, Bool.and_eq_true, Element.tokensOf, List.forall_mem_append] at h
    rw [allElementsOr, allElements]
    refine bind_congr_at (elementOr_eq hcall hgrown item s
      (h.imp_right fun h => ⟨h.1.1, h.2.1⟩) hs) fun matched s₁ hmatch => ?_
    cases matched with
    | false => rfl
    | true =>
      refine allElementsOr_eq hcall hgrown items s₁ (h.imp_right fun h => ⟨h.1.2, h.2.2⟩) ?_
      rw [(Grown.elementOf hgrown hmatch).node]
      exact hs

theorem firstElementOr_eq (hcall : CallsAgree stray src callOr call)
    (hgrown : KeptBy (fun _ => True) Grown Found call) :
    ∀ (items : List Element) (s : State), stray = .silent src ∨
        Element.allPlaced src.grammar.rules.size union items = true ∧
          (∀ i ∈ Element.tokensOf items, i < src.grammar.terminals.size) → s.node.isNone = union →
      firstElementOr stray src callOr items s = firstElement src call items s
  | [], s, _, _ => by rw [firstElementOr, firstElement]
  | item :: items, s, h, hs => by
    rw [Element.allPlaced, Bool.and_eq_true, Element.tokensOf, List.forall_mem_append] at h
    rw [firstElementOr, firstElement]
    refine bind_congr_at (attemptMatch_congr (elementOr_eq hcall hgrown item s
      (h.imp_right fun h => ⟨h.1.1, h.2.1⟩) hs)) fun matched s₁ hmatch => ?_
    cases matched with
    | true => rfl
    | false =>
      refine firstElementOr_eq hcall hgrown items s₁ (h.imp_right fun h => ⟨h.1.2, h.2.2⟩) ?_
      rw [((kept_grown src).attemptMatch (fun _ _ _ => Grown.elementOf hgrown) hmatch).node]
      exact hs

end

/-! ## Whole parses -/

/-- A grammar in good order, or nothing else to do. -/
def Orderly (stray : Stray) (src : Source) : Prop :=
  stray = .silent src ∨
    src.grammar.Placed ∧
      ∀ r ∈ src.grammar.rules, ∀ i ∈ r.body.tokens, i < src.grammar.terminals.size

theorem Orderly.allowed (h : Orderly stray src) {rule : Rule} (hrule : rule ∈ src.grammar.rules) :
    Allowed stray src rule.isUnion rule.body :=
  h.imp_right fun h => ⟨h.1 rule hrule, h.2 rule hrule⟩

theorem node_openCall (rule : Rule) (source : ElementId) (s : State) :
    (openCall rule source s.mark s).node.isNone = rule.isUnion := by
  show (ownNode rule s.mark).isNone = rule.isUnion
  rw [ownNode]
  cases rule.isUnion <;> rfl

/-- **Rules are run in the same way.** -/
theorem callsAgree (h : Orderly stray src) (depth : ℕ) :
    CallsAgree stray src (callRuleOr stray src depth) (callRule src depth) := by
  induction depth with
  | zero =>
    intro id index _
    rw [callRuleOr, callRule]
  | succ depth ih =>
    intro id index hindex
    funext s
    rw [callRuleOr, callRule]
    cases hrule : src.grammar.rules[index]? with
    | none =>
      rcases hindex with rfl | hlt
      · rfl
      · rw [Array.getElem?_eq_getElem hlt] at hrule
        cases hrule
    | some rule =>
      dsimp only
      rw [closeCall, closeCall, elementOr_eq ih (keptBy_callRule src depth) rule.body _
        (h.allowed (Array.mem_of_getElem? hrule)) (node_openCall rule id s)]

/-- Rounds of the entry rule agree if its body does as long as there is a node
for it. -/
theorem recover_congr {x y : Step Bool} (h : ∀ s : State, s.node ≠ none → x s = y s)
    (hgrown : ∀ s b s', y s = .ok (b, s') → Grown s s') (n : ℕ) (hs : s.node ≠ none) :
    recover src x n s = recover src y n s := by
  induction n generalizing s with
  | zero => rfl
  | succ n ih =>
    rw [recover, recover]
    refine bind_congr_at (attemptMatch_congr (h s hs)) fun matched s₁ hmatch => ?_
    have hs₁ : s₁.node ≠ none := by
      rw [((kept_grown src).attemptMatch hgrown hmatch).node]
      exact hs
    rw [get_then, get_then]
    cases hnext : s₁.nextSignificant src with
    | none => cases matched <;> rfl
    | some next =>
      -- between two rounds nothing touches the node of the rule
      have hrest : ∀ {again again' : Step Unit},
          (∀ s : State, s.node ≠ none → again s = again' s) →
          (do check
              modify (reported src)
              modify (skipped src next)
              again : Step Unit) s₁ =
          (do check
              modify (reported src)
              modify (skipped src next)
              again' : Step Unit) s₁ := by
        intro again again' hagain
        refine bind_congr_at rfl fun _ s₂ hcheck => bind_congr_at rfl fun _ s₃ hreport =>
          bind_congr_at rfl fun _ s₄ hskip => hagain s₄ ?_
        obtain ⟨interrupt, rfl⟩ := check_ok hcheck
        obtain rfl := modify_ok hreport
        obtain rfl := modify_ok hskip
        have hskipped : ∀ n, (skipTokens src n (reported src { s₁ with interrupt })).node ≠ none :=
          fun n => skipTokens_keeps (P := fun s => s.node ≠ none) (fun _ _ _ _ _ _ h => h)
            (fun _ h => h) n hs₁
        exact hskipped _
      cases matched with
      | false => exact hrest fun s hs => ih hs
      | true => exact hrest fun s hs => ih hs

/-- **The entry rule is run in the same way.** -/
theorem entryOr_eq (h : Orderly stray src) {rule : Rule} (hrule : rule ∈ src.grammar.rules)
    (hunion : stray = .silent src ∨ rule.isUnion = false) (hs : s.node ≠ none) :
    entryOr stray src rule s = entry src rule s := by
  have hallowed : Allowed stray src false rule.body := by
    rcases hunion with hsilent | hunion
    · exact Or.inl hsilent
    · rw [← hunion]
      exact h.allowed hrule
  have hbody : ∀ s : State, s.node ≠ none →
      elementOr stray src (callRuleOr stray src (callDepth src)) rule.body s =
        element src (callRule src (callDepth src)) rule.body s := fun s hs =>
    elementOr_eq (callsAgree h _) (keptBy_callRule src _) rule.body s hallowed
      (by rw [Option.isNone_eq_false_iff, Option.isSome_iff_ne_none]; exact hs)
  rw [entryOr, entry]
  exact bind_congr_at (recover_congr hbody (fun _ _ _ => Grown.element) _ hs) fun _ _ _ => rfl

theorem runOr_eq {stray : Source → Stray} {g : Grammar} {rule : Rule} (hrule : rule ∈ g.rules)
    (h : ∀ src : Source, src.grammar = g → Orderly (stray src) src)
    (hunion : (∀ src : Source, stray src = .silent src) ∨ rule.isUnion = false) (text : String)
    (interrupt : Interrupt) : runOr stray g rule text interrupt = run g rule text interrupt := by
  rw [runOr, run]
  cases interrupt.check with
  | none => rfl
  | some start =>
    dsimp only
    cases Lexeme.ofText? g text.toList with
    | none => rfl
    | some lexemes =>
      dsimp only
      rw [entryOr_eq (h _ rfl) hrule (hunion.imp_left fun h => h _) (Option.some_ne_none _)]
      rfl

end Parse

/-! ## Grammars that were built -/

section Built

variable {d : Definition} {g : Grammar}

theorem Definition.isUnion_entryRule (h : d.build = .ok g) {name : Option String} {rule : Rule}
    (hrule : g.entryRule name = .ok rule) : rule.isUnion = false := by
  obtain ⟨entry, hentry, hunion⟩ := Definition.exists_entry h
  rcases (Grammar.entryRule_cases hrule).2 with hsame | hunion'
  · rw [hentry, Option.some.injEq] at hsame
    rw [← hsame]
    exact hunion
  · exact hunion'

/-- Where there is nothing else to do, this is the interpreter, for any
grammar. -/
theorem Grammar.parseOr_silent (g : Grammar) (text : String) (name : Option String)
    (interrupt : Interrupt) :
    g.parseOr Parse.Stray.silent text name interrupt = g.parse text name interrupt := by
  rw [Grammar.parseOr, Grammar.parse]
  simp only [Bind.bind, Except.bind]
  cases hrule : g.entryRule name with
  | error abort => rfl
  | ok rule =>
    exact Parse.runOr_eq (Grammar.entryRule_cases hrule).1 (fun _ _ => Or.inl rfl)
      (Or.inl fun _ => rfl) text interrupt

/-- **A grammar that was built never strays.** -/
theorem Grammar.parseOr_eq (h : d.build = .ok g) (stray : Parse.Source → Parse.Stray)
    (text : String) (name : Option String) (interrupt : Interrupt) :
    g.parseOr stray text name interrupt = g.parse text name interrupt := by
  rw [Grammar.parseOr, Grammar.parse]
  simp only [Bind.bind, Except.bind]
  cases hrule : g.entryRule name with
  | error abort => rfl
  | ok rule =>
    refine Parse.runOr_eq (Grammar.entryRule_cases hrule).1 (fun src hsrc => Or.inr ?_)
      (Or.inr (Definition.isUnion_entryRule h hrule)) text interrupt
    rw [hsrc]
    exact ⟨Definition.placed h, fun r hr => Definition.tokens_lt h hr⟩

/-- **Building accepts exactly the definitions in good order, and what it
accepts is never parsed with to a place that should not be reached**: there is
an entry, every rule a parse starts from makes nodes, and whatever is done with
misplaced elements, with calls and with terminals that are not there, every
parse is the same. -/
theorem Definition.build_accepts (d : Definition) :
    ((∃ g, d.build = .ok g) ↔ d.WellFormed) ∧ ∀ g, d.build = .ok g →
      (∃ rule, g.entryRule none = .ok rule) ∧
      (∀ name rule, g.entryRule name = .ok rule → rule.isUnion = false) ∧
      ∀ stray text name interrupt,
        g.parseOr stray text name interrupt = g.parse text name interrupt := by
  refine ⟨d.exists_build_iff, fun g h => ⟨?_, fun name rule => Definition.isUnion_entryRule h,
    Grammar.parseOr_eq h⟩⟩
  obtain ⟨rule, hrule, -⟩ := Definition.exists_entry h
  exact ⟨rule, by rw [Grammar.entryRule, hrule]⟩

/-- A parse gives up at places that should not be reached. -/
def Parse.Stray.giveUp : Parse.Stray :=
  ⟨fun _ _ => .error .cancelled, fun _ _ => .error .cancelled, fun _ _ _ => .error .cancelled⟩

/-- A grammar that was not built, with a cross-reference outside of an
assignment: there it makes a difference what is done. -/
example :
    let g : Grammar :=
      ⟨"", #[⟨"Name", "[a-z]", .token, .text, default⟩],
        #[⟨⟨0⟩, "Model", .node "Model", .crossRef ⟨1⟩ ⟨"Model", false⟩ 0⟩], 0, []⟩
    (g.parse "" none .never).isOk = true ∧
      (g.parseOr (fun _ => .giveUp) "" none .never).isOk = false := by
  decide

open Noted in
/-- Items with references and notes: the definition is in good order, and a
parse that would give up comes through. -/
theorem build_accepts_noted :
    definition.WellFormed ∧ (∃ rule, grammar.entryRule none = .ok rule) ∧
      (grammar.parseOr (fun _ => .giveUp) text none .never).isOk = true := by
  obtain ⟨haccepts, hbuilt⟩ := Definition.build_accepts definition
  obtain ⟨hentry, -, hparse⟩ := hbuilt grammar build_definition
  refine ⟨haccepts.mp ⟨grammar, build_definition⟩, hentry, ?_⟩
  rw [hparse]
  decide +kernel

end Built

end Workbench
