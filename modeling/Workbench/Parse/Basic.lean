import Workbench.Parse.State
/-!
# Parsing

Rule bodies are interpreted directly. A choice takes the first alternative
that matches and never comes back to it; repetitions are greedy and end
with a round that passes no token. A called rule works under a composite of
its own, and a rule that makes nodes fills a new node there.

When the entry rule does not match, or leaves tokens behind, the furthest
failure is reported, everything up to and including it is skipped, and the
entry rule goes on from there.

The interpreter of bodies is given what a call does; `callRule` closes the
circle, and bounds how deep calls are nested. In a parse that ends, no rule
is called again at the same token inside itself, so rules times places is
deep enough. A parse that does not end asks whether to go on again and again:
an interrupt that fires at last ends it, and only without one is it endless.
-/

namespace Workbench

namespace Parse

/-- What a call does: the element that calls, the rule called, and the node
that comes of it. -/
abbrev Call := ElementId → Nat → Step (Option NodeId)

/-! ## Single tokens -/

/-- Consumes the next token if it is of a kind. -/
def token (src : Source) (id : ElementId) (kind : LexemeKind) (label : String) :
    Step (Option (CstId × Token)) := fun s =>
  let found : Option (Nat × Token) := do
    let index ← s.nextSignificant src
    let token ← src.tokens[index]?
    if token.kind = kind then some (index, token) else none
  match found with
  | some (index, token) =>
    let s := s.consume src index token (some id)
    .ok (some (⟨s.cst.size - 1⟩, token), s)
  | none => .ok (none, s.expect src label)

/-- Consumes a keyword. -/
def keyword (src : Source) (id : ElementId) (text : String) : Step (Option (CstId × Token)) :=
  token src id (.keyword text) ("'" ++ text ++ "'")

/-- Consumes a terminal. -/
def terminal (src : Source) (id : ElementId) (index : Nat) : Step (Option (CstId × Token)) :=
  token src id (.terminal index) (src.grammar.terminalName index)

/-! ## Assigned values -/

/-- A step that goes back to a mark when it gives nothing. -/
@[noinline] def orRestore {α : Type} (m : Mark) (step : Step (Option α)) : Step (Option α) :=
  fun s =>
  match step s with
  | .error abort => .error abort
  | .ok (some a, s') => .ok (some a, s')
  | .ok (none, s') => .ok (none, s'.restore m)

/-- **An attempt**: a step that is undone when it gives nothing. -/
def attempt {α : Type} (step : Step (Option α)) : Step (Option α) := fun s =>
  orRestore s.mark step s

mutual

/-- **The value of an element inside an assignment.** -/
def assigned (src : Source) (call : Call) : Element → Step (Option Assigned)
  | .keyword id text => do
    tick
    return (← keyword src id text).map fun _ => .scalar (.str text)
  | .terminal id index => do
    tick
    let value := (src.grammar.terminals[index]?.map Terminal.value).getD .text
    return (← terminal src id index).map fun (_, token) => .scalar (convert value token.text)
  | .call id rule => do
    tick
    return (← call id rule).map .node
  | .crossRef id target index => do
    tick
    return (← terminal src id index).map fun (leaf, token) => .reference token.text leaf target
  | .alt _ items => do
    tick
    firstAssigned src call items
  | .assign _ _ _ _ => do
    tick
    return none
  | .seq _ _ => do
    tick
    return none
  | .repeated _ _ _ => do
    tick
    return none

/-- The value of the first element that gives one. -/
def firstAssigned (src : Source) (call : Call) : List Element → Step (Option Assigned)
  | [] => return none
  | item :: items => do
    match ← attempt (assigned src call item) with
    | some value => return some value
    | none => firstAssigned src call items

end

/-- Counting it is all that a choice adds to the first value of its items. -/
theorem assigned_alt (src : Source) (call : Call) (id : ElementId) (items : List Element) :
    assigned src call (.alt id items) = (do tick; firstAssigned src call items) := by
  rw [assigned]

/-! ## Elements -/

/-- A step that goes back to a mark when it does not match. -/
@[noinline] def matchOrRestore (m : Mark) (step : Step Bool) : Step Bool := fun s =>
  match step s with
  | .error abort => .error abort
  | .ok (true, s') => .ok (true, s')
  | .ok (false, s') => .ok (false, s'.restore m)

/-- **An attempt to match**, undone when it fails. -/
def attemptMatch (step : Step Bool) : Step Bool := fun s =>
  matchOrRestore s.mark step s

/-- Matches as often as possible, at most `n` times: how often it matched.
A round that passes no token is the last. -/
def rounds (once : Bool) (body : Step Bool) : Nat → Step Nat
  | 0 => return 0
  | n + 1 => do
    let start := (← get).pos
    if ← attemptMatch body then
      if once || (← get).pos = start then return 1
      else return (← rounds once body n) + 1
    else return 0

mutual

/-- **Matches an element.** A match that fails leaves its traces to the
attempt it belongs to. -/
def element (src : Source) (call : Call) : Element → Step Bool
  | .keyword id text => do
    tick
    return (← keyword src id text).isSome
  | .terminal id index => do
    tick
    return (← terminal src id index).isSome
  | .call id rule => do
    tick
    match ← call id rule with
    | some node => do
      modify fun s => { s with produced := some node }
      return true
    | none => return false
  | .crossRef _ _ _ => do
    tick
    return false
  | .assign _ feature op value => do
    tick
    match (← get).node with
    | none => return false
    | some node =>
      match ← assigned src call value with
      | none => return false
      | some value => do
        modify (State.store node feature op value)
        return true
  | .seq _ items => do
    tick
    allElements src call items
  | .alt _ items => do
    tick
    firstElement src call items
  | .repeated _ cardinality body => do
    tick
    let n := src.tokens.size - (← get).pos
    let count ← rounds (cardinality = .optional) (element src call body) (n + 1)
    return count > 0 || cardinality != .atLeastOne

/-- Matches all elements, one after the other. -/
def allElements (src : Source) (call : Call) : List Element → Step Bool
  | [] => return true
  | item :: items => do
    if ← element src call item then allElements src call items else return false

/-- Matches the first element that matches. -/
def firstElement (src : Source) (call : Call) : List Element → Step Bool
  | [] => return false
  | item :: items => do
    if ← attemptMatch (element src call item) then return true
    else firstElement src call items

end

/-- Counting it is all that a sequence adds to its items. -/
theorem element_seq (src : Source) (call : Call) (id : ElementId) (items : List Element) :
    element src call (.seq id items) = (do tick; allElements src call items) := by
  rw [element]

/-- Counting it is all that a choice adds to its items. -/
theorem element_alt (src : Source) (call : Call) (id : ElementId) (items : List Element) :
    element src call (.alt id items) = (do tick; firstElement src call items) := by
  rw [element]

/-! ## Rules -/

/-- The node a call of a rule makes itself, when it starts at a mark. -/
def ownNode (rule : Rule) (m : Mark) : Option NodeId :=
  if rule.isUnion then none else some ⟨m.ast⟩

/-- Opens the composite of a call, with a new node if the rule makes one. -/
def openCall (rule : Rule) (source : ElementId) (m : Mark) (s : State) : State :=
  let composite : CstId := ⟨m.cst⟩
  let node := ownNode rule m
  let s := s.pushCst (.composite #[]) (some source) false
  let s := { s with
    ast := if rule.isUnion then s.ast else s.ast.push (State.newNode rule composite) }
  { s.linkCst composite node with composite, node, produced := none }

/-- Runs the body of a call that was opened at a mark. The composite, node
and product of the caller come back; a body that does not match, or matches
without a node, is undone. -/
@[noinline] def closeCall (rule : Rule) (m : Mark) (body : Step Bool) : Step (Option NodeId) :=
  fun s =>
  match body s with
  | .error abort => .error abort
  | .ok (matched, s') =>
    let product := (ownNode rule m).or s'.produced
    let s' := { s' with
      composite := m.composite
      node := m.node.map Prod.fst
      produced := m.produced }
    match matched, product with
    | true, some node => .ok (some node, s'.linkCst ⟨m.cst⟩ (some node))
    | _, _ => .ok (none, s'.restore m)

/-- What becomes of a parse that goes on for ever. -/
def goOn {α : Type} : Step α := fun s =>
  .error (if s.interrupt.firesAtLast then .cancelled else .endless)

/-- **Runs a rule** under a composite of its own: the node that came of it,
or nothing and no trace. -/
def callRule (src : Source) : Nat → Call
  | 0, _, _ => goOn
  | depth + 1, source, index => fun s =>
    match src.grammar.rules[index]? with
    | none => .ok (none, s)
    | some rule =>
      let m := s.mark
      closeCall rule m (element src (callRule src depth) rule.body) (openCall rule source m s)

/-- How deep calls may be nested. -/
def callDepth (src : Source) : Nat := (src.tokens.size + 1) * src.grammar.rules.size + 1

/-! ## The entry rule -/

/-- The error at the furthest failure. -/
def furthestError (src : Source) (s : State) : SyntaxError :=
  let found := src.tokens[s.furthest.pos]?
  let shown := match found with
    | some token => "`" ++ token.text ++ "`"
    | none => "end of input"
  let message := match s.furthest.expected with
    | [] => "Unexpected token " ++ shown ++ "."
    | [one] => "Expecting " ++ one ++ " but found " ++ shown ++ "."
    | many => "Expecting one of these: " ++ ", ".intercalate many ++ " but found " ++ shown ++ "."
  let (offset, length) := match found with
    | some token => (token.offset, token.length)
    | none => (src.text.utf8ByteSize, 0)
  ⟨message, offset, length, (LineIndex.ofText src.chars).range src.chars offset length⟩

/-- Skips `n` tokens as leaves without a source. -/
def skipTokens (src : Source) : Nat → State → State
  | 0, s => s
  | n + 1, s =>
    match src.tokens[s.pos]? with
    | none => s
    | some token => skipTokens src n { s.pushLeaf token none with pos := s.pos + 1 }

/-- Matches the body of the entry rule until no token is left, at most `n`
times, reporting and skipping what does not fit. -/
def recover (src : Source) (body : Step Bool) : Nat → Step Unit
  | 0 => return ()
  | n + 1 => do
    let matched ← attemptMatch body
    let next := (← get).nextSignificant src
    match matched, next with
    | true, none => return ()
    | _, _ => do
      check
      modify fun s => { s with errors := s.errors ++ [furthestError src s] }
      match next with
      | none => return ()
      | some next => do
        modify fun s =>
          let last := min (max s.furthest.pos next) (src.tokens.size - 1)
          let s := skipTokens src (last + 1 - s.pos) s
          { s with furthest := ⟨s.pos, []⟩ }
        recover src body n

/-- The state in which the entry rule starts: the root and its node. -/
def State.start (src : Source) (rule : Rule) (interrupt : Interrupt) : State :=
  { pos := 0
    ast := #[State.newNode rule ⟨0⟩]
    cst := #[⟨.root src.text #[], none, ⟨0⟩, some ⟨0⟩, some rule.id, false⟩]
    references := #[]
    composite := ⟨0⟩
    node := some ⟨0⟩
    produced := none
    furthest := ⟨0, []⟩
    steps := 0
    interrupt
    errors := [] }

/-- Parses the tokens of a source from a rule. -/
def entry (src : Source) (rule : Rule) : Step Unit := do
  recover src (element src (callRule src (callDepth src)) rule.body) (src.tokens.size + 1)
  modify fun s => s.attachHidden src (src.tokens.size - s.pos)

/-- **Parses a text from a rule**: the result and the interrupt that is left. -/
def run (g : Grammar) (rule : Rule) (text : String) (interrupt : Interrupt) :
    Except Abort (ParseResult × Interrupt) :=
  match interrupt.check with
  | none => .error .cancelled
  | some interrupt =>
    let chars := text.toList
    match Lexeme.ofText? g chars with
    | none => .error .endless
    | some lexemes =>
      let placed := Lexeme.withRanges chars lexemes
      let tokens := (placed.filterMap fun (l, range) => Token.ofLexeme? g l range).toArray
      let src : Source := ⟨g, text, chars, tokens⟩
      match entry src rule (State.start src rule interrupt) with
      | .error abort => .error abort
      | .ok (_, s) =>
        let lexerErrors := placed.filterMap fun (l, range) => l.error? range
        .ok (⟨⟨s.ast, s.cst, s.references, ⟨0⟩, ⟨0⟩⟩, lexerErrors, s.errors⟩, s.interrupt)

end Parse

/-- The rule a parse starts from: the grammar's own entry, or a named rule
that makes nodes. -/
def Grammar.entryRule (g : Grammar) : Option String → Except Parse.Abort Rule
  | none =>
    match g.rules[g.entry]? with
    | some rule => .ok rule
    | none => .error (.invalidEntry "")
  | some name =>
    match (g.ruleIndex? name).bind (g.rules[·]?) with
    | some rule => if rule.isUnion then .error (.invalidEntry name) else .ok rule
    | none => .error (.invalidEntry name)

/-- **Parses a text**, from the entry of the grammar or from a rule. A rule
that cannot be an entry is reported before anything else. -/
def Grammar.parse (g : Grammar) (text : String) (entry : Option String) (interrupt : Interrupt) :
    Except Parse.Abort (ParseResult × Interrupt) := do
  let rule ← g.entryRule entry
  Parse.run g rule text interrupt

end Workbench
