import Workbench.Grammar.Basic
import Workbench.Pattern.Reader
/-!
# Compiling grammars

`Definition.build` checks a definition and compiles it. Names are checked
first, then the patterns of the terminals, then the rules in order, and the
entry last; the first defect found is the one reported. Numbers are handed
out in preorder by threading the next free number through the bodies.
-/

namespace Workbench

/-- What may be used where it does not belong. -/
inductive Misplacement where
  | crossReference
  | nestedAssignment
deriving DecidableEq, Repr, Inhabited

/-- How a misplaced part is called. -/
def Misplacement.describe : Misplacement → String
  | crossReference => "a cross-reference"
  | nestedAssignment => "a nested assignment"

/-- Why a definition is no grammar. -/
inductive GrammarError where
  | duplicate (name : String)
  | unknownRule (rule name : String)
  | unknownTerminal (rule name : String)
  | unknownType (rule name : String)
  | invalidPattern (terminal : String)
  | emptyMatch (terminal : String)
  | unassignedCall (rule callee : String)
  | assignmentInUnion (rule : String)
  | misplaced (rule : String) (what : Misplacement)
  | invalidAssignment (rule feature : String)
  | invalidEntry (rule : String)
  | empty
deriving DecidableEq, Repr, Inhabited

namespace GrammarError

/-- The text of a defect. -/
def message : GrammarError → String
  | duplicate name => "duplicate definition of '" ++ name ++ "'"
  | unknownRule rule name => "rule '" ++ rule ++ "' refers to unknown rule '" ++ name ++ "'"
  | unknownTerminal rule name => "rule '" ++ rule ++ "' refers to unknown terminal '" ++ name ++ "'"
  | unknownType rule name => "rule '" ++ rule ++ "' cross-references unknown type '" ++ name ++ "'"
  | invalidPattern terminal => "invalid pattern for terminal '" ++ terminal ++ "'"
  | emptyMatch terminal => "terminal '" ++ terminal ++ "' matches the empty string"
  | unassignedCall rule callee =>
    "rule '" ++ rule ++ "' calls '" ++ callee ++
      "' without assigning it; only union rules may do that"
  | assignmentInUnion rule =>
    "rule '" ++ rule ++ "' contains an assignment; union rules cannot assign features"
  | misplaced rule what =>
    "rule '" ++ rule ++ "' uses " ++ what.describe ++ " outside of an assignment"
  | invalidAssignment rule feature =>
    "rule '" ++ rule ++ "' assigns '" ++ feature ++ "' from an unsupported element"
  | invalidEntry rule => "entry rule '" ++ rule ++ "' must produce a node"
  | empty => "grammar has no rules"

/-- The kind of a defect, for tools. -/
def kind : GrammarError → String
  | duplicate _ => "Duplicate"
  | unknownRule _ _ => "UnknownRule"
  | unknownTerminal _ _ => "UnknownTerminal"
  | unknownType _ _ => "UnknownType"
  | invalidPattern _ => "Regex"
  | emptyMatch _ => "EmptyMatch"
  | unassignedCall _ _ => "UnassignedCall"
  | assignmentInUnion _ => "AssignmentInUnion"
  | misplaced _ _ => "Misplaced"
  | invalidAssignment _ _ => "InvalidAssignment"
  | invalidEntry _ => "InvalidEntry"
  | empty => "Empty"

end GrammarError

/-- The name under which a missing entry rule is reported. -/
def entryLabel : String := "<entry>"

namespace Definition

/-- The first name that occurs again, among the names not yet `seen`. -/
def firstDuplicate? (seen : List String) : List String → Option String
  | [] => none
  | name :: names =>
    if seen.contains name then some name else firstDuplicate? (name :: seen) names

/-- The names a definition gives, terminals first. -/
def names (d : Definition) : List String :=
  d.terminals.map TerminalDef.name ++ d.rules.map RuleDef.name

/-- Whether a rule produces the type. -/
def declares (d : Definition) (type : String) : Bool :=
  d.rules.any (·.produces == type)

/-- The index of a terminal that rules may match. -/
def token? (d : Definition) (name : String) : Option Nat :=
  (d.terminals.findIdx? (·.name == name)).filter fun i =>
    (d.terminals[i]?.map TerminalDef.kind) == some .token

end Definition

/-- Compiles a terminal: its pattern must be well formed and must not match
the empty text. -/
def TerminalDef.compile (t : TerminalDef) : Except GrammarError Terminal :=
  match Pattern.terminal? t.pattern with
  | none => .error (.invalidPattern t.name)
  | some matcher =>
    if matcher.matchesEmpty then .error (.emptyMatch t.name)
    else .ok ⟨t.name, t.pattern, t.kind, t.value, matcher⟩

/-- The index of a terminal that `rule` may match. -/
def Definition.token (d : Definition) (rule : RuleDef) (name : String) : Except GrammarError Nat :=
  match d.token? name with
  | some index => .ok index
  | none => .error (.unknownTerminal rule.name name)

mutual

/-- **Compiles an expression** of `rule`, inside an assignment or not; the
first number taken is `next`, and the first number left is returned. -/
def Expr.compile (d : Definition) (rule : RuleDef) (assigned : Bool) :
    Expr → Nat → Except GrammarError (Element × Nat)
  | .keyword text, next => .ok (.keyword ⟨next⟩ text, next + 1)
  | .terminal name, next => do
    let index ← d.token rule name
    return (.terminal ⟨next⟩ index, next + 1)
  | .call name, next =>
    match d.rules.findIdx? (·.name == name) with
    | none => .error (.unknownRule rule.name name)
    | some index =>
      if !assigned && rule.typeName.isSome then .error (.unassignedCall rule.name name)
      else .ok (.call ⟨next⟩ index, next + 1)
  | .crossRef target name multi, next =>
    if !assigned then .error (.misplaced rule.name .crossReference)
    else if !d.declares target then .error (.unknownType rule.name target)
    else do
      let index ← d.token rule name
      return (.crossRef ⟨next⟩ ⟨target, multi⟩ index, next + 1)
  | .assign feature op value, next =>
    if assigned then .error (.misplaced rule.name .nestedAssignment)
    else if rule.typeName.isNone then .error (.assignmentInUnion rule.name)
    else if !value.assignable then .error (.invalidAssignment rule.name feature)
    else do
      let (value, next') ← Expr.compile d rule true value (next + 1)
      return (.assign ⟨next⟩ feature op value, next')
  | .seq items, next => do
    let (items, next') ← Expr.compileAll d rule assigned items (next + 1)
    return (.seq ⟨next⟩ items, next')
  | .alt items, next => do
    let (items, next') ← Expr.compileAll d rule assigned items (next + 1)
    return (.alt ⟨next⟩ items, next')
  | .repeated cardinality body, next => do
    let (body, next') ← Expr.compile d rule assigned body (next + 1)
    return (.repeated ⟨next⟩ cardinality body, next')

/-- Compiles expressions from left to right. -/
def Expr.compileAll (d : Definition) (rule : RuleDef) (assigned : Bool) :
    List Expr → Nat → Except GrammarError (List Element × Nat)
  | [], next => .ok ([], next)
  | e :: es, next => do
    let (e, next) ← Expr.compile d rule assigned e next
    let (es, next) ← Expr.compileAll d rule assigned es next
    return (e :: es, next)

end

/-- Compiles a rule: its own number, then its body. -/
def RuleDef.compile (d : Definition) (rule : RuleDef) (next : Nat) :
    Except GrammarError (Rule × Nat) := do
  let (body, next') ← rule.body.compile d rule false (next + 1)
  let kind := match rule.typeName with
    | some typeName => RuleKind.node typeName
    | none => RuleKind.union
  return (⟨⟨next⟩, rule.name, kind, body⟩, next')

/-- Compiles rules in order. -/
def RuleDef.compileAll (d : Definition) :
    List RuleDef → Nat → Except GrammarError (List Rule × Nat)
  | [], next => .ok ([], next)
  | r :: rs, next => do
    let (r, next) ← r.compile d next
    let (rs, next) ← RuleDef.compileAll d rs next
    return (r :: rs, next)

/-- The order of keywords: longer first, in bytes, then by code points. -/
def keywordBefore (a b : String) : Bool :=
  if a.utf8ByteSize = b.utf8ByteSize then !(decide (b < a)) else b.utf8ByteSize < a.utf8ByteSize

/-- The keywords of rules, each once, longer ones first. -/
def collectKeywords (rules : List Rule) : List String :=
  ((rules.flatMap fun rule => rule.body.keywords).mergeSort keywordBefore).eraseDups

/-- The index of the entry rule, which has to produce a node. -/
def Definition.findEntry (d : Definition) (rules : List Rule) : Except GrammarError Nat := do
  let index ← match d.entry with
    | none => .ok 0
    | some name =>
      match d.rules.findIdx? (·.name == name) with
      | some index => .ok index
      | none => .error (.unknownRule entryLabel name)
  match rules[index]? with
  | some rule => if rule.isUnion then .error (.invalidEntry rule.name) else .ok index
  | none => .error .empty

/-- **Compiles a definition**, or reports its first defect. -/
def Definition.build (d : Definition) : Except GrammarError Grammar := do
  if d.rules.isEmpty then throw .empty
  match Definition.firstDuplicate? [] d.names with
  | some name => throw (.duplicate name)
  | none => pure ()
  let terminals ← d.terminals.mapM TerminalDef.compile
  let (rules, _) ← RuleDef.compileAll d d.rules 0
  let entry ← d.findEntry rules
  return ⟨d.name, terminals.toArray, rules.toArray, entry, collectKeywords rules⟩

/-- The grammar of a definition that compiles. -/
def Definition.grammar (d : Definition) : Grammar :=
  match d.build with
  | .ok g => g
  | .error _ => default

end Workbench
