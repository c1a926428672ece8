import Workbench.Data
import Workbench.Grammar.Expr
/-!
# Definitions as data

A grammar can be given as a record. An expression is a record with one
field, named for its shape; a terminal is a list of its name, its pattern
and its kind. The first thing that cannot be read is reported.
-/

namespace Workbench

/-- Why data is no definition. -/
inductive DefinitionError where
  /-- There is no record where an expression is wanted. -/
  | noExpression
  | unknownExpression (shape : String)
  | unknownTerminalKind
  | missingText (field : String)
deriving DecidableEq, Repr, Inhabited

/-- The text of the defect. -/
def DefinitionError.message : DefinitionError → String
  | noExpression => "expected an expression"
  | unknownExpression shape => "unknown expression '" ++ shape ++ "'"
  | unknownTerminalKind => "terminal kind"
  | missingText field => "missing string '" ++ field ++ "'"

mutual

/-- **The expression that data stands for.** -/
def Expr.ofData : Data → Except DefinitionError Expr
  | .record ((shape, value) :: _) =>
    match shape with
    | "kw" => .ok (.keyword value.textOrEmpty)
    | "term" => .ok (.terminal value.textOrEmpty)
    | "call" => .ok (.call value.textOrEmpty)
    | "ref" => .ok (.crossRef (value.textAt 0) (value.textAt 1) false)
    | "mref" => .ok (.crossRef (value.textAt 0) (value.textAt 1) true)
    | "assign" => (Expr.second value).map (.assign (value.textAt 0) .set)
    | "append" => (Expr.second value).map (.assign (value.textAt 0) .append)
    | "flag" => (Expr.second value).map (.assign (value.textAt 0) .flag)
    | "seq" => (Expr.parts value).map .seq
    | "alt" => (Expr.parts value).map .alt
    | "opt" => (Expr.ofData value).map (.repeated .optional)
    | "many" => (Expr.ofData value).map (.repeated .many)
    | "some" => (Expr.ofData value).map (.repeated .atLeastOne)
    | other => .error (.unknownExpression other)
  | _ => .error .noExpression

/-- The expression in the second place of a list. -/
def Expr.second : Data → Except DefinitionError Expr
  | .list (_ :: value :: _) => Expr.ofData value
  | _ => .error .noExpression

/-- The expressions in a list; whatever is no list holds none. -/
def Expr.parts : Data → Except DefinitionError (List Expr)
  | .list items => Expr.allOfData items
  | _ => .ok []

/-- The expressions that several pieces of data stand for. -/
def Expr.allOfData : List Data → Except DefinitionError (List Expr)
  | [] => .ok []
  | d :: ds => do
    let e ← Expr.ofData d
    return e :: (← Expr.allOfData ds)

end

/-- The kind of a terminal and the value it has, by their common name. A
terminal without one is a token. -/
def TerminalKind.ofData : Option Data → Except DefinitionError (TerminalKind × TerminalValue)
  | none => .ok (.token, .text)
  | some .null => .ok (.token, .text)
  | some (.str "token") => .ok (.token, .text)
  | some (.str "int") => .ok (.token, .int)
  | some (.str "string") => .ok (.token, .quoted)
  | some (.str "hidden") => .ok (.hidden, .text)
  | some (.str "skip") => .ok (.skip, .text)
  | some _ => .error .unknownTerminalKind

/-- The terminal that data stands for. -/
def TerminalDef.ofData (d : Data) : Except DefinitionError TerminalDef := do
  let (kind, value) ← TerminalKind.ofData d.items[2]?
  return ⟨d.textAt 0, d.textAt 1, kind, value⟩

/-- The rule that data stands for. Its nodes have the type it names, or else
a type of its own name. -/
def RuleDef.ofData (d : Data) : Except DefinitionError RuleDef := do
  let some name := (d.field? "name").bind Data.str? | throw (.missingText "name")
  let body ← Expr.ofData ((d.field? "body").getD .null)
  let type := ((d.field? "type").bind Data.str?).getD name
  return ⟨name, if (d.field? "union").any Data.isTrue then none else some type, body⟩

/-- **The definition that data stands for.** -/
def Definition.ofData (d : Data) : Except DefinitionError Definition := do
  let part (name : String) : List Data := ((d.field? name).map Data.items).getD []
  let text? (name : String) : Option String := (d.field? name).bind Data.str?
  let terminals ← (part "terminals").mapM TerminalDef.ofData
  let rules ← (part "rules").mapM RuleDef.ofData
  return ⟨(text? "name").getD "t", terminals, rules, text? "entry"⟩

end Workbench
