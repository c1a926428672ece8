/-!
# Grammar expressions

The bodies of rules as they are written down, with rules, terminals and
types given by name. A `Definition` is a whole grammar in that form; what
can be parsed with is its compiled form, `Grammar`.
-/

namespace Workbench

/-- How an assignment stores its value: `=` replaces, `+=` appends to a list,
`?=` records that something was there. -/
inductive AssignOp where
  | set
  | append
  | flag
deriving DecidableEq, Repr, Inhabited

/-- How often a repetition runs: `?`, `*` or `+`. -/
inductive Cardinality where
  | optional
  | many
  | atLeastOne
deriving DecidableEq, Repr, Inhabited

/-- The body of a rule, with everything it mentions given by name. -/
inductive Expr where
  | keyword (text : String)
  | terminal (name : String)
  | call (rule : String)
  /-- A name that stands for a node of `target`, or for every candidate of
  that name if `multi`. -/
  | crossRef (target terminal : String) (multi : Bool)
  | assign (feature : String) (op : AssignOp) (value : Expr)
  | seq (items : List Expr)
  | alt (items : List Expr)
  | repeated (cardinality : Cardinality) (body : Expr)
deriving Repr, Inhabited

mutual

/-- Whether a value can be assigned to a feature: a keyword, a terminal, a
call, a cross-reference, or a choice of such values. -/
def Expr.assignable : Expr → Bool
  | .keyword _ => true
  | .terminal _ => true
  | .call _ => true
  | .crossRef _ _ _ => true
  | .alt items => !items.isEmpty && Expr.allAssignable items
  | .assign _ _ _ => false
  | .seq _ => false
  | .repeated _ _ => false

/-- Whether every value can be assigned. -/
def Expr.allAssignable : List Expr → Bool
  | [] => true
  | e :: es => e.assignable && Expr.allAssignable es

end

/-- How a terminal takes part in parsing. -/
inductive TerminalKind where
  /-- Matched by rules. -/
  | token
  /-- Kept beside the tree, as comments are. -/
  | hidden
  /-- Dropped, as white space is. -/
  | skip
deriving DecidableEq, Repr, Inhabited

/-- The name of a terminal kind. -/
def TerminalKind.render : TerminalKind → String
  | token => "token"
  | hidden => "hidden"
  | skip => "skip"

/-- The value a terminal has when it is assigned. -/
inductive TerminalValue where
  | text
  | int
  /-- The text without its first and last character. -/
  | quoted
deriving DecidableEq, Repr, Inhabited

/-- The name of a terminal value. -/
def TerminalValue.render : TerminalValue → String
  | text => "text"
  | int => "int"
  | quoted => "quoted"

/-- A terminal as it is written down. -/
structure TerminalDef where
  name : String
  pattern : String
  kind : TerminalKind
  value : TerminalValue
deriving Repr, Inhabited

/-- A rule as it is written down. A rule with a type produces nodes of that
type; one without is a union, which passes on the node of a rule it calls. -/
structure RuleDef where
  name : String
  typeName : Option String
  body : Expr
deriving Repr, Inhabited

/-- The type of what a rule produces: a union counts as a type of its own. -/
def RuleDef.produces (rule : RuleDef) : String := rule.typeName.getD rule.name

/-- A grammar as it is written down. Parsing starts at `entry`, or at the
first rule. -/
structure Definition where
  name : String
  terminals : List TerminalDef
  rules : List RuleDef
  entry : Option String
deriving Repr, Inhabited

end Workbench
