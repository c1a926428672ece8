import Workbench.Grammar.Expr
import Workbench.Pattern.Search
/-!
# Compiled grammars

In a compiled grammar rules and terminals are referred to by index, and
every rule and every element of a body has a number of its own, given in
preorder: a rule comes before its body, an element before its parts.
-/

namespace Workbench

/-- The number of a rule or element within its grammar. -/
structure ElementId where
  index : Nat
deriving DecidableEq, Repr, Inhabited

/-- Element numbers are shown as `g#n`. -/
def ElementId.render (id : ElementId) : String := "g#" ++ toString id.index

/-- What a cross-reference may refer to. -/
structure ReferenceTarget where
  typeName : String
  multi : Bool
deriving DecidableEq, Repr, Inhabited

/-- A numbered part of a rule body. -/
inductive Element where
  | keyword (id : ElementId) (text : String)
  | terminal (id : ElementId) (index : Nat)
  | call (id : ElementId) (rule : Nat)
  | crossRef (id : ElementId) (target : ReferenceTarget) (terminal : Nat)
  | assign (id : ElementId) (feature : String) (op : AssignOp) (value : Element)
  | seq (id : ElementId) (items : List Element)
  | alt (id : ElementId) (items : List Element)
  | repeated (id : ElementId) (cardinality : Cardinality) (body : Element)
deriving Repr, Inhabited

namespace Element

/-- The number of an element. -/
def id : Element → ElementId
  | keyword id _ => id
  | terminal id _ => id
  | call id _ => id
  | crossRef id _ _ => id
  | assign id _ _ _ => id
  | seq id _ => id
  | alt id _ => id
  | repeated id _ _ => id

mutual

/-- The keywords of an element, in order. -/
def keywords : Element → List String
  | keyword _ text => [text]
  | terminal _ _ => []
  | call _ _ => []
  | crossRef _ _ _ => []
  | assign _ _ _ value => value.keywords
  | seq _ items => keywordsOf items
  | alt _ items => keywordsOf items
  | repeated _ _ body => body.keywords

/-- The keywords of several elements, in order. -/
def keywordsOf : List Element → List String
  | [] => []
  | e :: es => e.keywords ++ keywordsOf es

end

mutual

/-- The assignments of an element, in order, with their operators and
values. -/
def assignments : Element → List (String × AssignOp × Element)
  | keyword _ _ => []
  | terminal _ _ => []
  | call _ _ => []
  | crossRef _ _ _ => []
  | assign _ feature op value => [(feature, op, value)]
  | seq _ items => assignmentsOf items
  | alt _ items => assignmentsOf items
  | repeated _ _ body => body.assignments

/-- The assignments of several elements, in order. -/
def assignmentsOf : List Element → List (String × AssignOp × Element)
  | [] => []
  | e :: es => e.assignments ++ assignmentsOf es

end

mutual

/-- The rules an element calls outside assignments, in order. -/
def calls : Element → List Nat
  | keyword _ _ => []
  | terminal _ _ => []
  | call _ rule => [rule]
  | crossRef _ _ _ => []
  | assign _ _ _ _ => []
  | seq _ items => callsOf items
  | alt _ items => callsOf items
  | repeated _ _ body => body.calls

/-- The rules several elements call outside assignments, in order. -/
def callsOf : List Element → List Nat
  | [] => []
  | e :: es => e.calls ++ callsOf es

end

mutual

/-- The targets a value may refer to: its own, or those of its
alternatives. -/
def targets : Element → List ReferenceTarget
  | crossRef _ target _ => [target]
  | alt _ items => targetsOf items
  | keyword _ _ => []
  | terminal _ _ => []
  | call _ _ => []
  | assign _ _ _ _ => []
  | seq _ _ => []
  | repeated _ _ _ => []

/-- The targets several values may refer to. -/
def targetsOf : List Element → List ReferenceTarget
  | [] => []
  | e :: es => e.targets ++ targetsOf es

end

/-- **The features a body starts out with**: each appended or flagged
feature once, with the operator of its first assignment. -/
def defaults (body : Element) : List (String × AssignOp) :=
  body.assignments.foldl (fun found (feature, op, _) =>
    if op = .set || found.any (·.1 == feature) then found else found ++ [(feature, op)]) []

end Element

/-- A compiled terminal. -/
structure Terminal where
  name : String
  pattern : String
  kind : TerminalKind
  value : TerminalValue
  matcher : Program
deriving Repr, Inhabited

/-- What a rule produces: nodes of a type, or the node of a rule it calls. -/
inductive RuleKind where
  | node (typeName : String)
  | union
deriving DecidableEq, Repr, Inhabited

/-- A compiled rule. -/
structure Rule where
  id : ElementId
  name : String
  kind : RuleKind
  body : Element
deriving Repr, Inhabited

namespace Rule

/-- The type of what a rule produces: a union counts as a type of its own. -/
def produces (rule : Rule) : String :=
  match rule.kind with
  | .node typeName => typeName
  | .union => rule.name

/-- Whether a rule is a union. -/
def isUnion (rule : Rule) : Bool := rule.kind == .union

/-- The type of the nodes a rule makes itself. -/
def nodeType? (rule : Rule) : Option String :=
  match rule.kind with
  | .node typeName => some typeName
  | .union => none

end Rule

/-- **A compiled grammar.** Keywords are kept longest first. -/
structure Grammar where
  name : String
  terminals : Array Terminal
  rules : Array Rule
  entry : Nat
  keywords : List String
deriving Repr, Inhabited

namespace Grammar

/-- The index of the rule with a name. -/
def ruleIndex? (g : Grammar) (name : String) : Option Nat :=
  g.rules.findIdx? (·.name == name)

/-- The name of the terminal with an index. -/
def terminalName (g : Grammar) (index : Nat) : String :=
  (g.terminals[index]?.map Terminal.name).getD ""

/-- The name of the rule with an index. -/
def ruleName (g : Grammar) (index : Nat) : String :=
  (g.rules[index]?.map Rule.name).getD ""

end Grammar

end Workbench
