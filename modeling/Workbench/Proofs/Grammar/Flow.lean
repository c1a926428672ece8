import Workbench.Grammar.Types
/-!
# Rules that fill their nodes in order

Whether the nodes and references of a parse come in the order in which they
are held can be read off a grammar. Each rule has at most one feature for
nodes, which it only appends to, and at most one for a reference, which it
sets once and before any node (`Element.flow`); a union passes on the node
of one call (`Element.relays`). The entry rule may be matched several times,
so it sets no reference.
-/

namespace Workbench

/-- The features under which the nodes of a rule hold nodes and a
reference. -/
structure Shape where
  nodes : Option String
  refs : Option String
deriving DecidableEq, Repr, Inhabited

namespace Element

/-- Whether an element is a call. -/
def isCall : Element → Bool
  | .call _ _ => true
  | _ => false

/-- Whether an element is a cross-reference. -/
def isCrossRef : Element → Bool
  | .crossRef _ _ _ => true
  | _ => false

/-- The first features of a body that are assigned a call and a
cross-reference. -/
def shape (body : Element) : Shape :=
  { nodes := (body.assignments.find? fun (_, _, value) => value.isCall).map Prod.fst
    refs := (body.assignments.find? fun (_, _, value) => value.isCrossRef).map Prod.fst }

/-- What an assignment makes of a node: whether it may hold a reference or a
node then, if it keeps the order. A value without structure goes elsewhere. -/
def fills (types : TypeGraph) (type : String) (shape : Shape) (feature : String) (op : AssignOp)
    (value : Element) (filled : Bool) : Option Bool :=
  match value with
  | .keyword _ _ => if shape.nodes ≠ some feature ∧ shape.refs ≠ some feature then some filled else none
  | .terminal _ _ => if shape.nodes ≠ some feature ∧ shape.refs ≠ some feature then some filled else none
  | .call _ _ =>
    if shape.nodes = some feature ∧ shape.refs ≠ some feature ∧ op = .append then some true else none
  | .crossRef _ target _ =>
    if shape.refs = some feature ∧ shape.nodes ≠ some feature ∧ op = .set ∧ filled = false ∧
      types.referenceTarget? type feature = some target then some true else none
  | _ => none

mutual

/-- **What a match of an element makes of a node**: whether the node may hold
a reference or a node, before and after; nothing if the order may be lost. -/
def flow (types : TypeGraph) (type : String) (shape : Shape) : Element → Bool → Option Bool
  | .keyword _ _, filled => some filled
  | .terminal _ _, filled => some filled
  | .call _ _, _ => none
  | .crossRef _ _ _, _ => none
  | .assign _ feature op value, filled => fills types type shape feature op value filled
  | .seq _ items, filled => flowAll types type shape items filled
  | .alt _ items, filled => flowAny types type shape items filled
  | .repeated _ cardinality body, filled =>
    if cardinality = .optional then (body.flow types type shape filled).map (filled || ·)
    else (body.flow types type shape true).map fun _ => true

/-- What matches of all elements make of a node. -/
def flowAll (types : TypeGraph) (type : String) (shape : Shape) :
    List Element → Bool → Option Bool
  | [], filled => some filled
  | e :: es, filled => (e.flow types type shape filled).bind (flowAll types type shape es)

/-- What a match of one of several elements makes of a node. -/
def flowAny (types : TypeGraph) (type : String) (shape : Shape) :
    List Element → Bool → Option Bool
  | [], filled => some filled
  | e :: es, filled =>
    (e.flow types type shape filled).bind fun one =>
      (flowAny types type shape es filled).map (one || ·)

end

mutual

/-- **Whether an element passes on the node of one call.** -/
def relays : Element → Bool
  | .call _ _ => true
  | .alt _ items => relaysAll items
  | .keyword _ _ => false
  | .terminal _ _ => false
  | .crossRef _ _ _ => false
  | .assign _ _ _ _ => false
  | .seq _ _ => false
  | .repeated _ _ _ => false

/-- Whether every element passes on the node of one call. -/
def relaysAll : List Element → Bool
  | [] => true
  | e :: es => e.relays && relaysAll es

end

/-- A name that is taken for nothing else. -/
def freeName (name : String) : Bool := name.toList.head? != some '$'

/-- Whether all features of a body have free names. -/
def freeNames (body : Element) : Bool := body.assignments.all fun (feature, _, _) => freeName feature

end Element

/-- **Whether a rule fills its nodes in order**, or passes one on. -/
def Rule.orderly (types : TypeGraph) (rule : Rule) : Bool :=
  match rule.kind with
  | .union => rule.body.relays
  | .node type => rule.body.freeNames && (rule.body.flow types type rule.body.shape false).isSome

/-- Whether a rule fills its node in order also if it is matched again and
again. -/
def Rule.steady (types : TypeGraph) (rule : Rule) : Bool :=
  match rule.kind with
  | .union => false
  | .node type => rule.body.freeNames && (rule.body.flow types type rule.body.shape true).isSome

/-- Whether all rules of a grammar fill their nodes in order. -/
def Grammar.orderly (g : Grammar) : Bool := g.rules.all (Rule.orderly g.typeGraph)

end Workbench
