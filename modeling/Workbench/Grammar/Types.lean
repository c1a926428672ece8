import Workbench.Grammar.Basic
/-!
# Types

The types of a grammar are the types of its nodes and its unions. A union is
a supertype of everything the rules it calls produce, also through further
unions; a type never counts as its own proper supertype. The features that
hold cross-references are recorded with what they refer to.
-/

namespace Workbench

namespace Types

/-- Inserts a name into an increasing list of distinct names. -/
def insertName (name : String) : List String → List String
  | [] => [name]
  | other :: rest =>
    if name < other then name :: other :: rest
    else if name = other then other :: rest
    else other :: insertName name rest

/-- The names of a list, increasing and each once. -/
def sortNames (names : List String) : List String :=
  names.foldl (fun sorted name => insertName name sorted) []

/-- The direct steps from a type to a union that calls a rule producing it. -/
def steps (g : Grammar) : List (String × String) :=
  g.rules.toList.flatMap fun rule =>
    if rule.isUnion then
      rule.body.calls.filterMap fun callee =>
        g.rules[callee]?.map fun produced => (produced.produces, rule.name)
    else []

/-- The types one step above some of the given types. -/
def above (steps : List (String × String)) (types : List String) : List String :=
  steps.filterMap fun (sub, sup) => if types.contains sub then some sup else none

/-- Adds the types one step above, `n` times. -/
def climb (steps : List (String × String)) : Nat → List String → List String
  | 0, types => types
  | n + 1, types => climb steps n (sortNames (types ++ above steps types))

/-- **The proper supertypes of a type**: what can be reached from it by one or
more steps, except itself. A type is reached in no more steps than there are
steps in all. -/
def supertypesFrom (steps : List (String × String)) (type : String) : List String :=
  (climb steps steps.length (sortNames (above steps [type]))).filter (· != type)

end Types

/-- The types of a grammar, in increasing order. -/
def Grammar.types (g : Grammar) : List String :=
  Types.sortNames (g.rules.toList.map Rule.produces)

/-- The features of a grammar that hold cross-references, by node type, in
order of occurrence. -/
def Grammar.referenceFeatures (g : Grammar) : List ((String × String) × ReferenceTarget) :=
  g.rules.toList.flatMap fun rule =>
    match rule.nodeType? with
    | none => []
    | some type =>
      rule.body.assignments.flatMap fun (feature, _, value) =>
        value.targets.map fun target => ((type, feature), target)

/-- The type hierarchy of a grammar. -/
structure TypeGraph where
  /-- The types, increasing. -/
  types : List String
  /-- The proper supertypes of each type, increasing. -/
  supers : List (String × List String)
  /-- What the features with cross-references refer to. -/
  references : List ((String × String) × ReferenceTarget)
deriving Repr, Inhabited

/-- **The type hierarchy of a grammar.** -/
def Grammar.typeGraph (g : Grammar) : TypeGraph :=
  let steps := Types.steps g
  { types := g.types
    supers := g.types.map fun type => (type, Types.supertypesFrom steps type)
    references := g.referenceFeatures }

namespace TypeGraph

/-- The proper supertypes of a type, increasing. -/
def supertypes (t : TypeGraph) (type : String) : List String :=
  (t.supers.lookup type).getD []

/-- Whether a grammar has the type. -/
def isKnown (t : TypeGraph) (type : String) : Bool := t.types.contains type

/-- Whether `sub` is `sup` or below it. -/
def isSubtype (t : TypeGraph) (sub sup : String) : Bool :=
  sub == sup || (t.supertypes sub).contains sup

/-- What the cross-references of a feature refer to, on nodes of a type. The
last mention counts. -/
def referenceTarget? (t : TypeGraph) (type feature : String) : Option ReferenceTarget :=
  (t.references.reverse.find? (·.1 == (type, feature))).map Prod.snd

end TypeGraph

end Workbench
