import Workbench.Symbol
/-!
# Scopes

A scope is a list of layers of symbols, the innermost first. A name stands
for the first symbol of that name, so an inner layer hides the ones outside
of it.
-/

namespace Workbench

/-- Layers of symbols, innermost first. -/
structure Scope where
  layers : List (List Symbol)
deriving DecidableEq, Repr, Inhabited

namespace Scope

/-- The scope in which nothing is visible. -/
def empty : Scope := ⟨[]⟩

/-- Adds a layer outside of every other. -/
def withOuter (s : Scope) (symbols : List Symbol) : Scope := ⟨s.layers ++ [symbols]⟩

/-- Every symbol, inner layers first. -/
def symbols (s : Scope) : List Symbol := s.layers.flatten

/-- **The symbol a name stands for.** -/
def symbol? (s : Scope) (name : String) : Option Symbol := s.symbols.find? (·.name == name)

/-- Keeps the first symbol of each place. -/
def distinctPlaces : List Symbol → List Symbol
  | [] => []
  | s :: rest => s :: (distinctPlaces rest).filter fun t => !(t.uri == s.uri && t.path == s.path)

/-- **Every symbol of a name**, each place once. -/
def symbolsNamed (s : Scope) (name : String) : List Symbol :=
  distinctPlaces (s.symbols.filter (·.name == name))

@[simp] theorem symbols_empty : empty.symbols = [] := rfl

/-- A layer outside of the others comes last. -/
@[simp] theorem symbols_withOuter (s : Scope) (symbols : List Symbol) :
    (s.withOuter symbols).symbols = s.symbols ++ symbols := by
  simp [Scope.symbols, withOuter]

end Scope

end Workbench
