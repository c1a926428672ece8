import Workbench.Pattern.Basic
/-!
# Programs of patterns

A pattern is run as a program of steps that refer to each other by their
labels. Steps are laid out from the end of the pattern to its start, so the
label a step goes on to is known when the step is written; a loop keeps its
place open until its body is there. A loop whose body can match the empty
text is entered through a choice of its own, so that a round is preferred to
none also when it passes nothing.
-/

namespace Workbench

/-- A step of a program. -/
inductive Step where
  /-- Passes a character of the set. -/
  | char (set : CharSet) (next : Nat)
  /-- Goes on where the assertion holds. -/
  | assertion (a : Assertion) (next : Nat)
  /-- Goes on with each label, earlier ones preferred. -/
  | split (nexts : List Nat)
  /-- The pattern has matched. -/
  | accept
deriving DecidableEq, Repr, Inhabited

/-- A pattern as steps. -/
structure Program where
  steps : Array Step
  start : Nat
  /-- Whether matches start only where the text does. -/
  anchored : Bool
  /-- A bound on the labels that are followed at one place. -/
  bound : Nat
deriving DecidableEq, Repr, Inhabited

namespace Step

/-- Another round or what follows, in the order of preference. -/
def fork (greedy : Bool) (again done : Nat) : Step :=
  split (if greedy then [again, done] else [done, again])

/-- The number of labels a step goes on to. -/
def arcs : Step → Nat
  | char _ _ => 0
  | assertion _ _ => 1
  | split nexts => nexts.length
  | accept => 0

end Step

/-- The steps so far, with the label to start from. -/
abbrev Layout := Nat × Array Step

namespace Layout

/-- Adds a step and starts from it. -/
def add (code : Array Step) (step : Step) : Layout := (code.size, code.push step)

/-- `n` rounds before `next`. -/
def rounds (body : Nat → Array Step → Layout) : Nat → Layout → Layout
  | 0, l => l
  | n + 1, l => rounds body n (body l.1 l.2)

/-- At most `n` rounds, each of which can go on to `done` instead. -/
def options (greedy : Bool) (body : Nat → Array Step → Layout) (done : Nat) : Nat → Layout → Layout
  | 0, l => l
  | n + 1, l =>
    let (again, code) := body l.1 l.2
    options greedy body done n (add code (.fork greedy again done))

/-- Rounds without end before `done`: the label of the loop's choice and the
label of its body. -/
def loop (greedy : Bool) (body : Nat → Array Step → Layout) (done : Nat) (code : Array Step) :
    Nat × Layout :=
  let here := code.size
  let (again, code) := body here (code.push .accept)
  (here, again, code.setIfInBounds here (.fork greedy again done))

end Layout

namespace Pattern

/-- The steps of a pattern before the label `next`. -/
def layout : Pattern → Nat → Array Step → Layout
  | empty, next, code => (next, code)
  | char set, next, code => .add code (.char set next)
  | assertion a, next, code => .add code (.assertion a next)
  | seq p q, next, code =>
    let (next, code) := q.layout next code
    p.layout next code
  | alt p q, next, code =>
    let (second, code) := q.layout next code
    let (first, code) := p.layout next code
    .add code (.split [first, second])
  | group _ p, next, code => p.layout next code
  | repeated least most greedy p, next, code =>
    match most with
    | some most =>
      Layout.rounds p.layout least (Layout.options greedy p.layout next (most - least) (next, code))
    | none =>
      let (here, again, code) := Layout.loop greedy p.layout next code
      if least = 0 then
        if p.minLength?.any (0 < ·) then (here, code) else .add code (.fork greedy again next)
      else Layout.rounds p.layout (least - 1) (again, code)

/-- **The program of a pattern.** -/
def program (p : Pattern) : Program :=
  let (start, steps) := p.layout 0 #[.accept]
  ⟨steps, start, p.startsText, steps.foldl (fun n s => n + s.arcs) 1⟩

end Pattern

end Workbench
