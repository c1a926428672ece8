import Workbench.Text.Composition
/-!
# The normal form of a text

Texts that differ only in how their characters are composed have one normal
form: every character is taken apart, marks on one base are put in the order
of their classes, and what can be composed is composed. Marks of one class
keep their order.
-/

namespace Workbench

namespace Text

/-- A character with its class. -/
abbrev Classed := Nat × Char

/-- Puts a character in front of others that are in order: a mark goes behind
the marks of lower classes that directly follow it. -/
def insertMark (x : Classed) : List Classed → List Classed
  | [] => [x]
  | y :: rest => if 0 < y.1 ∧ y.1 < x.1 then y :: insertMark x rest else x :: y :: rest

/-- **Marks in the order of their classes.** -/
def orderMarks (xs : List Classed) : List Classed := xs.foldr insertMark []

/-- Composes from a base on: `held` are the characters behind it that did not
compose with it, backwards, and `last` is the class of the last of them. A
character composes with the base unless one of at least its class is
between. -/
def composeFrom (base : Char) (held : List Char) (last : Nat) : List Classed → List Char
  | [] => base :: held.reverse
  | (number, c) :: rest =>
    let composed := if held.isEmpty || last < number then compose? base c else none
    match composed with
    | some composite => composeFrom composite held last rest
    | none =>
      if number = 0 then base :: held.reverse ++ composeFrom c [] 0 rest
      else composeFrom base (c :: held) number rest

/-- **The normal form of a text.** -/
def normalize (cs : List Char) : List Char :=
  match orderMarks ((cs.flatMap parts).map fun c => (markClass c, c)) with
  | [] => []
  | (_, base) :: rest => composeFrom base [] 0 rest

end Text

end Workbench
