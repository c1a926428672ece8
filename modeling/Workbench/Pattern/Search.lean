import Workbench.Pattern.Program
/-!
# Searching with programs

A search follows all ways to match at once, in the order of preference. At a
place between two characters the labels that are reached without passing
anything are followed first to last, each once; what is left are the steps
that wait for a character. When a step accepts, the ways after it are given
up and those before it go on, so the last acceptance is that of the preferred
match. As long as nothing is accepted a match may also start at the place
itself, which is preferred least.
-/

namespace Workbench

namespace Program

/-- The steps reached from the labels without passing a character, in the
order of preference; `seen` marks the labels already followed and `fuel`
bounds the labels to follow. -/
def reach (p : Program) (before after : Option Char) :
    Nat → List Nat → Array Bool → Array Step → Array Step
  | 0, _, _, reached => reached
  | _, [], _, reached => reached
  | fuel + 1, label :: labels, seen, reached =>
    if seen.getD label true then reach p before after fuel labels seen reached
    else
      let seen := seen.setIfInBounds label true
      match p.steps.getD label .accept with
      | .split nexts => reach p before after fuel (nexts ++ labels) seen reached
      | .assertion a next =>
        reach p before after fuel (if a.holds before after then next :: labels else labels) seen
          reached
      | step => reach p before after fuel labels seen (reached.push step)

/-- The labels after the next character, up to a step that accepts, and
whether there is one. -/
def advance (after : Option Char) (labels : List Nat) : List Step → List Nat × Bool
  | [] => (labels.reverse, false)
  | .accept :: _ => (labels.reverse, true)
  | .char set next :: steps =>
    advance after (if after.any set.contains then next :: labels else labels) steps
  | _ :: steps => advance after labels steps

/-- Goes on with the search at a place `passed` bytes into the text, with
the labels reached there and the end of the best match so far. -/
def searchFrom (p : Program) (before : Option Char) (passed : Nat) (labels : List Nat)
    (found : Option Nat) (rest : List Char) : Option Nat :=
  let labels := if found.isSome then labels else labels ++ [p.start]
  let reached := p.reach before rest.head? (p.bound + labels.length) labels
    (Array.replicate p.steps.size false) #[]
  let (labels, accepted) := advance rest.head? [] reached.toList
  let found := if accepted then some passed else found
  match rest with
  | [] => found
  | c :: cs =>
    if labels.isEmpty && (found.isSome || p.anchored) then found
    else searchFrom p (some c) (passed + c.utf8Size) labels found cs

/-- **The end in bytes of the preferred match** in a text, of those that
start first. -/
def findEnd? (p : Program) (cs : List Char) : Option Nat := p.searchFrom none 0 [] none cs

/-- Whether the empty text matches. -/
def matchesEmpty (p : Program) : Bool := (p.findEnd? []).isSome

end Program

end Workbench
