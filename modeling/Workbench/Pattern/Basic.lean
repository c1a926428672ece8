import Workbench.Text.Word
import Workbench.Text.CaseFold
/-!
# Patterns

A pattern describes the texts a terminal can match. Alternatives are ordered
and a repetition prefers more rounds, or fewer if it is lazy. Patterns are
put together by `sequence`, `choice` and `repetition`, which keep them in a
normal form: sequences and choices are nested to the right and never hold
one of their own kind first, a choice between single characters is one set,
and what all alternatives begin with stands before the choice.
-/

namespace Workbench

/-- An edge between word characters and others. -/
inductive WordEdge where
  /-- A word starts or ends. -/
  | either
  /-- No word starts or ends. -/
  | neither
  /-- A word starts. -/
  | start
  /-- A word ends. -/
  | stop
  /-- No word goes on from before. -/
  | afterNone
  /-- No word goes on behind. -/
  | beforeNone
deriving DecidableEq, Repr, Inhabited

/-- A condition on a place between two characters. -/
inductive Assertion where
  | textStart
  | textEnd
  /-- After a line feed, or at the start. -/
  | lineStart
  /-- Before a line feed, or at the end. -/
  | lineEnd
  /-- After a line break of either or both of carriage return and line feed. -/
  | breakStart
  /-- Before such a line break. -/
  | breakEnd
  /-- At an edge of a word, of ASCII word characters or of all. -/
  | word (edge : WordEdge) (ascii : Bool)
deriving DecidableEq, Repr, Inhabited

/-- What a terminal looks for. -/
inductive Pattern where
  /-- The empty text. -/
  | empty
  /-- One character of the set. -/
  | char (set : CharSet)
  /-- No text, where the assertion holds. -/
  | assertion (a : Assertion)
  /-- One pattern after the other. -/
  | seq (first rest : Pattern)
  /-- One of the two patterns, the first preferred. -/
  | alt (first rest : Pattern)
  /-- At least `least` rounds and at most `most`, unbounded if absent. -/
  | repeated (least : Nat) (most : Option Nat) (greedy : Bool) (body : Pattern)
  /-- A numbered group. -/
  | group (index : Nat) (body : Pattern)
deriving DecidableEq, Repr, Inhabited

namespace Assertion

/-- Whether the assertion holds between two characters, absent at the ends of
the text. -/
def holds (a : Assertion) (before after : Option Char) : Bool :=
  match a with
  | textStart => before.isNone
  | textEnd => after.isNone
  | lineStart => before.all (· == '\n')
  | lineEnd => after.all (· == '\n')
  | breakStart => before.all fun c => c == '\n' || (c == '\r' && after != some '\n')
  | breakEnd => after.all fun c => c == '\r' || (c == '\n' && before != some '\r')
  | word edge ascii =>
    let isWord (c : Char) : Bool := Text.isWord c && (!ascii || c.toNat < 128)
    let left := before.any isWord
    let right := after.any isWord
    match edge with
    | .either => left != right
    | .neither => left == right
    | .start => !left && right
    | .stop => left && !right
    | .afterNone => !left
    | .beforeNone => !right

end Assertion

namespace Pattern

/-! ## Lengths -/

/-- The least number of characters of a match; none if some part cannot
match. -/
def minLength? : Pattern → Option Nat
  | empty => some 0
  | char set => if set.isEmpty then none else some 1
  | assertion _ => some 0
  | seq p q => do return (← p.minLength?) + (← q.minLength?)
  | alt p q => do return min (← p.minLength?) (← q.minLength?)
  | repeated least _ _ p => p.minLength?.map (least * ·)
  | group _ p => p.minLength?

/-- The greatest number of characters of a match; none if it is unbounded or
some part cannot match. -/
def maxLength? : Pattern → Option Nat
  | empty => some 0
  | char set => if set.isEmpty then none else some 1
  | assertion _ => some 0
  | seq p q => do return (← p.maxLength?) + (← q.maxLength?)
  | alt p q => do return max (← p.maxLength?) (← q.maxLength?)
  | repeated _ most _ p => do return (← most) * (← p.maxLength?)
  | group _ p => p.maxLength?

/-- Whether every match starts where the text does. -/
def startsText : Pattern → Bool
  | assertion .textStart => true
  | seq p q => p.startsText || (p.maxLength? == some 0 && q.startsText)
  | alt p q => p.startsText && q.startsText
  | repeated least _ _ p => least != 0 && p.startsText
  | group _ p => p.startsText
  | _ => false

/-! ## Sequences -/

/-- The parts of a sequence. -/
def items : Pattern → List Pattern
  | empty => []
  | seq p q => p :: q.items
  | p => [p]

/-- The parts one after the other, sequences among them spliced in. -/
def sequence (ps : List Pattern) : Pattern :=
  match (ps.flatMap items).reverse with
  | [] => empty
  | last :: before => before.foldl (fun rest p => seq p rest) last

/-- Whether the pattern is one certain character. -/
def isLiteral : Pattern → Bool
  | char set => set.onlyMember?.isSome
  | _ => false

/-- The parts of a sequence, with neighbouring literals together. -/
def chunks (p : Pattern) : List (List Pattern) :=
  p.items.splitBy fun a b => a.isLiteral && b.isLiteral

/-! ## Choices -/

/-- The alternatives of a choice. -/
def choices : Pattern → List Pattern
  | alt p q => p :: q.choices
  | p => [p]

/-- The set of a single character. -/
def set? : Pattern → Option CharSet
  | char set => some set
  | _ => none

/-- The choice of the alternatives as they are. -/
def ofChoices (ps : List Pattern) : Pattern :=
  match ps.reverse with
  | [] => char .none
  | last :: before => before.foldl (fun rest p => alt p rest) last

/-- One set for alternatives that are all literals or all proper sets. -/
def merged? (ps : List Pattern) : Option Pattern :=
  if ps.all isLiteral || ps.all (fun p => !p.isLiteral) then
    (ps.mapM set?).map fun sets => char (.unions sets)
  else none

/-- The choice of alternatives that have no common start. -/
def plainChoice (ps : List Pattern) : Pattern :=
  let flat := ps.flatMap choices
  (merged? flat).getD (ofChoices flat)

/-- What two lists begin with. -/
def sharedStart {α : Type} [DecidableEq α] : List α → List α → List α
  | a :: as, b :: bs => if a = b then a :: sharedStart as bs else []
  | _, _ => []

/-- The alternatives with what all of them begin with in front, if each is a
proper sequence and they begin alike. -/
def factored? (ps : List Pattern) : Option Pattern :=
  match ps.map chunks with
  | [] => none
  | first :: others =>
    let common := others.foldl sharedStart first
    if common.isEmpty || (first :: others).any (·.length < 2) then none
    else
      let rests := (first :: others).map fun parts => sequence (parts.drop common.length).flatten
      some (sequence (common.flatten ++ [plainChoice rests]))

/-- **One of the patterns**, earlier ones preferred. -/
def choice (ps : List Pattern) : Pattern :=
  match ps.flatMap choices with
  | [] => char .none
  | [p] => p
  | flat => (merged? flat).getD ((factored? flat).getD (ofChoices flat))

/-! ## Repetitions -/

/-- **Rounds of a pattern.** What matches only the empty text is tried at
most once. -/
def repetition (least : Nat) (most : Option Nat) (greedy : Bool) (p : Pattern) : Pattern :=
  let (least, most) :=
    if p.maxLength? = some 0 then (min least 1, some (min (most.getD 1) 1)) else (least, most)
  if most = some 0 then empty
  else if least = 1 ∧ most = some 1 then p
  else repeated least most greedy p

end Pattern

end Workbench
