import Workbench.Grammar.Basic
import Workbench.Text.LineIndex
import Workbench.Tree.Basic
/-!
# Lexemes and tokens

A text is cut into lexemes from left to right: at each place the longest
match of a keyword or terminal is taken, a keyword before a terminal of the
same length and an earlier terminal before a later one. Characters that
nothing matches are gathered into runs. The lexemes cover the text; the
tokens are those that are neither runs of unmatched characters nor matches
of skipped terminals.

A match of no characters would be taken for ever at the same place, so a
text where one is preferred has no lexemes.
-/

namespace Workbench

/-- What matched a piece of text. -/
inductive LexemeKind where
  | keyword (text : String)
  /-- The terminal with an index. -/
  | terminal (index : Nat)
  | unmatched
deriving DecidableEq, Repr, Inhabited

/-- A piece of the text. -/
structure Lexeme where
  kind : LexemeKind
  offset : Nat
  text : List Char
deriving DecidableEq, Repr, Inhabited

namespace Lexeme

/-- The length in bytes. -/
def length (l : Lexeme) : Nat := Text.byteLength l.text

/-- The first of the longest matches. -/
def longest : List (LexemeKind × Nat) → Option (LexemeKind × Nat)
  | [] => none
  | c :: cs => some (cs.foldl (fun best c => if best.2 < c.2 then c else best) c)

/-- The matches at the start of a text with their lengths, keywords first. -/
def candidates (g : Grammar) (cs : List Char) : List (LexemeKind × Nat) :=
  let keywords := g.keywords.filterMap fun keyword =>
    if keyword.toList.isPrefixOf cs then some (LexemeKind.keyword keyword, keyword.utf8ByteSize)
    else none
  let terminals := g.terminals.toList.zipIdx.filterMap fun (terminal, index) =>
    (terminal.matcher.findEnd? cs).map fun n => (LexemeKind.terminal index, n)
  keywords ++ terminals

/-- **The match taken at the start of a text.** -/
def best? (g : Grammar) (cs : List Char) : Option (LexemeKind × Nat) := longest (candidates g cs)

/-- The pieces of a text from a byte offset on, character by character where
nothing matches; `pending` bytes still belong to the last match. -/
def piecesFrom (g : Grammar) : Nat → Nat → List Char → Option (List Lexeme)
  | _, _, [] => some []
  | offset, pending + 1, c :: cs =>
    piecesFrom g (offset + c.utf8Size) (pending + 1 - c.utf8Size) cs
  | offset, 0, c :: cs =>
    match best? g (c :: cs) with
    | none =>
      (piecesFrom g (offset + c.utf8Size) 0 cs).map (⟨.unmatched, offset, [c]⟩ :: ·)
    | some (_, 0) => none
    | some (kind, n + 1) =>
      match Text.splitBytes? (c :: cs) (n + 1) with
      | none => none
      | some (taken, _) =>
        (piecesFrom g (offset + c.utf8Size) (n + 1 - c.utf8Size) cs).map
          (⟨kind, offset, taken⟩ :: ·)

/-- Puts a piece in front, joining unmatched neighbours. -/
def join (piece : Lexeme) : List Lexeme → List Lexeme
  | [] => [piece]
  | next :: rest =>
    if piece.kind = .unmatched ∧ next.kind = .unmatched then
      ⟨.unmatched, piece.offset, piece.text ++ next.text⟩ :: rest
    else piece :: next :: rest

/-- **The lexemes of a text**, unless a match of no characters is preferred
somewhere. -/
def ofText? (g : Grammar) (cs : List Char) : Option (List Lexeme) :=
  (piecesFrom g 0 0 cs).map (List.foldr join [])

/-- The lexemes of a text with their ranges, by the table of its lines. -/
def withRanges (text : List Char) (ls : List Lexeme) : List (Lexeme × Range) :=
  let lines := LineIndex.ofText text
  ls.map fun l => (l, lines.range text l.offset l.length)

end Lexeme

/-- A lexeme the parser works on. -/
structure Token where
  kind : LexemeKind
  /-- The keyword, or the name of the terminal. -/
  label : String
  offset : Nat
  length : Nat
  text : String
  range : Range
  hidden : Bool
deriving DecidableEq, Repr, Inhabited

namespace Token

/-- The token of a lexeme with its range, if it is one. -/
def ofLexeme? (g : Grammar) (l : Lexeme) (range : Range) : Option Token :=
  let token (label : String) (hidden : Bool) : Token :=
    ⟨l.kind, label, l.offset, l.length, String.ofList l.text, range, hidden⟩
  match l.kind with
  | .unmatched => none
  | .keyword text => some (token text false)
  | .terminal index =>
    match g.terminals[index]? with
    | none => none
    | some terminal =>
      match terminal.kind with
      | .skip => none
      | .hidden => some (token terminal.name true)
      | .token => some (token terminal.name false)

end Token

/-- The error of a lexeme with its range, if nothing matched it. -/
def Lexeme.error? (l : Lexeme) (range : Range) : Option SyntaxError :=
  if l.kind = .unmatched then
    some ⟨"Unexpected character sequence '" ++ String.ofList l.text ++ "'.", l.offset, l.length,
      range⟩
  else none

end Workbench
