import Workbench.Toml.Value
import Workbench.Toml.Scalar
/-!
# Reading TOML

A document is read line by line: blank lines and comments, headers, and
names with values. Texts come in four kinds, with and without escapes, on
one line and on several. `read?` refuses what is not well formed. Every
round takes at least one character, so the length of the document bounds
the rounds.
-/

namespace Workbench

namespace Toml

/-! ## Blanks -/

/-- Whether a character may stand in comments and texts. -/
def isPlain (c : Char) : Bool := c == '\t' || (' ' ≤ c && c != '\x7f')

/-- Whether a character separates words of a line. -/
def isGap (c : Char) : Bool := c == ' ' || c == '\t'

/-- The rest after gaps. -/
def skipGaps (cs : List Char) : List Char := cs.dropWhile isGap

/-- The rest after gaps, line breaks and comments; a comment holds plain
characters only. -/
def skipLines? : List Char → Bool → Option (List Char)
  | [], _ => some []
  | '\r' :: '\n' :: cs, _ => skipLines? cs false
  | '\n' :: cs, _ => skipLines? cs false
  | c :: cs, true => if isPlain c then skipLines? cs true else none
  | c :: cs, false =>
    if isGap c then skipLines? cs false
    else if c = '#' then skipLines? cs true
    else some (c :: cs)

/-- The rest after the end of a line: gaps, a comment and a line break. -/
def endLine? : List Char → Bool → Option (List Char)
  | [], _ => some []
  | '\r' :: '\n' :: cs, _ => some cs
  | '\n' :: cs, _ => some cs
  | c :: cs, true => if isPlain c then endLine? cs true else none
  | c :: cs, false =>
    if isGap c then endLine? cs false else if c = '#' then endLine? cs true else none

/-! ## Texts -/

/-- The character whose code point the digits give. -/
def scalar? (digits : List Char) : Option Char := do
  let n ← digits.foldlM (fun n c => (Text.hexDigit? c).map (16 * n + ·)) 0
  if n.isValidChar then some (Char.ofNat n) else none

/-- What a one-letter escape stands for. -/
def shortEscape? : Char → Option Char
  | 'b' => some '\x08'
  | 't' => some '\t'
  | 'n' => some '\n'
  | 'f' => some '\x0c'
  | 'r' => some '\r'
  | 'e' => some '\x1b'
  | '"' => some '"'
  | '\\' => some '\\'
  | _ => none

/-- Puts a character in front of what a reader found. -/
def andThen (c : Char) (r : Option (List Char × List Char)) : Option (List Char × List Char) :=
  r.map fun (text, rest) => (c :: text, rest)

/-- A text with escapes on one line, after its opening quote. -/
def readBasic? : List Char → Option (List Char × List Char)
  | [] => none
  | '"' :: cs => some ([], cs)
  | '\\' :: 'x' :: a :: b :: cs => (scalar? [a, b]).bind fun c => andThen c (readBasic? cs)
  | '\\' :: 'u' :: a :: b :: c :: d :: cs =>
    (scalar? [a, b, c, d]).bind fun c => andThen c (readBasic? cs)
  | '\\' :: 'U' :: a :: b :: c :: d :: e :: f :: g :: h :: cs =>
    (scalar? [a, b, c, d, e, f, g, h]).bind fun c => andThen c (readBasic? cs)
  | '\\' :: c :: cs => (shortEscape? c).bind fun c => andThen c (readBasic? cs)
  | c :: cs => if isPlain c && c != '\\' then andThen c (readBasic? cs) else none

/-- A text without escapes on one line, after its opening quote. -/
def readLiteral? : List Char → Option (List Char × List Char)
  | [] => none
  | '\'' :: cs => some ([], cs)
  | c :: cs => if isPlain c then andThen c (readLiteral? cs) else none

/-- What a backslash at the end of a line makes of the blanks after it. -/
inductive Fold where
  /-- Blanks count. -/
  | off
  /-- Only gaps may follow, up to the line break. -/
  | line
  /-- Blanks and line breaks are dropped. -/
  | blanks
deriving DecidableEq, Repr

/-- A text with escapes on several lines, after its opening quotes. -/
def readLongBasic? : Fold → List Char → Option (List Char × List Char)
  | _, [] => none
  | .line, '\r' :: '\n' :: cs => readLongBasic? .blanks cs
  | .line, '\n' :: cs => readLongBasic? .blanks cs
  | .line, c :: cs => if isGap c then readLongBasic? .line cs else none
  | .blanks, ' ' :: cs => readLongBasic? .blanks cs
  | .blanks, '\t' :: cs => readLongBasic? .blanks cs
  | .blanks, '\n' :: cs => readLongBasic? .blanks cs
  | .blanks, '\r' :: '\n' :: cs => readLongBasic? .blanks cs
  | _, '"' :: '"' :: '"' :: '"' :: '"' :: cs => some (['"', '"'], cs)
  | _, '"' :: '"' :: '"' :: '"' :: cs => some (['"'], cs)
  | _, '"' :: '"' :: '"' :: cs => some ([], cs)
  | _, '\\' :: 'x' :: a :: b :: cs =>
    (scalar? [a, b]).bind fun c => andThen c (readLongBasic? .off cs)
  | _, '\\' :: 'u' :: a :: b :: c :: d :: cs =>
    (scalar? [a, b, c, d]).bind fun c => andThen c (readLongBasic? .off cs)
  | _, '\\' :: 'U' :: a :: b :: c :: d :: e :: f :: g :: h :: cs =>
    (scalar? [a, b, c, d, e, f, g, h]).bind fun c => andThen c (readLongBasic? .off cs)
  | _, '\\' :: '\n' :: cs => readLongBasic? .blanks cs
  | _, '\\' :: '\r' :: '\n' :: cs => readLongBasic? .blanks cs
  | _, '\\' :: c :: cs =>
    if isGap c then readLongBasic? .line cs
    else (shortEscape? c).bind fun c => andThen c (readLongBasic? .off cs)
  | _, '\r' :: '\n' :: cs => andThen '\r' (andThen '\n' (readLongBasic? .off cs))
  | _, c :: cs =>
    if (isPlain c && c != '\\') || c == '\n' then andThen c (readLongBasic? .off cs) else none

/-- A text without escapes on several lines, after its opening quotes. -/
def readLongLiteral? : List Char → Option (List Char × List Char)
  | [] => none
  | '\'' :: '\'' :: '\'' :: '\'' :: '\'' :: cs => some (['\'', '\''], cs)
  | '\'' :: '\'' :: '\'' :: '\'' :: cs => some (['\''], cs)
  | '\'' :: '\'' :: '\'' :: cs => some ([], cs)
  | '\r' :: '\n' :: cs => andThen '\r' (andThen '\n' (readLongLiteral? cs))
  | c :: cs => if isPlain c || c == '\n' then andThen c (readLongLiteral? cs) else none

/-- The rest after a line break that directly follows the opening quotes. -/
def skipFirstBreak : List Char → List Char
  | '\r' :: '\n' :: cs => cs
  | '\n' :: cs => cs
  | cs => cs

/-- A text of any kind. -/
def readText? : List Char → Option (String × List Char)
  | '"' :: '"' :: '"' :: cs =>
    (readLongBasic? .off (skipFirstBreak cs)).map fun (t, r) => (.ofList t, r)
  | '\'' :: '\'' :: '\'' :: cs =>
    (readLongLiteral? (skipFirstBreak cs)).map fun (t, r) => (.ofList t, r)
  | '"' :: cs => (readBasic? cs).map fun (t, r) => (.ofList t, r)
  | '\'' :: cs => (readLiteral? cs).map fun (t, r) => (.ofList t, r)
  | _ => none

/-! ## Names -/

/-- Whether a character may stand in a name without quotes. -/
def isBare (c : Char) : Bool := c.isAlphanum || c == '_' || c == '-'

/-- One part of a name. -/
def readPart? (cs : List Char) : Option (String × List Char) :=
  match cs with
  | '"' :: cs => (readBasic? cs).map fun (t, r) => (.ofList t, r)
  | '\'' :: cs => (readLiteral? cs).map fun (t, r) => (.ofList t, r)
  | cs =>
    let part := cs.takeWhile isBare
    if part.isEmpty then none else some (String.ofList part, cs.drop part.length)

/-- A name of parts with dots between them, and the gaps around it. -/
def readName? : Nat → List Char → Option (List String × List Char)
  | 0, _ => none
  | fuel + 1, cs => do
    let (part, rest) ← readPart? (skipGaps cs)
    match skipGaps rest with
    | '.' :: rest => (readName? fuel rest).map fun (parts, rest) => (part :: parts, rest)
    | rest => return ([part], rest)

/-! ## Words -/

/-- Whether a character ends a word. -/
def endsWord (c : Char) : Bool :=
  isGap c || c == '\n' || c == '\r' || c == ',' || c == ']' || c == '\x7d' || c == '#' || c == '='

/-- The word a text starts with. A day and a time of day with a blank between
them are one word. -/
def nextWord (cs : List Char) : List Char :=
  let word := cs.takeWhile (!endsWord ·)
  match cs.drop word.length with
  | ' ' :: c :: rest =>
    if day? word == some [] && c.isDigit then word ++ ' ' :: (c :: rest).takeWhile (!endsWord ·)
    else word
  | _ => word

/-- A number or another scalar. A whole number without a value is kept as a
scalar that no one can use. -/
def readWord? (cs : List Char) : Option (Value × List Char) :=
  let word := nextWord cs
  let rest := cs.drop word.length
  if isWhole word then some (((wholeValue? word).map Value.int).getD .other, rest)
  else if isOther word then some (.other, rest)
  else none

/-! ## Values -/

/-- How deeply lists and tables may be nested in a value. -/
def depthLimit : Nat := 80

mutual

/-- A value in which lists and tables are nested at most `depth` times. -/
def readValue? : Nat → Nat → List Char → Option (Value × List Char)
  | 0, _, _ => none
  | fuel + 1, depth, cs =>
    match cs, depth with
    | '"' :: _, _ => (readText? cs).map fun (s, rest) => (.text s, rest)
    | '\'' :: _, _ => (readText? cs).map fun (s, rest) => (.text s, rest)
    | '[' :: rest, depth + 1 =>
      (readItems? fuel depth rest).map fun (items, rest) => (.array false items, rest)
    | '\x7b' :: rest, depth + 1 =>
      (readPairs? fuel depth [] rest).map fun (es, rest) => (.table .inline es, rest)
    | cs, _ => readWord? cs

/-- The items of a list up to its closing bracket. -/
def readItems? : Nat → Nat → List Char → Option (List Value × List Char)
  | 0, _, _ => none
  | fuel + 1, depth, cs => do
    match ← skipLines? cs false with
    | ']' :: rest => return ([], rest)
    | cs =>
      let (item, rest) ← readValue? fuel depth cs
      match ← skipLines? rest false with
      | ',' :: rest => (readItems? fuel depth rest).map fun (items, rest) => (item :: items, rest)
      | ']' :: rest => return ([item], rest)
      | _ => none

/-- The entries of a table up to its closing brace. -/
def readPairs? : Nat → Nat → Entries → List Char → Option (Entries × List Char)
  | 0, _, _, _ => none
  | fuel + 1, depth, es, cs => do
    match ← skipLines? cs false with
    | '\x7d' :: rest => return (es, rest)
    | cs =>
      let (name, rest) ← readName? fuel cs
      match ← skipLines? rest false with
      | '=' :: rest =>
        let (value, rest) ← readValue? fuel depth (← skipLines? rest false)
        let es ← es.insert? name value
        match ← skipLines? rest false with
        | ',' :: rest => readPairs? fuel depth es rest
        | '\x7d' :: rest => return (es, rest)
        | _ => none
      | _ => none

end

/-! ## Documents -/

/-- Reads on in the table that the path `header` leads to. -/
def readLines? : Nat → Entries → List String → List Char → Option Entries
  | 0, _, _, _ => none
  | fuel + 1, root, header, cs => do
    match ← skipLines? cs false with
    | [] => return root
    | '[' :: '[' :: rest =>
      let (name, rest) ← readName? fuel rest
      match rest with
      | ']' :: ']' :: rest =>
        let rest ← endLine? rest false
        readLines? fuel (← root.openPath? Entries.openItem? name) name rest
      | _ => none
    | '[' :: rest =>
      let (name, rest) ← readName? fuel rest
      match rest with
      | ']' :: rest =>
        let rest ← endLine? rest false
        readLines? fuel (← root.openPath? Entries.openTable? name) name rest
      | _ => none
    | cs =>
      let (name, rest) ← readName? fuel cs
      match rest with
      | '=' :: rest =>
        let (value, rest) ← readValue? fuel depthLimit (skipGaps rest)
        let rest ← endLine? rest false
        readLines? fuel (← root.update? (Entries.insert? name value) header) header rest
      | _ => none

/-- **The entries of a document**, if it is well formed. -/
def read? (text : String) : Option Entries :=
  let cs := match text.toList with
    | '\ufeff' :: cs => cs
    | cs => cs
  readLines? (cs.length + 2) [] [] cs

end Toml

end Workbench
