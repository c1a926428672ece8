import Workbench.Pattern.Extent
import Workbench.Pattern.Search
import Workbench.Text.Age
import Workbench.Text.Break
import Workbench.Text.Script
import Workbench.Text.Blank
/-!
# Reading patterns

The written form of patterns: literals, escapes, classes by name or in
brackets with set operations, groups, alternatives, assertions, counted and
uncounted repetitions with their lazy forms, and inline flags. `read?`
refuses what is not well formed or nested too deeply. Reading keeps one frame
per open group, so a single pass over the characters is enough; every round
of a pass takes at least one character, and the length of the text bounds the
rounds.
-/

namespace Workbench

namespace Pattern

/-- The switches inline flags set. -/
structure Flags where
  /-- `i`: letters match up to case. -/
  ignoreCase : Bool
  /-- `m`: the line anchors match at line breaks. -/
  multiLine : Bool
  /-- `s`: the dot matches line breaks. -/
  dotAll : Bool
  /-- `U`: repetitions are lazy unless marked. -/
  swapGreed : Bool
  /-- `x`: white space and comments are skipped. -/
  verbose : Bool
  /-- `R`: a carriage return breaks lines too. -/
  carriageReturn : Bool
  /-- `u`: classes hold characters beyond ASCII. -/
  unicode : Bool
deriving DecidableEq, Repr, Inhabited

/-- All switches as they are at the start. -/
def Flags.default : Flags := ⟨false, false, false, false, false, false, true⟩

/-- The characters below 128. -/
def asciiChars : CharSet := ⟨[(0, 0x7F)]⟩

/-- The set up to case, if letters match up to case. -/
def Flags.fold (flags : Flags) (s : CharSet) : CharSet :=
  if !flags.ignoreCase then s
  else if flags.unicode then s.folded
  else s.folded.inter asciiChars

/-- The set, or what is outside it. Without `u` a class must not hold
anything beyond ASCII. -/
def Flags.classOf? (flags : Flags) (negated : Bool) (s : CharSet) : Option CharSet :=
  let s := if negated then s.complement else s
  if flags.unicode || s.isAscii then some s else none

/-- Skips white space and comments when they carry no meaning. -/
def skipSpace (flags : Flags) (cs : List Char) : List Char :=
  if flags.verbose then go cs false else cs
where
  /-- The rest after blanks, inside a comment or not. -/
  go : List Char → Bool → List Char
    | [], _ => []
    | c :: cs, true => go cs (c != '\n')
    | c :: cs, false =>
      if c == '#' then go cs true else if Text.isBlank c then go cs false else c :: cs

/-- The next `n` characters. -/
def readChars? (flags : Flags) : Nat → List Char → Option (List Char × List Char)
  | 0, cs => some ([], cs)
  | n + 1, cs =>
    match skipSpace flags cs with
    | [] => none
    | c :: cs => (readChars? flags n cs).map fun (taken, rest) => (c :: taken, rest)

/-- The characters before a closing brace, and what comes after it. -/
def readBraced? (flags : Flags) : Nat → List Char → Option (List Char × List Char)
  | 0, _ => none
  | fuel + 1, cs =>
    match skipSpace flags cs with
    | [] => none
    | '\x7d' :: rest => some ([], rest)
    | c :: cs => (readBraced? flags fuel cs).map fun (taken, rest) => (c :: taken, rest)

/-! ## Escapes -/

/-- What an escape or a plain character stands for. -/
inductive Item where
  /-- A character; a byte is written by two digits and must be ASCII
  without `u`. -/
  | literal (c : Char) (byte : Bool)
  | set (s : CharSet)
  | assertion (a : Assertion)
deriving Repr, Inhabited

/-- The value of hexadecimal digits, if there are any and nothing else. -/
def hexValue? (cs : List Char) : Option Nat :=
  if cs.isEmpty then none
  else cs.foldlM (fun n c => (Text.hexDigit? c).map (16 * n + ·)) 0

/-- The character with a code point, if it is a scalar value. -/
def scalar? (n : Nat) : Option Char :=
  if n.isValidChar then some (Char.ofNat n) else none

/-- A code point in braces, or of exactly `width` digits. -/
def readHex? (flags : Flags) (width : Nat) (cs : List Char) : Option (Item × List Char) := do
  let cs := skipSpace flags cs
  let (digits, rest) ← match cs with
    | '\x7b' :: cs => readBraced? flags (cs.length + 1) cs
    | cs => readChars? flags width cs
  let c ← (hexValue? digits).bind scalar?
  return (.literal c (width == 2 && cs.head? != some '\x7b'), rest)

/-- A name without case, blanks, hyphens, underscores and a leading `is`. -/
def normalName (cs : List Char) : String :=
  let isPrefixed := (cs.take 2).map Char.toLower == ['i', 's']
  let kept := (if isPrefixed then cs.drop 2 else cs).filter fun c =>
    c != ' ' && c != '_' && c != '-' && c.toNat < 128
  let name := String.ofList (kept.map Char.toLower)
  if isPrefixed && name == "c" then "isc" else name

/-- The characters with a property, a general category or a script. -/
def classNamed? (name : String) : Option CharSet :=
  (Text.property? name).or ((Text.category? name).or ((Text.Script.named? name).map (·.members)))

/-- The characters whose named property has a value. -/
def classValued? (name value : String) : Option CharSet :=
  match name with
  | "gc" | "generalcategory" => Text.category? value
  | "sc" | "script" => (Text.Script.named? value).map (·.members)
  | "scx" | "scriptextensions" => (Text.Script.named? value).map (·.extended)
  | "age" => Text.age? value
  | "gcb" | "graphemeclusterbreak" => Text.clusterBreak? value
  | "wb" | "wordbreak" => Text.wordBreak? value
  | "sb" | "sentencebreak" => Text.sentenceBreak? value
  | _ => none

/-- The parts of a text before and after the first `mark`. -/
def splitAtMark? (mark : List Char) : List Char → Option (List Char × List Char)
  | [] => none
  | c :: cs =>
    if mark.isPrefixOf (c :: cs) then some ([], (c :: cs).drop mark.length)
    else (splitAtMark? mark cs).map fun (before, after) => (c :: before, after)

/-- The class a name in braces stands for, and whether it is the class of all
others; `!=`, `:` and `=` come before a value, and `!=` asks for the others. -/
def classOfName? (cs : List Char) : Option (CharSet × Bool) :=
  let valued (others : Bool) : List Char × List Char → Option (CharSet × Bool)
    | (name, value) => (classValued? (normalName name) (normalName value)).map (·, others)
  match splitAtMark? ['!', '='] cs with
  | some parts => valued true parts
  | none =>
    match (splitAtMark? [':'] cs).or (splitAtMark? ['='] cs) with
    | some parts => valued false parts
    | none => (classNamed? (normalName cs)).map (·, false)

/-- A class by one letter or by a name in braces. -/
def readProperty? (flags : Flags) (negated : Bool) (cs : List Char) :
    Option (Item × List Char) := do
  let (name, rest) ← match skipSpace flags cs with
    | '\x7b' :: cs => readBraced? flags (cs.length + 1) cs
    | '\\' :: _ => none
    | c :: cs => some ([c], cs)
    | [] => none
  if !flags.unicode then none
  else
    let (s, others) ← classOfName? name
    let s ← flags.classOf? (negated != others) (flags.fold s)
    return (.set s, rest)

/-- One of the short classes: digits, white space and words. -/
def readShortClass? (flags : Flags) (negated : Bool) (all ascii : CharSet) (cs : List Char) :
    Option (Item × List Char) :=
  (flags.classOf? negated (if flags.unicode then all else ascii)).map fun s => (.set s, cs)

/-- The edge a name in braces stands for. -/
def edgeNamed? : String → Option WordEdge
  | "start" => some .start
  | "end" => some .stop
  | "start-half" => some .afterNone
  | "end-half" => some .beforeNone
  | _ => none

/-- Whether a character can stand in the name of an edge. -/
def isEdgeChar (c : Char) : Bool := c.isAlpha || c == '-'

/-- What follows an escaped `b`: the name of an edge in braces, unless the
braces hold a count. -/
def readEdge? (flags : Flags) (cs : List Char) : Option (Item × List Char) :=
  let plain (edge : WordEdge) : Item := .assertion (.word edge !flags.unicode)
  match cs with
  | '\x7b' :: inner =>
    match skipSpace flags inner with
    | [] => none
    | c :: _ =>
      if isEdgeChar c then do
        let (name, rest) ← readBraced? flags (inner.length + 1) inner
        let edge ← if name.all isEdgeChar then edgeNamed? (String.ofList name) else none
        return (plain edge, rest)
      else some (plain .either, cs)
  | cs => some (plain .either, cs)

/-- Whether an escaped character that is no letter or digit stands for
itself. -/
def isEscapable (c : Char) : Bool :=
  c.toNat < 128 && !c.isAlphanum && c != '<' && c != '>'

/-- What follows a backslash. -/
def readEscape? (flags : Flags) : List Char → Option (Item × List Char)
  | [] => none
  | c :: cs =>
    let atEdge (edge : WordEdge) : Option (Item × List Char) :=
      some (.assertion (.word edge !flags.unicode), cs)
    match c with
    | 'd' | 'D' => readShortClass? flags (c == 'D') Text.decimalDigits ⟨[(0x30, 0x39)]⟩ cs
    | 's' | 'S' => readShortClass? flags (c == 'S') Text.whiteSpace ⟨[(0x9, 0xD), (0x20, 0x20)]⟩ cs
    | 'w' | 'W' =>
      readShortClass? flags (c == 'W') Text.wordChars (Text.wordChars.inter asciiChars) cs
    | 'p' => readProperty? flags false cs
    | 'P' => readProperty? flags true cs
    | 'x' => readHex? flags 2 cs
    | 'u' => readHex? flags 4 cs
    | 'U' => readHex? flags 8 cs
    | 'a' => some (.literal '\x07' false, cs)
    | 'f' => some (.literal '\x0c' false, cs)
    | 't' => some (.literal '\t' false, cs)
    | 'n' => some (.literal '\n' false, cs)
    | 'r' => some (.literal '\r' false, cs)
    | 'v' => some (.literal '\x0b' false, cs)
    | 'A' => some (.assertion .textStart, cs)
    | 'z' => some (.assertion .textEnd, cs)
    | 'b' => readEdge? flags cs
    | 'B' => atEdge .neither
    | '<' => atEdge .start
    | '>' => atEdge .stop
    | c => if isEscapable c then some (.literal c false, cs) else none

/-! ## Bracketed classes -/

/-- A set operation inside brackets. -/
inductive SetOp where
  | inter
  | diff
  | symmDiff
deriving DecidableEq, Repr

/-- Applies a set operation. -/
def SetOp.apply : SetOp → CharSet → CharSet → CharSet
  | inter, a, b => a.inter b
  | diff, a, b => a.diff b
  | symmDiff, a, b => a.symmDiff b

/-- A bracketed class that has been opened: whether it is negated, the left
side of a pending operation with its depth, and what has been collected
since: its union, the number of its members and the depth of the deepest. -/
structure ClassFrame where
  negated : Bool
  pending : Option (CharSet × SetOp × Nat)
  items : CharSet
  count : Nat
  depth : Nat
deriving Repr, Inhabited

/-- The set collected so far and its depth, pending operation included. The
sides of an operation are taken up to case. -/
def ClassFrame.collected (frame : ClassFrame) (flags : Flags) : CharSet × Nat :=
  let depth := if frame.count ≤ 1 then frame.depth else frame.depth + 1
  match frame.pending with
  | some (left, op, leftDepth) =>
    (op.apply (flags.fold left) (flags.fold frame.items), max leftDepth depth + 1)
  | none => (frame.items, depth)

/-- Adds a set of some depth to what has been collected. -/
def ClassFrame.add (frame : ClassFrame) (set : CharSet) (depth : Nat) : ClassFrame :=
  { frame with
    items := frame.items.union set
    count := frame.count + 1
    depth := max frame.depth depth }

/-- Starts the right side of an operation. -/
def ClassFrame.operate (frame : ClassFrame) (flags : Flags) (op : SetOp) : ClassFrame :=
  let (left, depth) := frame.collected flags
  ⟨frame.negated, some (left, op, depth), .none, 0, 0⟩

/-- The set of a class when it closes, and its depth. -/
def ClassFrame.close? (frame : ClassFrame) (flags : Flags) : Option (CharSet × Nat) :=
  let (set, depth) := frame.collected flags
  (flags.classOf? frame.negated (flags.fold set)).map fun set => (set, depth + 1)

/-- Leading hyphens of a class, each of which stands for itself. -/
def readHyphens (flags : Flags) : Nat → ClassFrame → List Char → ClassFrame × List Char
  | 0, frame, cs => (frame, cs)
  | fuel + 1, frame, cs =>
    match cs with
    | '-' :: cs => readHyphens flags fuel (frame.add (.single '-') 0) (skipSpace flags cs)
    | cs => (frame, cs)

/-- Opens a class: an optional negation, leading hyphens, and a closing
bracket that stands for itself. -/
def openClass (flags : Flags) (cs : List Char) : ClassFrame × List Char :=
  let cs := skipSpace flags cs
  let (negated, cs) := match cs with
    | '^' :: rest => (true, skipSpace flags rest)
    | cs => (false, cs)
  let (frame, cs) := readHyphens flags cs.length ⟨negated, none, .none, 0, 0⟩ cs
  match cs with
  | ']' :: rest =>
    if frame.count = 0 then (frame.add (.single ']') 0, skipSpace flags rest) else (frame, cs)
  | cs => (frame, cs)

/-- A single member of a class. -/
def readMember? (flags : Flags) : List Char → Option (Item × List Char)
  | [] => none
  | '\\' :: cs => readEscape? flags cs
  | c :: cs => some (.literal c false, cs)

/-- A character that can stand in a class: without `u`, an ASCII one. -/
def Item.single? (flags : Flags) : Item → Option Char
  | .literal c _ => if flags.unicode || c.toNat < 128 then some c else none
  | _ => none

/-- The set of a member on its own; an assertion is no member. -/
def Item.member? (flags : Flags) : Item → Option CharSet
  | .set s => some s
  | item => (item.single? flags).map .single

/-- The next character that is not white space, when white space carries no
meaning; the mark of a comment is passed, its text is not. -/
def peekSpace (flags : Flags) (cs : List Char) : Option Char :=
  if !flags.verbose then cs.head?
  else
    match cs.dropWhile Text.isBlank with
    | '#' :: rest => (rest.dropWhile Text.isBlank).head?
    | rest => rest.head?

/-- A member, or a range between two literals. -/
def readClassRange? (flags : Flags) (cs : List Char) : Option (CharSet × List Char) := do
  let (first, rest) ← readMember? flags cs
  let rest := skipSpace flags rest
  let alone := (first.member? flags).map fun set => (set, rest)
  match rest with
  | '-' :: more =>
    if peekSpace flags more == some ']' || peekSpace flags more == some '-' then alone
    else
      let (second, rest) ← readMember? flags (skipSpace flags more)
      let lo ← first.single? flags
      let hi ← second.single? flags
      if lo ≤ hi then some (.range lo hi, rest) else none
  | _ => alone

/-- The set with a bracketed name, such as `alpha`. -/
def bracketName? : String → Option CharSet
  | "alnum" => some ⟨[(0x30, 0x39), (0x41, 0x5A), (0x61, 0x7A)]⟩
  | "alpha" => some ⟨[(0x41, 0x5A), (0x61, 0x7A)]⟩
  | "ascii" => some asciiChars
  | "blank" => some ⟨[(0x9, 0x9), (0x20, 0x20)]⟩
  | "cntrl" => some ⟨[(0, 0x1F), (0x7F, 0x7F)]⟩
  | "digit" => some ⟨[(0x30, 0x39)]⟩
  | "graph" => some ⟨[(0x21, 0x7E)]⟩
  | "lower" => some ⟨[(0x61, 0x7A)]⟩
  | "print" => some ⟨[(0x20, 0x7E)]⟩
  | "punct" => some ⟨[(0x21, 0x2F), (0x3A, 0x40), (0x5B, 0x60), (0x7B, 0x7E)]⟩
  | "space" => some ⟨[(0x9, 0xD), (0x20, 0x20)]⟩
  | "upper" => some ⟨[(0x41, 0x5A)]⟩
  | "word" => some ⟨[(0x30, 0x39), (0x41, 0x5A), (0x5F, 0x5F), (0x61, 0x7A)]⟩
  | "xdigit" => some ⟨[(0x30, 0x39), (0x41, 0x46), (0x61, 0x66)]⟩
  | _ => none

/-- A class such as `[:alpha:]`, after its opening bracket: whether it is
negated, and its set. -/
def readNamedClass? : List Char → Option (Bool × CharSet × List Char)
  | ':' :: cs =>
    let (negated, cs) := match cs with
      | '^' :: rest => (true, rest)
      | cs => (false, cs)
    let name := cs.takeWhile (· != ':')
    match cs.drop name.length with
    | ':' :: ']' :: rest => (bracketName? (String.ofList name)).map fun set => (negated, set, rest)
    | _ => none
  | _ => none

/-- The members of an open class up to the bracket that closes the outermost
one, with the depth of the class. -/
def readClassFrom? (flags : Flags) :
    Nat → ClassFrame → List ClassFrame → List Char → Option (CharSet × Nat × List Char)
  | 0, _, _, _ => none
  | fuel + 1, frame, outer, cs =>
    match skipSpace flags cs with
    | [] => none
    | ']' :: rest =>
      (frame.close? flags).bind fun (set, depth) =>
        match outer with
        | [] => some (set, depth, rest)
        | parent :: outer => readClassFrom? flags fuel (parent.add set depth) outer rest
    | '[' :: rest =>
      match readNamedClass? rest with
      | some (negated, set, rest) =>
        (flags.classOf? negated (flags.fold set)).bind fun set =>
          readClassFrom? flags fuel (frame.add set 0) outer rest
      | none =>
        let (inner, rest) := openClass flags rest
        readClassFrom? flags fuel inner (frame :: outer) rest
    | '&' :: '&' :: rest => readClassFrom? flags fuel (frame.operate flags .inter) outer rest
    | '-' :: '-' :: rest => readClassFrom? flags fuel (frame.operate flags .diff) outer rest
    | '~' :: '~' :: rest => readClassFrom? flags fuel (frame.operate flags .symmDiff) outer rest
    | cs =>
      match readClassRange? flags cs with
      | some (set, rest) => readClassFrom? flags fuel (frame.add set 0) outer rest
      | none => none

/-- A bracketed class, after its opening bracket. -/
def readClass? (flags : Flags) (cs : List Char) : Option (CharSet × Nat × List Char) :=
  let (frame, rest) := openClass flags cs
  readClassFrom? flags (cs.length + 1) frame [] rest

/-! ## Repetitions -/

/-- Decimal digits. -/
def readDigits (flags : Flags) : Nat → List Char → List Char × List Char
  | 0, cs => ([], cs)
  | fuel + 1, cs =>
    match cs with
    | c :: rest =>
      if c.isDigit then
        let (digits, rest) := readDigits flags fuel (skipSpace flags rest)
        (c :: digits, rest)
      else ([], cs)
    | [] => ([], [])

/-- The rest after blanks, and after comments behind a blank when they carry
no meaning. -/
def skipBlanks (flags : Flags) : Nat → List Char → List Char
  | 0, cs => cs
  | fuel + 1, cs =>
    match cs with
    | c :: rest => if Text.isBlank c then skipBlanks flags fuel (skipSpace flags rest) else cs
    | [] => []

/-- A decimal count of 32 bits, with blanks around it. -/
def readCount? (flags : Flags) (cs : List Char) : Option Nat × List Char :=
  let cs := cs.dropWhile Text.isBlank
  let (digits, rest) := readDigits flags cs.length cs
  let value := digits.foldl (fun n c => 10 * n + (c.toNat - '0'.toNat)) 0
  (if digits.isEmpty || value ≥ UInt32.size then none else some value,
    skipBlanks flags rest.length rest)

/-- The bounds of a counted repetition, after its opening brace. -/
def readBounds? (flags : Flags) (cs : List Char) : Option (Nat × Option Nat × List Char) :=
  let (least, rest) := readCount? flags (skipSpace flags cs)
  match rest with
  | ',' :: rest =>
    match skipSpace flags rest with
    | '\x7d' :: rest => least.map fun least => (least, none, rest)
    | rest => do
      let least ← least
      let (most, rest) := readCount? flags rest
      let most ← most
      match rest with
      | '\x7d' :: rest => if least ≤ most then some (least, some most, rest) else none
      | _ => none
  | '\x7d' :: rest => least.map fun least => (least, some least, rest)
  | _ => none

/-! ## Groups -/

/-- A pattern with the depth of its written form. -/
abbrev Nested := Pattern × Nat

/-- The depth of parts put together: one more than the deepest, unless there
is only one. -/
def joinedDepth (parts : List Nested) : Nat :=
  let deepest := parts.foldl (fun n part => max n part.2) 0
  if parts.length ≤ 1 then deepest else deepest + 1

/-- A group that has been opened: its number if it is numbered, the flags
inside it, the alternatives behind, and the patterns of the current one, both
latest first. -/
structure Frame where
  index : Option Nat
  flags : Flags
  alternatives : List Nested
  items : List Nested
  /-- Whether the latest item can be repeated. -/
  repeatable : Bool
deriving Repr, Inhabited

/-- A group that has just been opened. -/
def Frame.opened (index : Option Nat) (flags : Flags) : Frame := ⟨index, flags, [], [], false⟩

/-- The current alternative as one pattern. -/
def Frame.current (frame : Frame) : Nested :=
  (sequence (frame.items.reverse.map (·.1)), joinedDepth frame.items)

/-- Ends the current alternative. -/
def Frame.branch (frame : Frame) : Frame :=
  ⟨frame.index, frame.flags, frame.current :: frame.alternatives, [], false⟩

/-- What the group holds as one pattern, earlier alternatives first. -/
def Frame.content (frame : Frame) : Nested :=
  let branches := frame.current :: frame.alternatives
  (choice (branches.reverse.map (·.1)), joinedDepth branches)

/-- The whole group as one pattern. -/
def Frame.close (frame : Frame) : Nested :=
  let (p, depth) := frame.content
  (match frame.index with
    | some i => group i p
    | none => p, depth + 1)

/-- Adds a pattern to the current alternative. -/
def Frame.push (frame : Frame) (p : Nested) : Frame :=
  { frame with items := p :: frame.items, repeatable := true }

/-- Sets flags for the rest of the group. -/
def Frame.setFlags (frame : Frame) (flags : Flags) : Frame :=
  { frame with flags, items := (empty, 0) :: frame.items, repeatable := false }

/-- Repeats the latest pattern of the current alternative. -/
def Frame.repeatLast? (frame : Frame) (least : Nat) (most : Option Nat) (lazy : Bool) :
    Option Frame :=
  if frame.repeatable then
    match frame.items with
    | [] => none
    | (last, depth) :: before =>
      let greedy := !lazy != frame.flags.swapGreed
      some { frame with items := (repetition least most greedy last, depth + 1) :: before }
  else none

/-- Sets one switch. -/
def Flags.set? (flags : Flags) (on : Bool) : Char → Option Flags
  | 'i' => some { flags with ignoreCase := on }
  | 'm' => some { flags with multiLine := on }
  | 's' => some { flags with dotAll := on }
  | 'U' => some { flags with swapGreed := on }
  | 'x' => some { flags with verbose := on }
  | 'R' => some { flags with carriageReturn := on }
  | 'u' => some { flags with unicode := on }
  | _ => none

/-- Flags up to the character that ends them, `:` or `)`; none twice, at most
one hyphen and that before a flag. -/
def readFlags? (flags : Flags) (on : Bool) (seen : List Char) :
    List Char → Option (Flags × List Char × Bool × List Char)
  | [] => none
  | c :: cs =>
    if c == ':' || c == ')' then
      if seen.head? == some '-' then none else some (flags, seen, c == ':', cs)
    else if seen.contains c then none
    else if c == '-' then readFlags? flags false (c :: seen) cs
    else (flags.set? on c).bind fun flags => readFlags? flags on (c :: seen) cs

/-- Whether a character can start the name of a group. -/
def isNameStart (c : Char) : Bool := c == '_' || Text.alphabetic.contains c

/-- Whether a character can continue the name of a group. -/
def isNameRest (c : Char) : Bool :=
  isNameStart c || c == '.' || c == '[' || c == ']' || Text.numbers.contains c

/-- The name of a group up to its closing bracket. -/
def readGroupName? (cs : List Char) : Option (String × List Char) :=
  let name := cs.takeWhile (· != '>')
  match cs.drop name.length, name with
  | _ :: rest, c :: more =>
    if isNameStart c && more.all isNameRest then some (String.ofList name, rest) else none
  | _, _ => none

/-- What an opening parenthesis starts. -/
inductive Opening where
  /-- A numbered group, and its name if it has one. -/
  | numbered (name : Option String)
  /-- A group with these flags inside. -/
  | plain (flags : Flags)
  /-- New flags for the rest of the group around it. -/
  | directive (flags : Flags)
deriving Repr

/-- What an opening parenthesis starts; text that looks around is refused. -/
def readOpening? (flags : Flags) : List Char → Option (Opening × List Char)
  | '?' :: 'P' :: '<' :: cs =>
    (readGroupName? cs).map fun (name, rest) => (.numbered (some name), rest)
  | '?' :: '<' :: cs =>
    match cs with
    | '=' :: _ => none
    | '!' :: _ => none
    | cs => (readGroupName? cs).map fun (name, rest) => (.numbered (some name), rest)
  | '?' :: cs =>
    (readFlags? flags true [] cs).bind fun (inner, seen, isGroup, rest) =>
      if isGroup then some (.plain inner, rest)
      else if seen.isEmpty then none
      else some (.directive inner, rest)
  | cs => some (.numbered none, cs)

/-! ## Patterns -/

/-- The pattern of one item under the flags in force. -/
def Item.pattern? (flags : Flags) : Item → Option Pattern
  | .literal c byte =>
    if byte && !flags.unicode && 128 ≤ c.toNat then none
    else if !flags.unicode && 128 ≤ c.toNat then some (.char (.single c))
    else some (.char (flags.fold (.single c)))
  | .set s => some (.char s)
  | .assertion a => some (.assertion a)

/-- The set of the dot: everything, or everything but line breaks. It has no
meaning without `u`. -/
def Flags.dot? (flags : Flags) : Option CharSet :=
  if !flags.unicode then none
  else if flags.dotAll then some .all
  else if flags.carriageReturn then some (CharSet.complement ⟨[(0xA, 0xA), (0xD, 0xD)]⟩)
  else some (CharSet.single '\n').complement

/-- The assertion of `^` or `$`, by whether it is the first. -/
def Flags.anchor (flags : Flags) (atStart : Bool) : Assertion :=
  match flags.multiLine, flags.carriageReturn, atStart with
  | false, _, true => .textStart
  | false, _, false => .textEnd
  | true, false, true => .lineStart
  | true, false, false => .lineEnd
  | true, true, true => .breakStart
  | true, true, false => .breakEnd

/-- An optional `?` after a repetition, which makes it lazy. -/
def readLazy : List Char → Bool × List Char
  | '?' :: rest => (true, rest)
  | cs => (false, cs)

/-- The numbered groups so far: how many, and their names. -/
structure GroupNames where
  count : Nat
  names : List String
deriving Repr, Inhabited

/-- Counts another numbered group; a name is taken only once. -/
def GroupNames.add? (groups : GroupNames) (name : Option String) : Option GroupNames :=
  match name with
  | none => some { groups with count := groups.count + 1 }
  | some name =>
    if groups.names.contains name then none else some ⟨groups.count + 1, name :: groups.names⟩

/-- Reads on in the innermost group `frame`, with the groups around it in
`outer`. -/
def readFrom? : Nat → Frame → List Frame → GroupNames → List Char → Option Nested
  | 0, _, _, _, _ => none
  | fuel + 1, frame, outer, groups, cs =>
    match skipSpace frame.flags cs with
    | [] => if outer.isEmpty then some frame.content else none
    | '(' :: rest =>
      match readOpening? frame.flags (skipSpace frame.flags rest) with
      | none => none
      | some (.directive flags, rest) => readFrom? fuel (frame.setFlags flags) outer groups rest
      | some (.plain flags, rest) =>
        readFrom? fuel (.opened none flags) (frame :: outer) groups rest
      | some (.numbered name, rest) =>
        (groups.add? name).bind fun groups =>
          readFrom? fuel (.opened (some groups.count) frame.flags) (frame :: outer) groups rest
    | ')' :: rest =>
      match outer with
      | [] => none
      | parent :: outer => readFrom? fuel (parent.push frame.close) outer groups rest
    | '|' :: rest => readFrom? fuel frame.branch outer groups rest
    | '*' :: rest =>
      let (lazy, rest) := readLazy rest
      (frame.repeatLast? 0 none lazy).bind fun frame => readFrom? fuel frame outer groups rest
    | '+' :: rest =>
      let (lazy, rest) := readLazy rest
      (frame.repeatLast? 1 none lazy).bind fun frame => readFrom? fuel frame outer groups rest
    | '?' :: rest =>
      let (lazy, rest) := readLazy rest
      (frame.repeatLast? 0 (some 1) lazy).bind fun frame => readFrom? fuel frame outer groups rest
    | '\x7b' :: rest =>
      (readBounds? frame.flags rest).bind fun (least, most, rest) =>
        let (lazy, rest) := readLazy (skipSpace frame.flags rest)
        (frame.repeatLast? least most lazy).bind fun frame => readFrom? fuel frame outer groups rest
    | '[' :: rest =>
      (readClass? frame.flags rest).bind fun (set, depth, rest) =>
        readFrom? fuel (frame.push (.char set, depth)) outer groups rest
    | '.' :: rest =>
      frame.flags.dot?.bind fun set =>
        readFrom? fuel (frame.push (.char set, 0)) outer groups rest
    | '^' :: rest =>
      readFrom? fuel (frame.push (.assertion (frame.flags.anchor true), 0)) outer groups rest
    | '$' :: rest =>
      readFrom? fuel (frame.push (.assertion (frame.flags.anchor false), 0)) outer groups rest
    | '\\' :: rest =>
      (readEscape? frame.flags rest).bind fun (item, rest) =>
        (item.pattern? frame.flags).bind fun p =>
          readFrom? fuel (frame.push (p, 0)) outer groups rest
    | c :: rest =>
      ((Item.literal c false).pattern? frame.flags).bind fun p =>
        readFrom? fuel (frame.push (p, 0)) outer groups rest

/-- The greatest depth of a written pattern. -/
def depthLimit : Nat := 250

/-- **The pattern a text describes**, if it is well formed and not nested too
deeply. -/
def read? (text : String) : Option Pattern :=
  let cs := text.toList
  (readFrom? (cs.length + 1) (.opened none .default) [] ⟨0, []⟩ cs).bind fun (p, depth) =>
    if depth ≤ depthLimit then some p else none

/-- **The program of a terminal**: what its text describes, held to the start
of the remaining text, unless that is too large. -/
def terminal? (text : String) : Option Program :=
  (read? ("^(?:" ++ text ++ ")")).bind fun p => if p.isSmall then some p.program else none

end Pattern

end Workbench
