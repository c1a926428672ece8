import Workbench.Text.Joining
import Workbench.Text.Normal
import Workbench.Text.Punycode
import Workbench.Text.Split
import Workbench.Uri.Escape
import Workbench.Uri.PlainForm
/-!
# Domain names

A domain is a row of labels with dots between them. Reading one undoes
escapes, brings the text into plain and normal form, and writes labels beyond
ASCII by `xn--` and their code. A label that is already written so must be
the code of a label in this form. In a label, no mark comes first, and the
two characters that join or part letters stand only where that shows. If any
label has letters read to the left, every label is read in one direction.
-/

namespace Workbench

namespace Uri

/-! ## Labels -/

/-- The ASCII characters that no domain may hold. -/
def isBarred (c : Char) : Bool :=
  c.toNat ≤ 0x20 || c.toNat = 0x7F || "#/:<>?@[\\]^|%".toList.contains c

/-- Whether the joiner between two parts of a label may stand there: behind a
mark that suppresses a vowel, or, if it parts letters, between letters that
would be joined. The part before it is read backwards. -/
def isJoinerPlaced (joiner : Char) (before after : List Char) : Bool :=
  before.head?.any (Text.markClass · == 9) ||
    (joiner == '\u200c' && Text.Joining.reaches Text.Joining.forward before &&
      Text.Joining.reaches Text.Joining.backward after)

/-- Whether all joiners of a label stand where they may; `before` is what was
passed, backwards. -/
def joinersPlaced (before : List Char) : List Char → Bool
  | [] => true
  | c :: cs =>
    (!Text.joinControl.contains c || isJoinerPlaced c before cs) && joinersPlaced (c :: before) cs

/-- How long a label beyond ASCII may be. -/
def labelLimit : Nat := 1000

/-- How long the code of a label may be. -/
def codeLimit : Nat := 2000

/-- Whether a label in plain and normal form may stand in a domain. -/
def isLabel (label : List Char) : Bool :=
  label.all (!isBarred ·) && !(label.head?.any domainMarks.contains) && joinersPlaced [] label &&
    (label.length ≤ labelLimit || label.all (·.toNat < 128))

/-- Whether a label is in plain and normal form. -/
def isPlain (label : List Char) : Bool :=
  label.all (fun c => plainForm? c == some [c]) && Text.normalize label == label

/-- The label that a code stands for. -/
def decoded? (code : List Char) : Option (List Char) :=
  if code.getLast? == some '-' || codeLimit < code.length then none
  else
    (Text.Punycode.decode? code).filter fun label =>
      label.any (128 ≤ ·.toNat) && isPlain label && Text.Punycode.encode label == code

/-- The label that a part of a domain stands for. -/
def label? (part : List Char) : Option (List Char) :=
  let label := match part with
    | 'x' :: 'n' :: '-' :: '-' :: code => decoded? code
    | label => some label
  label.filter isLabel

/-- The ASCII form of a label. -/
def labelText (label : List Char) : List Char :=
  if label.all (·.toNat < 128) then label else "xn--".toList ++ Text.Punycode.encode label

/-! ## Directions -/

/-- Whether the characters of a label have one direction, that of the first:
read to the right, it ends in such a character or a digit and has no others
with a direction; read to the left, it has no character read to the right, and
digits of one kind. Marks at the end do not count. -/
def isDirected (label : List Char) : Bool :=
  match label.map Text.Direction.of with
  | [] => true
  | first :: rest =>
    let rest := (rest.reverse.dropWhile (· == .mark)).reverse
    let last := rest.getLast?
    match first with
    | .rightward =>
      rest.all (fun d => d != .leftward && d != .arabicDigit) &&
        last.all fun d => d == .rightward || d == .digit
    | .leftward =>
      rest.all (· != .rightward) && !(rest.contains .digit && rest.contains .arabicDigit) &&
        last.all fun d => d == .leftward || d == .digit || d == .arabicDigit
    | _ => false

/-- Whether a label has characters read to the left. -/
def hasLeftward (label : List Char) : Bool :=
  label.any fun c => Text.Direction.of c == .leftward || Text.Direction.of c == .arabicDigit

/-! ## Domains -/

/-- **The ASCII form of a domain**, if it is one. -/
def domain? (cs : List Char) : Option (List Char) := do
  let text ← textOf? (unescape cs)
  let plain ← text.mapM plainForm?
  let labels ← (Text.splitAt '.' (Text.normalize plain.flatten)).mapM label?
  if labels.any hasLeftward && !labels.all isDirected then none
  else return Text.joinWith '.' (labels.map labelText)

end Uri

end Workbench
