import Workbench.Text.Property
/-!
# Word characters

A word character is alphabetic, a mark, a decimal digit, a connector
punctuation or a join control. Patterns use the class for words and word
boundaries.
-/

namespace Workbench

namespace Text

/-- The word characters. -/
def wordChars : CharSet :=
  .unions [alphabetic, marks, decimalDigits, Category.connectorPunctuation.members, joinControl]

/-- Whether a character is a word character. -/
def isWord (c : Char) : Bool :=
  if c.toNat < 128 then c.isAlphanum || c == '_' else wordChars.contains c

end Text

end Workbench
