import Workbench.Text.Property
import Workbench.Text.Script
/-!
# Breaks

Text is divided into clusters, words and sentences by classes of characters,
one classification for each. A character that no class of a classification
names is in none of them. Names are normalised: without case, blanks, hyphens
and underscores.
-/

namespace Workbench

namespace Text

/-- The characters of a property of this name. -/
def having (property : String) : CharSet := (property? property).getD .none

/-- The characters of the scripts with these names. -/
def writtenIn (scripts : List String) : CharSet :=
  .unions (scripts.map fun name => ((Script.named? name).map (·.members)).getD .none)

/-- Marks in front of a number that they span. -/
def spanningMarks : CharSet := having "pcm"

/-- Characters that extend the one before them, spacing marks among them. -/
def extending : CharSet := graphemeExtend.union Category.spacingMark.members

/-- Digits, separators inside numbers and the marks that span numbers. -/
def numeric : CharSet :=
  adjusted (decimalDigits.union spanningMarks) "66B-66C" "70F"

/-! ## Clusters -/

/-- Characters that a cluster starts with and cannot end with. -/
def prepended : CharSet :=
  spanningMarks.union (.ofHex "D4E 111C2-111C3 113D1 1193F 11941 11A3A 11A84-11A89 11D46 11F02")

/-- Characters in clusters of their own: controls, and what is kept free for
characters that do not show. -/
def clusterControl : CharSet :=
  let controls := inCategories [.control, .formatting, .lineSeparator, .paragraphSeparator]
  let kept := (having "di").inter assigned.complement
  (controls.union kept).diff (.unions [.ofHex "A D 200D", prepended, graphemeExtend])

/-- Spacing marks that belong to the character before them. -/
def clusterSpacing : CharSet :=
  adjusted (Category.spacingMark.members.diff graphemeExtend) "E33 EB3"
    "102B-102C 1038 1062-1064 1067-106D 1083 1087-108C 108F 109A-109C 1A61 1A63-1A64 AA7B AA7D
    11720-11721"

/-- Syllables of two letters: every 28th of all syllables. -/
def openSyllables : CharSet :=
  .ofPoints ((List.range 399).map fun i => 0xAC00 + 28 * i)

/-- **The characters of a class of clusters**, by its normalised name. -/
def clusterBreak? : String → Option CharSet
  | "cr" => some (.single '\r')
  | "lf" => some (.single '\n')
  | "control" | "cn" => some clusterControl
  | "extend" | "ex" => some (graphemeExtend.union (having "emod"))
  | "prepend" | "pp" => some prepended
  | "spacingmark" | "sm" => some clusterSpacing
  | "regionalindicator" | "ri" => some (having "ri")
  | "zwj" => some (.single '\u200d')
  | "l" => some (.ofHex "1100-115F A960-A97C")
  | "v" => some (.ofHex "1160-11A7 D7B0-D7C6 16D63 16D67-16D6A")
  | "t" => some (.ofHex "11A8-11FF D7CB-D7FB")
  | "lv" => some openSyllables
  | "lvt" => some ((CharSet.ofHex "AC00-D7A3").diff openSyllables)
  | _ => none

/-! ## Words -/

/-- Letters of Katakana, and what is written among them. -/
def wordKatakana : CharSet :=
  (writtenIn ["katakana"]).union (.ofHex "3031-3035 309B-309C 30A0 30FC FF70")

/-- Letters of Hebrew. -/
def hebrewLetters : CharSet := (writtenIn ["hebrew"]).inter Category.otherLetter.members

/-- The scripts that write words without blanks between them. -/
def unspacedScripts : List String :=
  ["ahom", "khmer", "lao", "myanmar", "newtailue", "taile", "taitham", "taiviet", "thai"]

/-- Letters of the scripts whose words are told apart by their letters. -/
def wordLetters : CharSet :=
  let letters := alphabetic.union (.ofHex "2C2-2C5 2D2-2D7 2DE-2DF 2E5-2EB 2ED 2EF-2FF 55A-55C 55E
    58A 5F3 70F A708-A716 A720-A721 A789-A78A AB5B")
  letters.diff (.unions [ideographs, wordKatakana, hebrewLetters, extending,
    writtenIn ("hiragana" :: unspacedScripts)])

/-- **The characters of a class of words**, by its normalised name. -/
def wordBreak? : String → Option CharSet
  | "cr" => some (.single '\r')
  | "lf" => some (.single '\n')
  | "newline" | "nl" => some (.ofHex "B-C 85 2028-2029")
  | "aletter" | "le" => some wordLetters
  | "doublequote" | "dq" => some (.single '"')
  | "singlequote" | "sq" => some (.single '\'')
  | "extend" => some (extending.union (having "emod"))
  | "extendnumlet" | "ex" =>
    some (Category.connectorPunctuation.members.union (.single '\u202f'))
  | "format" | "fo" =>
    some (Category.formatting.members.diff
      (.unions [.ofHex "200B-200D", spanningMarks, extending]))
  | "hebrewletter" | "hl" => some hebrewLetters
  | "katakana" | "ka" => some wordKatakana
  | "midletter" | "ml" => some (.ofHex "3A B7 387 55F 5F4 2027 FE13 FE55 FF1A")
  | "midnum" | "mn" =>
    some (.ofHex "2C 3B 37E 589 60C-60D 66C 7F8 2044 FE10 FE14 FE50 FE54 FF0C FF1B")
  | "midnumlet" | "mb" => some (.ofHex "2E 2018-2019 2024 FE52 FF07 FF0E")
  | "numeric" | "nu" => some (numeric.diff (.ofHex "66C"))
  | "regionalindicator" | "ri" => some (having "ri")
  | "wsegspace" => some (.ofHex "20 1680 2000-2006 2008-200A 205F 3000")
  | "zwj" => some (.single '\u200d')
  | _ => none

/-! ## Sentences -/

/-- Letters that no sentence starts with. -/
def sentenceLower : CharSet := (lowercase.diff extending).diff (.ofHex "10D0-10FA 10FD-10FF")

/-- Letters that a sentence starts with. -/
def sentenceUpper : CharSet :=
  (uppercase.union Category.titlecaseLetter.members).diff (.ofHex "1C90-1CBA 1CBD-1CBF")

/-- Dots that end a sentence if what follows allows it. -/
def sentenceDots : CharSet := .ofHex "2E 2024 FE52 FF0E"

/-- Marks that end a sentence. -/
def sentenceEnds : CharSet := (having "sterm").diff sentenceDots

/-- **The characters of a class of sentences**, by its normalised name. -/
def sentenceBreak? : String → Option CharSet
  | "cr" => some (.single '\r')
  | "lf" => some (.single '\n')
  | "sep" | "se" => some (.ofHex "85 2028-2029")
  | "sp" => some (whiteSpace.diff (.ofHex "A D 85 2028-2029"))
  | "extend" | "ex" => some (extending.union joinControl)
  | "format" | "fo" =>
    some (Category.formatting.members.diff (.unions [joinControl, spanningMarks, extending]))
  | "lower" | "lo" => some sentenceLower
  | "upper" | "up" => some sentenceUpper
  | "oletter" | "le" =>
    some ((alphabetic.union (.ofHex "5F3 70F")).diff
      (.unions [sentenceLower, sentenceUpper, extending]))
  | "numeric" | "nu" => some numeric
  | "aterm" | "at" => some sentenceDots
  | "sterm" | "st" => some sentenceEnds
  | "scontinue" | "sc" =>
    some (.ofHex "2C-2D 3A-3B 37E 55D 60C-60D 7F8 1802 1808 2013-2014 3001 FE10-FE11 FE13-FE14
      FE31-FE32 FE50-FE51 FE54-FE55 FE58 FE63 FF0C-FF0D FF1A-FF1B FF64")
  | "close" | "cl" =>
    let brackets := inCategories
      [.openPunctuation, .closePunctuation, .initialPunctuation, .finalPunctuation]
    let quotes := CharSet.ofHex "22 27 275B-2760 2E00-2E01 2E06-2E08 2E0B 1F676-1F678"
    some ((brackets.union quotes).diff (sentenceEnds.union sentenceDots))
  | _ => none

end Text

end Workbench
