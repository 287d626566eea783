import DataShape.Text.Property.Binary
import DataShape.Text.Property.Script

/-!
# Where texts are parted

A text is parted into what readers take for single characters, into words and into sentences.  For
each of the three, characters are sorted into classes by what they do to the places beside them.
Most classes follow from other properties and are derived from them here; the rest are lists, as
Unicode 16 gives them.  Code points in no class have no name for what they have in common.

* `GraphemeBreak.ranges?` — the classes for single characters.
* `WordBreak.ranges?` — the classes for words.
* `SentenceBreak.ranges?` — the classes for sentences.
-/

namespace DataShape

namespace Text

open GeneralCategory Property

/-! ## Parts of several classes -/

namespace Segmentation

/-- The code points that belong to a script, by its name in loose form. -/
def scriptRanges (name : String) : Ranges := ((Script.named? name).map Script.ranges).getD []

/-- Marks that precede the digits that they span: all that precede what they span, but for one that
precedes letters. -/
def numberSigns : Ranges := prependedConcatenationMark.diff [(0x70F, 0x70F)]

/-- Marks of all kinds that belong to the character before them. -/
def marks : Ranges := graphemeExtend.union (ranges .spacingMark)

/-- Formats, but for the ones that join what is around them and the signs of numbers. -/
def formats : Ranges := (ranges .format).diff (.unions [joinControl, numberSigns, marks])

end Segmentation

open Segmentation

/-! ## Single characters -/

namespace GraphemeBreak

/-- What extends the character before it. -/
def extend : Ranges := graphemeExtend.union emojiModifier

/-- What the character behind it is joined to: marks, and consonants that are written first. -/
def prepend : Ranges :=
  prependedConcatenationMark.union
    (.ofText "D4E 111C2-111C3 113D1 1193F 11941 11A3A 11A84-11A89 11D46 11F02")

/-- What is parted from all around it, but for the end of a line. -/
def control : Ranges :=
  (Ranges.unions [ranges .lineSeparator, ranges .paragraphSeparator, ranges .control,
    ranges .format, (ranges .unassigned).inter defaultIgnorable]).diff
    (.unions [[(0x0A, 0x0A), (0x0D, 0x0D)], joinControl, prependedConcatenationMark, extend])

/-- Marks that take room of their own and are joined to the character before them. -/
def spacingMark : Ranges :=
  ((ranges .spacingMark).union (.ofText "E33 EB3")).diff (extend.union (.ofText "
    102B-102C 1038 1062-1064 1067-106D 1083 1087-108C 108F 109A-109C 1A61 1A63-1A64 AA7B AA7D
    11720-11721"))

/-- The syllables of Hangul that have no last consonant: the first one of each row. -/
def openSyllables : Ranges := .ofCodes ((List.range 399).map (0xAC00 + 28 * ·))

/-- **The characters of the class with a name in loose form.** -/
def ranges? (name : String) : Option Ranges :=
  match name with
  | "cr" => some [(0x0D, 0x0D)]
  | "lf" => some [(0x0A, 0x0A)]
  | "cn" | "control" => some control
  | "ex" | "extend" => some extend
  | "pp" | "prepend" => some prepend
  | "sm" | "spacingmark" => some spacingMark
  | "ri" | "regionalindicator" => some regionalIndicator
  | "zwj" => some [(0x200D, 0x200D)]
  | "l" => some (.ofText "1100-115F A960-A97C")
  | "v" => some (.ofText "1160-11A7 D7B0-D7C6 16D63 16D67-16D6A")
  | "t" => some (.ofText "11A8-11FF D7CB-D7FB")
  | "lv" => some openSyllables
  | "lvt" => some (Ranges.diff [(0xAC00, 0xD7A3)] openSyllables)
  | _ => none

end GraphemeBreak

/-! ## Words -/

namespace WordBreak

/-- What extends the character before it. -/
def extend : Ranges := marks.union emojiModifier

/-- Letters of scripts that are written without blanks between words. -/
def unspacedLetter : Ranges := .ofText "
  E01-E30 E32-E33 E40-E46 E81-E82 E84 E86-E8A E8C-EA3 EA5 EA7-EB0 EB2-EB3 EBD EC0-EC4 EC6 EDC-EDF
  1000-102A 103F 1050-1055 105A-105D 1061 1065-1066 106E-1070 1075-1081 108E 1780-17B3 17D7 17DC
  1950-196D 1970-1974 1980-19AB 19B0-19C9 1A20-1A54 1AA7 A9E0-A9E4 A9E6-A9EF A9FA-A9FE AA60-AA76
  AA7A AA7E-AAAF AAB1 AAB5-AAB6 AAB9-AABD AAC0 AAC2 AADB-AADD 11700-1171A 11740-11746"

/-- The letters of Hebrew. -/
def hebrewLetter : Ranges := (scriptRanges "hebrew").inter (ranges .otherLetter)

/-- What is joined to the syllables of Katakana. -/
def katakana : Ranges :=
  (scriptRanges "katakana").union (.ofText "3031-3035 309B-309C 30A0 30FC FF70")

/-- Letters of scripts that part words by blanks, and symbols that are used like them. -/
def letter : Ranges :=
  (alphabetic.diff (.unions [ideographic, katakana, unspacedLetter, scriptRanges "hiragana", extend,
    hebrewLetter])).union (.ofText "
    B8 2C2-2C5 2D2-2D7 2DE-2DF 2E5-2EB 2ED 2EF-2FF 55A-55C 55E 58A 5F3 70F A708-A716 A720-A721
    A789-A78A AB5B")

/-- Digits, what is used like them, and the signs of numbers. -/
def numeric : Ranges := .unions [ranges .decimalNumber, .ofText "66B 19DA", numberSigns]

/-- **The characters of the class with a name in loose form.** -/
def ranges? (name : String) : Option Ranges :=
  match name with
  | "cr" => some [(0x0D, 0x0D)]
  | "lf" => some [(0x0A, 0x0A)]
  | "nl" | "newline" => some (.ofText "B-C 85 2028-2029")
  | "extend" => some extend
  | "zwj" => some [(0x200D, 0x200D)]
  | "fo" | "format" => some (formats.diff (.ofText "70F 200B"))
  | "ri" | "regionalindicator" => some regionalIndicator
  | "ka" | "katakana" => some katakana
  | "hl" | "hebrewletter" => some hebrewLetter
  | "le" | "aletter" => some letter
  | "sq" | "singlequote" => some [(0x27, 0x27)]
  | "dq" | "doublequote" => some [(0x22, 0x22)]
  | "mb" | "midnumlet" => some (.ofText "2E 2018-2019 2024 FE52 FF07 FF0E")
  | "ml" | "midletter" => some (.ofText "3A B7 387 55F 5F4 2027 FE13 FE55 FF1A")
  | "mn" | "midnum" => some (.ofText "2C 3B 37E 589 60C-60D 66C 7F8 2044 FE50 FE54 FF0C FF1B")
  | "nu" | "numeric" => some numeric
  | "ex" | "extendnumlet" => some ((ranges .connectorPunctuation).union [(0x202F, 0x202F)])
  | "wsegspace" => some (.ofText "20 1680 2000-2006 2008-200A 205F 3000")
  | _ => none

end WordBreak

/-! ## Sentences -/

namespace SentenceBreak

/-- What extends the character before it. -/
def extend : Ranges := marks.union [(0x200D, 0x200D)]

/-- Small letters, but for those of a script that has no capitals of its own at the start of
sentences. -/
def lower : Ranges := (lowercase.diff graphemeExtend).diff (.ofText "10D0-10FA 10FD-10FF")

/-- Capitals, but for those of that script. -/
def upper : Ranges :=
  (uppercase.union (ranges .titlecaseLetter)).diff (.ofText "1C90-1CBA 1CBD-1CBF")

/-- Letters that are neither small letters nor capitals. -/
def otherLetter : Ranges :=
  (alphabetic.union [(0x5F3, 0x5F3)]).diff (.unions [lower, upper, extend])

/-- Digits, what is used like them, and the signs of numbers. -/
def numeric : Ranges := .unions [ranges .decimalNumber, .ofText "66B-66C 19DA", numberSigns]

/-- Full stops, which may end an abbreviation instead of a sentence. -/
def fullStop : Ranges := .ofText "2E 2024 FE52 FF0E"

/-- What may close a sentence behind its end: brackets and quotation marks. -/
def close : Ranges :=
  (rangesOf [.openPunctuation, .closePunctuation, .initialPunctuation, .finalPunctuation]).union
    (.ofText "22 27 275B-2760 2E00-2E01 2E06-2E08 2E0B 1F676-1F678")

/-- What goes on with a sentence. -/
def continues : Ranges := .ofText "
  2C-2D 3A-3B 37E 55D 60C-60D 7F8 1802 1808 2013-2014 3001 FE10-FE11 FE13-FE14 FE31-FE32 FE50-FE51
  FE54-FE55 FE58 FE63 FF0C-FF0D FF1A-FF1B FF64"

/-- **The characters of the class with a name in loose form.** -/
def ranges? (name : String) : Option Ranges :=
  match name with
  | "cr" => some [(0x0D, 0x0D)]
  | "lf" => some [(0x0A, 0x0A)]
  | "se" | "sep" => some (.ofText "85 2028-2029")
  | "ex" | "extend" => some extend
  | "fo" | "format" => some formats
  | "sp" => some (blanks.diff (.ofText "A D 85 2028-2029"))
  | "lo" | "lower" => some lower
  | "up" | "upper" => some upper
  | "le" | "oletter" => some otherLetter
  | "nu" | "numeric" => some numeric
  | "at" | "aterm" => some fullStop
  | "st" | "sterm" => some (sentenceTerminal.diff fullStop)
  | "cl" | "close" => some close
  | "sc" | "scontinue" => some continues
  | _ => none

end SentenceBreak

end Text

end DataShape
