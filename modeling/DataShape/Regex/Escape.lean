import DataShape.Numeric.Decimal
import DataShape.Regex.Basic
import DataShape.Regex.Flags
import DataShape.Text.Digit
import DataShape.Text.Property

/-!
# Escapes and single characters

The smallest pieces of notation: characters that stand for themselves, escapes, classes with a
letter of their own or named by a property, and checks.  A piece is read first and given its meaning
by the flags afterwards, since inside a bracketed class only some pieces may stand and mean
something else.

* `Regex.Piece` — a piece of notation.
* `Regex.escape?` — the piece that an escape is.
* `Regex.Piece.toRegex?` — the meaning of a piece outside brackets.
* `Regex.Piece.toCharSet?` — its meaning inside brackets.
-/

namespace DataShape

namespace Regex

/-! ## Pieces of notation -/

/-- The classes with a letter of their own. -/
inductive LetterClass where
  | digit
  | space
  | word
deriving DecidableEq

/-- A check, as it is written. -/
inductive CheckSign where
  | caret
  | dollar
  | textStart
  | textEnd
  | wordBoundary
  | notWordBoundary
  | wordStart
  | wordEnd
  | wordStartHalf
  | wordEndHalf
deriving DecidableEq

/-- A piece of notation. -/
inductive Piece where
  /-- A character; `isByte` if it is written by two hexadecimal digits, which outside Unicode stand
  for a byte. -/
  | char (c : Char) (isByte : Bool)
  | dot
  | check (sign : CheckSign)
  | letterClass (name : LetterClass) (negated : Bool)
  /-- The characters with a property. -/
  | property (ranges : Ranges) (negated : Bool)
deriving DecidableEq

/-! ## Characters by their code -/

/-- The value of a hexadecimal digit. -/
def hexValue? (c : Char) : Option Nat :=
  if c.isDigit then some (c.toNat - '0'.toNat)
  else if 'a' ≤ c ∧ c ≤ 'f' then some (c.toNat - 'a'.toNat + 10)
  else if 'A' ≤ c ∧ c ≤ 'F' then some (c.toNat - 'A'.toNat + 10)
  else none

/-- The character with a code point, if it is one. -/
def charOf? (code : Nat) : Option Char :=
  if code.isValidChar then some (Char.ofNat code) else none

/-- A character by a fixed number of hexadecimal digits. -/
def fixedHex? (flags : Flags) : Nat → Nat → List Char → Option (Char × List Char)
  | 0, value, cs => (charOf? value).map fun c => (c, cs)
  | _ + 1, _, [] => none
  | count + 1, value, c :: rest => do
    let digit ← hexValue? c
    fixedHex? flags count (16 * value + digit) (skip flags rest)

/-- A character by hexadecimal digits up to a closing brace; `steps` bounds their number. -/
def bracedHex? (flags : Flags) : Nat → List Char → List Char → Option (Char × List Char)
  | 0, _, _ => none
  | steps + 1, digits, cs =>
    match skip flags cs with
    | [] => none
    | c :: rest =>
      if c = '}' then do
        if digits.isEmpty then none
        let value ← digits.reverse.foldlM (fun value d => (hexValue? d).map (16 * value + ·)) 0
        let c ← charOf? value
        some (c, skip flags rest)
      else if (hexValue? c).isSome then bracedHex? flags steps (c :: digits) rest
      else none

/-- A character by its code, behind the letter that says how many digits there are. -/
def hexEscape? (flags : Flags) (count : Nat) (cs : List Char) : Option (Piece × List Char) :=
  match skip flags cs with
  | '{' :: rest => (bracedHex? flags (rest.length + 1) [] rest).map fun (c, rest) =>
    (.char c false, rest)
  | cs => (fixedHex? flags count 0 cs).map fun (c, rest) => (.char c (count == 2), rest)

/-! ## Word boundaries with a name -/

/-- Whether a character may be part of the name of a word boundary. -/
def isBoundaryNameChar (c : Char) : Bool :=
  ('a' ≤ c && c ≤ 'z') || ('A' ≤ c && c ≤ 'Z') || c == '-'

/-- The name up to a closing brace, and the text behind it; `steps` bounds its length. -/
def boundaryName? (flags : Flags) : Nat → List Char → Option (List Char × List Char)
  | 0, _ => none
  | _ + 1, [] => none
  | steps + 1, c :: rest =>
    if c = '}' then some ([], rest)
    else if isBoundaryNameChar c then
      (boundaryName? flags steps (skip flags rest)).map fun (name, rest) => (c :: name, rest)
    else none

/-- The word boundary with a name. -/
def namedBoundary? (name : String) : Option CheckSign :=
  match name with
  | "start" => some .wordStart
  | "end" => some .wordEnd
  | "start-half" => some .wordStartHalf
  | "end-half" => some .wordEndHalf
  | _ => none

/-- What follows the sign of a word boundary.  A brace begins a name unless the next character
cannot be part of one; then it begins a repetition, which is read elsewhere. -/
def wordBoundary? (flags : Flags) (cs : List Char) : Option (CheckSign × List Char) :=
  match cs with
  | '{' :: rest =>
    match skip flags rest with
    | [] => none
    | c :: more =>
      if isBoundaryNameChar c then do
        let (name, rest) ← boundaryName? flags (rest.length + 1) (c :: more)
        let sign ← namedBoundary? (String.ofList name)
        some (sign, rest)
      else some (.wordBoundary, cs)
  | _ => some (.wordBoundary, cs)

/-! ## Properties -/

/-- The characters up to a closing brace, and the text behind it; `steps` bounds their number. -/
def bracedName? (flags : Flags) : Nat → List Char → Option (List Char × List Char)
  | 0, _ => none
  | steps + 1, cs =>
    match skip flags cs with
    | [] => none
    | c :: rest =>
      if c = '}' then some ([], rest)
      else (bracedName? flags steps rest).map fun (name, rest) => (c :: name, rest)

/-- Parts a text at the first place where a mark stands. -/
def partAt? (mark : List Char) : List Char → Option (List Char × List Char)
  | [] => none
  | c :: rest =>
    if mark.isPrefixOf (c :: rest) then some ([], (c :: rest).drop mark.length)
    else (partAt? mark rest).map fun (front, back) => (c :: front, back)

/-- The characters that the text between braces stands for, and whether those without the property
are meant: a property and a value, which are parted by an equals sign, a colon or a sign for being
unequal, or a name alone. -/
def propertyRanges? (text : List Char) : Option (Ranges × Bool) :=
  match partAt? ['!', '='] text with
  | some (property, value) => (Text.Property.ofValue? property value).map (·, true)
  | none =>
    let ranges := match [[':'], ['=']].findSome? (partAt? · text) with
      | some (property, value) => Text.Property.ofValue? property value
      | none => Text.Property.ofName? text
    ranges.map (·, false)

/-- A property behind its letter: a name in braces, or of a single character. -/
def property? (flags : Flags) (negated : Bool) (cs : List Char) : Option (Piece × List Char) :=
  match skip flags cs with
  | [] => none
  | '{' :: rest => do
    let (name, rest) ← bracedName? flags (rest.length + 1) rest
    let (ranges, unequal) ← propertyRanges? name
    some (.property ranges (negated != unequal), rest)
  | c :: rest => (Text.Property.ofName? [c]).map fun ranges => (.property ranges negated, rest)

/-! ## Escapes -/

/-- Whether an escaped character stands for itself: any character of ASCII that is neither a letter
nor a digit nor an angle bracket. -/
def isPlainWhenEscaped (c : Char) : Bool :=
  decide (c.toNat < 0x80) && !c.isAlphanum && c != '<' && c != '>'

/-- The character that a letter stands for when escaped. -/
def controlEscape? (c : Char) : Option Char :=
  match c with
  | 'a' => some '\x07'
  | 'f' => some '\x0c'
  | 't' => some '\t'
  | 'n' => some '\n'
  | 'r' => some '\r'
  | 'v' => some '\x0b'
  | _ => none

/-- The class that a letter stands for when escaped; a capital stands for its complement. -/
def letterClass? (c : Char) : Option (LetterClass × Bool) :=
  match c with
  | 'd' => some (.digit, false)
  | 'D' => some (.digit, true)
  | 's' => some (.space, false)
  | 'S' => some (.space, true)
  | 'w' => some (.word, false)
  | 'W' => some (.word, true)
  | _ => none

/-- The check that a letter or an angle bracket stands for when escaped. -/
def checkEscape? (c : Char) : Option CheckSign :=
  match c with
  | 'A' => some .textStart
  | 'z' => some .textEnd
  | 'B' => some .notWordBoundary
  | '<' => some .wordStart
  | '>' => some .wordEnd
  | _ => none

/-- How many hexadecimal digits follow a letter when escaped. -/
def hexCount? (c : Char) : Option Nat :=
  match c with
  | 'x' => some 2
  | 'u' => some 4
  | 'U' => some 8
  | _ => none

/-- The piece behind a backslash.  Digits would refer back to a group, which is not supported. -/
def escape? (flags : Flags) : List Char → Option (Piece × List Char)
  | [] => none
  | c :: rest =>
    if let some count := hexCount? c then hexEscape? flags count rest
    else if c = 'p' ∨ c = 'P' then property? flags (c == 'P') rest
    else if let some (name, negated) := letterClass? c then some (.letterClass name negated, rest)
    else if isPlainWhenEscaped c then some (.char c false, rest)
    else if let some shown := controlEscape? c then some (.char shown false, rest)
    else if let some sign := checkEscape? c then some (.check sign, rest)
    else if c = 'b' then (wordBoundary? flags rest).map fun (sign, rest) => (.check sign, rest)
    else none

/-! ## Meaning -/

/-- The tables of the classes with a letter of their own. -/
def LetterClass.ranges (unicode : Bool) : LetterClass → Ranges
  | .digit => if unicode then Text.digits else [(0x30, 0x39)]
  | .space => if unicode then Text.blanks else [(0x09, 0x0D), (0x20, 0x20)]
  | .word => if unicode then Text.wordCharacters else asciiWord

/-- The set of a class with a letter.  Outside Unicode the complement would have bytes that are no
characters, so there is none. -/
def LetterClass.toCharSet? (flags : Flags) (name : LetterClass) (negated : Bool) :
    Option CharSet :=
  let set := CharSet.table (name.ranges flags.unicode)
  if negated then if flags.unicode then some (.compl set) else none
  else some set

/-- A set with the variants in case that the flags ask for. -/
def foldCase (flags : Flags) (set : CharSet) : CharSet :=
  if flags.caseless then if flags.unicode then .folded set else .asciiFolded set else set

/-- The set of the characters with a property: with variants in case, then perhaps its complement.
There are properties in Unicode only. -/
def propertySet? (flags : Flags) (ranges : Ranges) (negated : Bool) : Option CharSet :=
  let set := foldCase flags (.table ranges)
  if flags.unicode then some (if negated then .compl set else set) else none

/-- The check that a sign stands for.  Which characters words have matters to checks of words only;
the others are the same check in either case. -/
def CheckSign.toCheck (flags : Flags) (sign : CheckSign) : Check :=
  let kind : Check.Kind := match sign with
    | .caret =>
      if !flags.multiline then .textStart
      else if flags.carriageReturn then .lineStartBoth else .lineStart
    | .dollar =>
      if !flags.multiline then .textEnd
      else if flags.carriageReturn then .lineEndBoth else .lineEnd
    | .textStart => .textStart
    | .textEnd => .textEnd
    | .wordBoundary => .wordBoundary
    | .notWordBoundary => .notWordBoundary
    | .wordStart => .wordStart
    | .wordEnd => .wordEnd
    | .wordStartHalf => .wordStartHalf
    | .wordEndHalf => .wordEndHalf
  ⟨kind, flags.unicode || !kind.isOfWords⟩

/-- Whether a character is written as a byte that is no character. -/
def isLoneByte (flags : Flags) (c : Char) (isByte : Bool) : Bool :=
  !flags.unicode && isByte && decide (0x80 ≤ c.toNat)

/-- One character of a set that is written under some flags. -/
def Step.under (flags : Flags) (set : CharSet) : Step := ⟨set, !flags.unicode⟩

/-- The characters that a point matches. -/
def dotSet (flags : Flags) : CharSet :=
  if flags.dotAll then .range 0 0x10FFFF
  else if flags.carriageReturn then .compl (.union (.single '\r') (.single '\n'))
  else .compl (.single '\n')

namespace Piece

/-- **The meaning of a piece outside brackets.** -/
def toRegex? (flags : Flags) : Piece → Option Regex
  | .char c isByte =>
    if isLoneByte flags c isByte then none
    else some (.step (Step.under flags (foldCase flags (.single c))))
  | .dot => if flags.unicode then some (.step (Step.under flags (dotSet flags))) else none
  | .check sign => some (.check (sign.toCheck flags))
  | .letterClass name negated =>
    (name.toCharSet? flags negated).map fun set => .step (Step.under flags set)
  | .property ranges negated =>
    (propertySet? flags ranges negated).map fun set => .step (Step.under flags set)

/-- The character that a piece stands for as an item or an end of a range inside brackets.  Outside
Unicode it must be one of ASCII. -/
def bracketChar? (flags : Flags) : Piece → Option Char
  | .char c _ => if flags.unicode || decide (c.toNat < 0x80) then some c else none
  | _ => none

/-- The meaning of a piece as an item inside brackets; checks have none. -/
def toCharSet? (flags : Flags) : Piece → Option CharSet
  | .letterClass name negated => name.toCharSet? flags negated
  | .property ranges negated => propertySet? flags ranges negated
  | piece => (piece.bracketChar? flags).map .single

end Piece

end Regex

end DataShape
