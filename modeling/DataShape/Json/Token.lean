import DataShape.Json.Basic

/-!
# The tokens of JSON text

JSON text is read as a list of tokens.  Where the text breaks the rules of tokens the list ends
with `Token.invalid`: what stands before the fault can still be read, and whoever reads on meets
the fault.  Two rules are not settled here because not every reader asks for them: whether the
escapes of a text spell characters, and whether a number is in range.

* `Token` — a token.
* `Token.scan` — the tokens of a text.
* `NumberText.toNumber?` — the number that a number token denotes.
-/

namespace DataShape

namespace Json

/-! ## Numbers -/

/-- A number as it is written. -/
structure NumberText where
  /-- Whether a minus sign comes first. -/
  negative : Bool
  /-- The digits before the point. -/
  whole : List Char
  /-- The digits behind the point, if there is one. -/
  fraction : Option (List Char)
  /-- The exponent, if there is one. -/
  exponent : Option Int
deriving DecidableEq

namespace NumberText

/-- Whether there is neither a point nor an exponent. -/
def isWhole (t : NumberText) : Bool := t.fraction.isNone && t.exponent.isNone

/-- Appends digits to a number as long as it stays below `2 ^ 64`: the number, and how many digits
it took. -/
def appendDigits (n : Nat) : List Char → Nat × Nat
  | [] => (n, 0)
  | digit :: rest =>
    let longer := Decimal.valueOf [digit] + 10 * n
    if longer < Nat.pow 2 64 then
      let (n, count) := appendDigits longer rest
      (n, count + 1)
    else (n, 0)

/-- **The decimal that is rounded.**  Of the digits only those count that make a number below
`2 ^ 64`: further ones before the point are taken for zeros, and further ones behind it dropped. -/
def magnitude (t : NumberText) : Decimal :=
  let (front, frontCount) := appendDigits 0 t.whole
  let (digits, behindCount) := appendDigits front (t.fraction.getD [])
  ⟨digits, ((t.whole.length - frontCount : Nat) : Int) - behindCount + t.exponent.getD 0⟩

/-- **The number that is denoted.**  A whole number that fits 64 bits is kept, but for a negative
zero; all else is rounded, and a magnitude beyond the largest finite number is none. -/
def toNumber? (t : NumberText) : Option Number :=
  let n : Int := Decimal.valueOf t.whole
  let rounded := (Binary64.ofDecimal? t.negative t.magnitude).bind Number.ofBinary64?
  if !t.isWhole || (t.negative && n == 0) then rounded
  else (Number.ofInt? (if t.negative then -n else n)).or rounded

end NumberText

/-- Splits off the digits at the front. -/
def spanDigits (cs : List Char) : List Char × List Char :=
  (cs.takeWhile Char.isDigit, cs.dropWhile Char.isDigit)

/-- Splits off at least one digit. -/
def someDigits? (cs : List Char) : Option (List Char × List Char) :=
  let (digits, rest) := spanDigits cs
  if digits.isEmpty then none else some (digits, rest)

/-- The digits before the point: a single zero, or digits of which the first is not zero. -/
def wholeDigits? (cs : List Char) : Option (List Char × List Char) := do
  let (digits, rest) ← someDigits? cs
  if digits.head? == some '0' && digits.length != 1 then none else some (digits, rest)

/-- The digits behind a point, if there is one. -/
def fractionDigits? : List Char → Option (Option (List Char) × List Char)
  | '.' :: rest => do
    let (digits, rest) ← someDigits? rest
    some (some digits, rest)
  | rest => some (none, rest)

/-- The exponent, if there is one. -/
def exponent? (cs : List Char) : Option (Option Int × List Char) :=
  match cs with
  | c :: rest =>
    if c = 'e' ∨ c = 'E' then do
      let (negative, rest) := match rest with
        | '-' :: r => (true, r)
        | '+' :: r => (false, r)
        | r => (false, r)
      let (digits, rest) ← someDigits? rest
      let value : Int := Decimal.valueOf digits
      some (some (if negative then -value else value), rest)
    else some (none, cs)
  | [] => some (none, [])

/-- A number at the front of the text. -/
def numberText? (cs : List Char) : Option (NumberText × List Char) := do
  let (negative, cs) := match cs with
    | '-' :: rest => (true, rest)
    | _ => (false, cs)
  let (whole, cs) ← wholeDigits? cs
  let (fraction, cs) ← fractionDigits? cs
  let (exponent, cs) ← exponent? cs
  some (⟨negative, whole, fraction, exponent⟩, cs)

/-! ## Texts -/

/-- A piece of a quoted text: a character, or the code unit of an escape. -/
inductive TextPiece where
  | char (c : Char)
  | unit (code : Nat)
deriving DecidableEq

/-- The characters that pieces spell: a code unit is a character unless it is half of a pair, and
a pair needs both its halves. -/
def spell? : List TextPiece → Option (List Char)
  | [] => some []
  | .char c :: rest => (spell? rest).map (c :: ·)
  | .unit high :: rest =>
    if 0xDC00 ≤ high ∧ high ≤ 0xDFFF then none
    else if 0xD800 ≤ high ∧ high ≤ 0xDBFF then
      match rest with
      | .unit low :: rest =>
        if 0xDC00 ≤ low ∧ low ≤ 0xDFFF then
          let c := Char.ofNat (0x10000 + (high - 0xD800) * 0x400 + (low - 0xDC00))
          (spell? rest).map (c :: ·)
        else none
      | _ => none
    else (spell? rest).map (Char.ofNat high :: ·)

/-- The value of a hexadecimal digit. -/
def hexDigit? (c : Char) : Option Nat :=
  if c.isDigit then some (c.toNat - '0'.toNat)
  else if 'a' ≤ c ∧ c ≤ 'f' then some (c.toNat - 'a'.toNat + 10)
  else if 'A' ≤ c ∧ c ≤ 'F' then some (c.toNat - 'A'.toNat + 10)
  else none

/-- The character that a one-letter escape stands for. -/
def shortEscape? (c : Char) : Option Char :=
  match c with
  | '"' => some '"'
  | '\\' => some '\\'
  | '/' => some '/'
  | 'b' => some '\x08'
  | 'f' => some '\x0c'
  | 'n' => some '\n'
  | 'r' => some '\r'
  | 't' => some '\t'
  | _ => none

/-- The pieces up to the closing quote.  Control characters must be escaped. -/
def textPieces? : List Char → Option (List TextPiece × List Char)
  | [] => none
  | '"' :: rest => some ([], rest)
  | '\\' :: 'u' :: a :: b :: c :: d :: rest => do
    let code := ((← hexDigit? a) * 16 + (← hexDigit? b)) * 256
      + ((← hexDigit? c) * 16 + (← hexDigit? d))
    let (pieces, rest) ← textPieces? rest
    some (.unit code :: pieces, rest)
  | '\\' :: c :: rest => do
    let shown ← shortEscape? c
    let (pieces, rest) ← textPieces? rest
    some (.char shown :: pieces, rest)
  | c :: rest =>
    if c = '\\' ∨ c.toNat < 0x20 then none
    else do
      let (pieces, rest) ← textPieces? rest
      some (.char c :: pieces, rest)

/-! ## Tokens -/

/-- A token of JSON text. -/
inductive Token where
  | openArray
  | closeArray
  | openObject
  | closeObject
  | comma
  | colon
  | null
  | boolean (b : Bool)
  | number (t : NumberText)
  | text (pieces : List TextPiece)
  /-- Here the text breaks the rules of tokens. -/
  | invalid
deriving DecidableEq

namespace Token

/-- The content of a text token, if its escapes spell characters. -/
def spelled? (pieces : List TextPiece) : Option String := (spell? pieces).map String.ofList

/-- The token that starts with a character, and the text behind it. -/
def first? (c : Char) (rest : List Char) : Option (Token × List Char) :=
  match c with
  | '[' => some (.openArray, rest)
  | ']' => some (.closeArray, rest)
  | '{' => some (.openObject, rest)
  | '}' => some (.closeObject, rest)
  | ',' => some (.comma, rest)
  | ':' => some (.colon, rest)
  | '"' => (textPieces? rest).map fun (pieces, rest) => (.text pieces, rest)
  | 'n' => match rest with
    | 'u' :: 'l' :: 'l' :: rest => some (.null, rest)
    | _ => none
  | 't' => match rest with
    | 'r' :: 'u' :: 'e' :: rest => some (.boolean true, rest)
    | _ => none
  | 'f' => match rest with
    | 'a' :: 'l' :: 's' :: 'e' :: rest => some (.boolean false, rest)
    | _ => none
  | c => (numberText? (c :: rest)).map fun (written, rest) => (.number written, rest)

/-- Whether a character separates tokens without being one. -/
def isSpace (c : Char) : Bool := c == ' ' || c == '\n' || c == '\t' || c == '\r'

/-- The tokens of a text.  Every step takes a character, so as many steps as there are characters
are enough. -/
def scanSteps : Nat → List Char → List Token
  | 0, _ => []
  | _ + 1, [] => []
  | steps + 1, c :: rest =>
    if isSpace c then scanSteps steps rest
    else match first? c rest with
      | some (token, rest) => token :: scanSteps steps rest
      | none => [.invalid]

/-- The tokens of a text. -/
def scan (s : String) : List Token := scanSteps s.length s.toList

end Token

end Json

end DataShape
