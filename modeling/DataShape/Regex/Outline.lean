import DataShape.Regex.Basic
import DataShape.Text.Utf8

/-!
# Outlines of regular expressions

Before an automaton is laid out for an expression, the expression is brought into a simpler form.
Neighbouring characters become one literal, a repetition of what only matches the empty text is
done at most once, alternatives of single characters become one set, and a beginning that all
alternatives share is taken out of them.  Groups that do not capture disappear, so that sequences
and alternatives are flat.

* `Regex.Outline` — the form.
* `Regex.Outline.concat`, `Regex.Outline.repeat`, `Regex.Outline.alternation` — its constructions.
* `Regex.outline` — the outline of an expression.
-/

namespace DataShape

namespace Regex

/-- An expression in simple form.  There are at least two parts in a sequence, of which none is
empty or a sequence and no two neighbours are literals; and at least two alternatives, of which
none has alternatives itself. -/
inductive Outline where
  /-- The empty text. -/
  | empty
  /-- Bytes one after the other. -/
  | literal (bytes : List Nat)
  /-- One character of a set, which may be one of bytes.  That without members is one of bytes. -/
  | set (ofBytes : Bool) (ranges : Ranges)
  /-- A condition on the position. -/
  | check (c : Check)
  /-- A group that captures what it matches. -/
  | capture (a : Outline)
  /-- At least `least` times and, if there is a `most`, at most that often; as seldom as possible if
  `lazy`, or else as often. -/
  | times (a : Outline) (least : Nat) (most : Option Nat) (lazy : Bool)
  /-- One after the other. -/
  | seq (parts : List Outline)
  /-- One of several. -/
  | alt (options : List Outline)

namespace Outline

/-! ## What an outline matches -/

mutual

/-- Whether nothing but the empty text can be matched. -/
def onlyEmpty : Outline → Bool
  | .empty => true
  | .literal _ => false
  | .set _ _ => false
  | .check _ => true
  | .capture a => onlyEmpty a
  | .times a _ most _ => most.isSome && onlyEmpty a
  | .seq parts => allOnlyEmpty parts
  | .alt options => allOnlyEmpty options

/-- Whether none of a list of outlines can match anything but the empty text. -/
def allOnlyEmpty : List Outline → Bool
  | [] => true
  | a :: rest => onlyEmpty a && allOnlyEmpty rest

end

mutual

/-- Whether a set without members is part of the outline. -/
def hasEmptySet : Outline → Bool
  | .empty => false
  | .literal _ => false
  | .set _ ranges => ranges.isEmpty
  | .check _ => false
  | .capture a => hasEmptySet a
  | .times a _ _ _ => hasEmptySet a
  | .seq parts => anyHasEmptySet parts
  | .alt options => anyHasEmptySet options

/-- Whether a set without members is part of one of a list of outlines. -/
def anyHasEmptySet : List Outline → Bool
  | [] => false
  | a :: rest => hasEmptySet a || anyHasEmptySet rest

end

mutual

/-- Whether the empty text cannot be matched, sets without members aside. -/
def needsCharacter : Outline → Bool
  | .empty => false
  | .literal _ => true
  | .set _ _ => true
  | .check _ => false
  | .capture a => needsCharacter a
  | .times a least _ _ => decide (0 < least) && needsCharacter a
  | .seq parts => anyNeedsCharacter parts
  | .alt options => allNeedCharacter options

/-- Whether one of a list of outlines cannot match the empty text. -/
def anyNeedsCharacter : List Outline → Bool
  | [] => false
  | a :: rest => needsCharacter a || anyNeedsCharacter rest

/-- Whether none of a list of outlines can match the empty text. -/
def allNeedCharacter : List Outline → Bool
  | [] => true
  | a :: rest => needsCharacter a && allNeedCharacter rest

end

mutual

/-- Whether every match begins with a check of the given kind, or ends with it if `atEnd`. -/
def isAnchored (kind : Check.Kind) (atEnd : Bool) : Outline → Bool
  | .empty => false
  | .literal _ => false
  | .set _ _ => false
  | .check c => c.kind == kind
  | .capture a => isAnchored kind atEnd a
  | .times a least _ _ => decide (0 < least) && isAnchored kind atEnd a
  | .seq parts => seqAnchored kind atEnd parts
  | .alt options => allAnchored kind atEnd options

/-- Whether every match of a sequence begins or ends with a check of the given kind. -/
def seqAnchored (kind : Check.Kind) (atEnd : Bool) : List Outline → Bool
  | [] => false
  | a :: rest =>
    if atEnd then
      seqAnchored kind atEnd rest || (allOnlyEmpty rest && isAnchored kind atEnd a)
    else isAnchored kind atEnd a || (onlyEmpty a && seqAnchored kind atEnd rest)

/-- Whether every match of each of a list of outlines begins or ends with a check of the given
kind. -/
def allAnchored (kind : Check.Kind) (atEnd : Bool) : List Outline → Bool
  | [] => true
  | a :: rest => isAnchored kind atEnd a && allAnchored kind atEnd rest

end

/-! ## Equality -/

mutual

/-- Whether two outlines are the same.  A group that captures is the same as no other. -/
def same : Outline → Outline → Bool
  | .empty, .empty => true
  | .literal a, .literal b => a == b
  | .set ofBytes a, .set ofBytes' b => ofBytes == ofBytes' && a == b
  | .check a, .check b => a == b
  | .times a least most lazy, .times b least' most' lazy' =>
    same a b && least == least' && most == most' && lazy == lazy'
  | .seq as, .seq bs => allSame as bs
  | .alt as, .alt bs => allSame as bs
  | _, _ => false

/-- Whether two lists of outlines are the same. -/
def allSame : List Outline → List Outline → Bool
  | [], [] => true
  | a :: as, b :: bs => same a b && allSame as bs
  | _, _ => false

end

/-! ## Sets and sequences -/

/-- One character of a set; a set with one member is a literal. -/
def ofRanges (ofBytes : Bool) : Ranges → Outline
  | [] => .set true []
  | [(first, last)] =>
    if first = last then .literal (Text.utf8Bytes first) else .set ofBytes [(first, last)]
  | ranges => .set ofBytes ranges

/-- The parts of an outline as part of a sequence. -/
def parts : Outline → List Outline
  | .empty => []
  | .seq parts => parts
  | a => [a]

/-- Joins literals that stand side by side. -/
def joinLiterals : List Outline → List Outline
  | [] => []
  | a :: rest => match a, joinLiterals rest with
    | .literal front, .literal back :: more => .literal (front ++ back) :: more
    | a, more => a :: more

/-- One after the other. -/
def concat (subs : List Outline) : Outline :=
  match joinLiterals (subs.flatMap parts) with
  | [] => .empty
  | [a] => a
  | parts => .seq parts

/-- At least `least` times and, if there is a `most`, at most that often. -/
def repeat' (a : Outline) (least : Nat) (most : Option Nat) (lazy : Bool) : Outline :=
  let (least, most) :=
    if a.onlyEmpty then (min least 1, some (min (most.getD 1) 1)) else (least, most)
  if least = 0 ∧ most = some 0 then .empty
  else if least = 1 ∧ most = some 1 then a
  else .times a least most lazy

/-! ## Alternatives -/

/-- The alternatives of an outline as one of several. -/
def options : Outline → List Outline
  | .alt options => options
  | a => [a]

/-- The set that is meant, if the outline is one character of a set. -/
def ranges? : Outline → Option Ranges
  | .set _ ranges => some ranges
  | _ => none

/-- The code point that is meant, if the outline is the bytes of a single one. -/
def code? : Outline → Option Nat
  | .literal [a] => some a
  | .literal [a, b] => if 0xC0 ≤ a then some ((a - 0xC0) * 64 + (b - 0x80)) else none
  | .literal [a, b, c] =>
    if 0xE0 ≤ a then some ((a - 0xE0) * 4096 + (b - 0x80) * 64 + (c - 0x80)) else none
  | .literal [a, b, c, d] =>
    if 0xF0 ≤ a then
      some ((a - 0xF0) * 262144 + (b - 0x80) * 4096 + (c - 0x80) * 64 + (d - 0x80))
    else none
  | _ => none

/-- The parts of a sequence. -/
def seqParts? : Outline → Option (List Outline)
  | .seq parts => some parts
  | _ => none

/-- One of several, of which single characters become a set of characters and so do sets. -/
def choice (subs : List Outline) : Outline :=
  match subs.flatMap options with
  | [] => .set true []
  | [a] => a
  | options =>
    match options.mapM code?, options.mapM ranges? with
    | some codes, _ =>
      ofRanges false (Ranges.unions (codes.map fun code => [(code, code)]))
    | _, some sets => ofRanges false (Ranges.unions sets)
    | _, _ => .alt options

/-- How many parts at the beginning of two sequences are the same. -/
def sharedCount : List Outline → List Outline → Nat
  | a :: as, b :: bs => if same a b then sharedCount as bs + 1 else 0
  | _, _ => 0

/-- **One of several.**  If all are sequences, the parts that they share at their beginning are
taken out. -/
def alternation (subs : List Outline) : Outline :=
  let whole := choice subs
  match whole.options.mapM seqParts? with
  | some (first :: second :: more) =>
    let count := ((second :: more).map (sharedCount first)).foldl min first.length
    if count = 0 then whole
    else
      let rests := (first :: second :: more).map fun parts => concat (parts.drop count)
      concat (first.take count ++ [choice rests])
  | _ => whole

end Outline

/-- The outlines of the alternatives of an expression; there is one unless the expression is an
alternative itself. -/
def outlines : Regex → List Outline
  | .empty => [.empty]
  | .step s => [.ofRanges s.ofBytes s.set.ranges]
  | .check c => [.check c]
  | .seq a b => [.concat [.alternation (outlines a), .alternation (outlines b)]]
  | .alt a b => outlines a ++ outlines b
  | .group captures a =>
    let inner := Outline.alternation (outlines a)
    [if captures then .capture inner else inner]
  | .times a least most lazy => [.repeat' (.alternation (outlines a)) least most lazy]

/-- **The outline of an expression.** -/
def outline (r : Regex) : Outline := .alternation (outlines r)

end Regex

end DataShape
