/-!
# Ranges of code points in UTF-8

A range of code points is not a range of byte sequences: where the number of bytes changes, and
where a byte overflows into the one before it, the range falls apart.  Each part is then given by
one range for each byte.

* `utf8Bytes` — the bytes of a code point.
* `byteRanges` — the parts of a range of code points, in increasing order.
-/

namespace DataShape

namespace Text

/-- The bytes of a code point. -/
def utf8Bytes (code : Nat) : List Nat :=
  let tail := fun block => 0x80 + code / block % 64
  if code < 0x80 then [code]
  else if code < 0x800 then [0xC0 + code / 64, tail 1]
  else if code < 0x10000 then [0xE0 + code / 4096, tail 64, tail 1]
  else [0xF0 + code / 262144, tail 4096, tail 64, tail 1]

/-- The last code points with one, two and three bytes. -/
def lastOfLength : List Nat := [0x7F, 0x7FF, 0xFFFF]

/-- The last code point of the lower part of a range, if the range falls apart within blocks of the
given size: where its start or its end is not at the edge of a block. -/
def blockCut? (first last block : Nat) : Option Nat :=
  if first / block = last / block then none
  else if first % block ≠ 0 then some (first / block * block + (block - 1))
  else if last % block ≠ block - 1 then some (last / block * block - 1)
  else none

/-- The last code point of the lower part of a range, if the range falls apart. -/
def cut? (first last : Nat) : Option Nat :=
  if first ≤ 0xD7FF ∧ 0xD7FF < last then some 0xD7FF
  else if let some edge := lastOfLength.find? fun edge => first ≤ edge && edge < last then some edge
  else if last ≤ 0x7F then none
  else [64, 4096, 262144].findSome? (blockCut? first last)

/-- The parts of a range; `steps` bounds how often a range falls apart. -/
def byteRangesFrom : Nat → Nat → Nat → List (List (Nat × Nat))
  | 0, _, _ => []
  | steps + 1, first, last =>
    -- the code points of surrogates have no bytes
    let first := if 0xD800 ≤ first ∧ first ≤ 0xDFFF then 0xE000 else first
    if last < first then []
    else match cut? first last with
      | some edge => byteRangesFrom steps first edge ++ byteRangesFrom steps (edge + 1) last
      | none => [(utf8Bytes first).zip (utf8Bytes last)]

/-- **The parts of a range of code points**, each with one range for each byte.  A range falls apart
at the surrogates, at three lengths, and at both ends of three sizes of blocks. -/
def byteRanges (first last : Nat) : List (List (Nat × Nat)) := byteRangesFrom 32 first last

end Text

end DataShape
