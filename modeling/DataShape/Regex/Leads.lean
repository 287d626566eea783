import DataShape.Regex.Outline

/-!
# Words that matches begin with

Some expressions have only a few matches, and then a text can be searched for these words without
an automaton.  A lead is a word that matches begin with; it is whole if there is nothing behind it.
The leads of an expression are gathered along its outline, in the order in which its alternatives
are preferred.  Where there would be too many of them, they are cut short, or it is left open what
matches begin with.

Once they are gathered, leads are dropped or cut as far as that makes a text easier to search for
candidates.  If all that remain are whole, they are all matches.

* `Regex.Lead`, `Regex.Leads` — a lead, and the leads of an expression.
* `Regex.Outline.leads` — the leads of an outline.
* `Regex.Leads.narrowed` — the leads that a text is searched for.
* `Regex.Outline.isWords` — whether a text is searched for words only.
-/

namespace DataShape

namespace Regex

/-- A word that matches begin with. -/
structure Lead where
  /-- The bytes of the word. -/
  bytes : List Nat
  /-- Whether the word is a match, or else the beginning of matches. -/
  whole : Bool
deriving DecidableEq

/-- The words that matches begin with, or nothing if that is left open. -/
abbrev Leads := Option (List Lead)

namespace Lead

/-! ## Lists of leads -/

/-- The leads as beginnings of matches. -/
def opened (leads : List Lead) : List Lead := leads.map fun lead => { lead with whole := false }

/-- The leads cut to a number of bytes. -/
def cut (length : Nat) (leads : List Lead) : List Lead :=
  leads.map fun lead =>
    if lead.bytes.length ≤ length then lead else ⟨lead.bytes.take length, false⟩

/-- The leads with one for several neighbours that are the same word; it is whole if all of them
are. -/
def merged : List Lead → List Lead
  | [] => []
  | a :: rest =>
    match merged rest with
    | b :: more =>
      if a.bytes = b.bytes then ⟨a.bytes, a.whole && b.whole⟩ :: more else a :: b :: more
    | [] => [a]

/-- The leads without those that go on where an earlier one ends.  `kept` are the earlier ones. -/
def uncovered (kept : List Lead) : List Lead → List Lead
  | [] => kept.reverse
  | lead :: rest =>
    if kept.any fun earlier => earlier.bytes.isPrefixOf lead.bytes then uncovered kept rest
    else uncovered (lead :: kept) rest

/-- The bytes that two words begin with. -/
def sharedBytes : List Nat → List Nat → List Nat
  | a :: as, b :: bs => if a = b then a :: sharedBytes as bs else []
  | _, _ => []

/-- The bytes that all leads begin with. -/
def commonBytes : List Lead → List Nat
  | [] => []
  | lead :: rest => rest.foldl (fun bytes next => sharedBytes bytes next.bytes) lead.bytes

/-- Whether all leads are whole. -/
def allWhole (leads : List Lead) : Bool := leads.all (·.whole)

end Lead

namespace Leads

/-! ## Gathering -/

/-- How many leads there may be. -/
def limit : Nat := 250

/-- How many bytes a lead may have. -/
def lengthLimit : Nat := 100

/-- How many members a set may have to be taken apart, and how often something repeated is
followed. -/
def unfoldLimit : Nat := 10

/-- Matches that are nothing but the empty text. -/
def ofEmpty : Leads := some [⟨[], true⟩]

/-- Whether no lead is whole, so that it does not matter what follows. -/
def isOpen (leads : Leads) : Bool :=
  match leads with
  | some leads => leads.all (!·.whole)
  | none => true

/-- The leads as beginnings of matches. -/
def opened (leads : Leads) : Leads := leads.map Lead.opened

/-- How many pairs there are of a lead and one of a list. -/
def sizeWith (leads : Leads) (next : List Lead) : Nat :=
  match leads with
  | some leads => leads.length * next.length
  | none => 0

/-- The leads of matches that go on with others behind a whole lead.  If there were too many pairs,
it is left open what follows. -/
def andThen (leads next : Leads) : Leads :=
  let follow := fun (a : Lead) (bs : List Lead) =>
    if a.whole then bs.map fun b => (⟨a.bytes ++ b.bytes, b.whole⟩ : Lead) else [a]
  let joined : Leads := match leads, next.filter (leads.sizeWith · ≤ limit) with
    | none, _ => none
    | some as, some bs => some (Lead.merged (as.flatMap (follow · bs)))
    | some as, none => if as.any (·.bytes.isEmpty) then none else some (Lead.opened as)
  joined.map (Lead.cut lengthLimit)

/-- The leads of matches of either kind, the first kind being preferred. -/
def orElse (leads others : Leads) : Leads :=
  match leads, others with
  | some as, some bs =>
    if as.length + bs.length ≤ limit then some (Lead.merged (as ++ bs))
    else
      let as := Lead.merged (Lead.cut 4 as)
      let bs := Lead.merged (Lead.cut 4 bs)
      if as.length + bs.length ≤ limit then some (Lead.merged (as ++ bs)) else none
  | _, _ => none

/-- The leads of matches that go on with others a number of times. -/
def andThenTimes (leads next : Leads) : Nat → Leads
  | 0 => leads
  | count + 1 => if leads.isOpen then leads else andThenTimes (leads.andThen next) next count

/-- The leads of a repetition. -/
def repeated (leads : Leads) (least : Nat) (most : Option Nat) (lazy : Bool) : Leads :=
  if least = 0 then
    let some' := if most = some 1 then leads else leads.opened
    if lazy then ofEmpty.orElse some' else some'.orElse ofEmpty
  else match most with
    | none => leads.opened
    | some most =>
      let followed := ofEmpty.andThenTimes leads (min least unfoldLimit)
      if least = most ∧ least ≤ unfoldLimit then followed else followed.opened

/-- How many code points there are in a set. -/
def sizeOf (ranges : Ranges) : Nat :=
  (ranges.map fun (first, last) => last + 1 - first).foldl (· + ·) 0

/-- The leads of one character of a set. -/
def ofSet (ranges : Ranges) : Leads :=
  if sizeOf ranges ≤ unfoldLimit then
    some (ranges.flatMap fun (first, last) =>
      (List.range (last + 1 - first)).map fun offset => ⟨Text.utf8Bytes (first + offset), true⟩)
  else none

/-! ## Narrowing -/

/-- Whether a byte is common in texts: blanks, most marks and small letters, the digits that numbers
often begin with, and the first bytes of all characters beyond ASCII. -/
def isCommonByte (byte : Nat) : Bool :=
  decide (0xC0 ≤ byte) || "\n\r (),-./0129:_abcdefghilmnoprstuvxy|".toList.any (·.toNat == byte)

/-- How far leads are cut, and how many there may be without that, from the first cut to the
last. -/
def cuts : List (Nat × Nat) := [(5, 10), (4, 10), (3, 64), (2, 64), (1, 10)]

/-- Cuts leads until there are few enough of them. -/
def shortened : List (Nat × Nat) → List Lead → List Lead
  | [], leads => leads
  | (length, enough) :: rest, leads =>
    if leads.length ≤ enough then leads
    else shortened rest (Lead.uncovered [] (Lead.cut length leads))

/-- **The leads that a text is searched for.**  If they share a rare first byte, it is enough to
search for that; if they share more and are many, for what they share.  Whole leads are kept as they
are if they would have to be cut to less than three bytes. -/
def narrowed (leads : Leads) : Leads :=
  match leads with
  | none => none
  | some all =>
    if all.any (·.bytes.isEmpty) then none
    else
      let kept := Lead.uncovered [] all
      let shared := Lead.commonBytes kept
      let isRare := !isCommonByte (shared.headD 0)
      if 1 < all.length ∧ 1 ≤ shared.length ∧ shared.length ≤ 3 ∧ isRare then
        some (Lead.merged (Lead.cut 1 kept))
      else
        let isFew := Lead.allWhole kept && decide (kept.length ≤ 16)
        let kept :=
          if 4 < shared.length ∨ (1 < shared.length ∧ !isFew) then
            Lead.merged (Lead.cut shared.length kept)
          else kept
        let short := shortened cuts kept
        let isUseful := short.all (3 ≤ ·.bytes.length) && decide (short.length ≤ 64)
        some (if Lead.allWhole kept && !isUseful then kept else short)

end Leads

namespace Outline

mutual

/-- **The leads of an outline.**  Conditions on positions are passed over. -/
def leads : Outline → Leads
  | .empty => .ofEmpty
  | .literal bytes => some (Lead.cut Leads.lengthLimit [⟨bytes, true⟩])
  | .set _ ranges => .ofSet ranges
  | .check _ => .ofEmpty
  | .capture a => leads a
  | .times a least most lazy => (leads a).repeated least most lazy
  | .seq parts => leadsOfAll .ofEmpty parts
  | .alt options => leadsOfAny (some []) options

/-- The leads of matches that go on with outlines one after the other. -/
def leadsOfAll (before : Leads) : List Outline → Leads
  | [] => before
  | a :: rest => if before.isOpen then before else leadsOfAll (before.andThen (leads a)) rest

/-- The leads of matches of some kind or of one of several outlines. -/
def leadsOfAny (before : Leads) : List Outline → Leads
  | [] => before
  | a :: rest => if before.isNone then none else leadsOfAny (before.orElse (leads a)) rest

end

mutual

/-- Whether there are no checks and no groups that capture. -/
def isPlain : Outline → Bool
  | .empty => true
  | .literal _ => true
  | .set _ _ => true
  | .check _ => false
  | .capture _ => false
  | .times a _ _ _ => isPlain a
  | .seq parts => allPlain parts
  | .alt options => allPlain options

/-- Whether there are no checks and no groups that capture in a list of outlines. -/
def allPlain : List Outline → Bool
  | [] => true
  | a :: rest => isPlain a && allPlain rest

end

/-- The bytes of a literal. -/
def bytes? : Outline → Option (List Nat)
  | .literal bytes => some bytes
  | _ => none

/-- Whether there are thousands of alternatives, each of them a literal. -/
def isManyLiterals : Outline → Bool
  | .alt options => decide (3000 ≤ options.length) && (options.mapM bytes?).isSome
  | _ => false

/-- **Whether a text is searched for words only**, either because all matches are whole leads or
because there are thousands of literals. -/
def isWords (a : Outline) : Bool :=
  let isWhole := match a.leads.narrowed with
    | some leads => !leads.isEmpty && Lead.allWhole leads
    | none => false
  (a.isPlain && isWhole) || a.isManyLiterals

end Outline

end Regex

end DataShape
