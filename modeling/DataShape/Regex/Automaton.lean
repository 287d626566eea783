import DataShape.Regex.Leads
import DataShape.Regex.SharedStates

/-!
# The size of automata

An expression is refused if an automaton for it would take more than ten mebibytes.  Two automata
are laid out, one that reads texts forwards and one that reads them backwards, and neither may be
larger; only an expression that a text is searched for word by word has none.  Laying out stops as
soon as the limit is passed, so that even an expression with huge counts is settled.

A repetition lays out what it repeats as often as its counts say.  Alternatives that are all
literals share their beginnings, or their ends if the automaton reads backwards.

* `Regex.Outline.build?` — an outline laid out behind what is there.
* `Regex.fits` — whether an expression keeps within the limit.
-/

namespace DataShape

namespace Regex

namespace Footprint

/-- How many bytes an automaton may take. -/
def limit : Nat := 10 * Nat.pow 2 20

/-- With more states and more bytes in lists, if that keeps within the limit. -/
def plus? (f : Footprint) (states listed : Nat) : Option Footprint :=
  let larger := f.plus states listed
  if larger.bytes ≤ limit then some larger else none

/-- With a state that only leads on, if that keeps within the limit. -/
def plusIdle? (f : Footprint) : Option Footprint := (f.plus? 1 0).map (·.plusIdle 1)

end Footprint

/-! ## Alternatives that are literals -/

/-- Words up to each empty one. -/
def runsOfWords : List (List Nat) → List (List (List Nat))
  | [] => [[]]
  | word :: rest =>
    match word, runsOfWords rest with
    | [], runs => [] :: runs
    | word, run :: runs => (word :: run) :: runs
    | word, [] => [[word]]

/-- Runs of words without all but one of those that are empty and come first. -/
def dropEmptyRuns : List (List (List Nat)) → List (List (List Nat))
  | [] :: [] :: rest => dropEmptyRuns ([] :: rest)
  | runs => runs

/-- With the states that tell words apart byte by byte.  A word that ends where others go on parts
those before it from those behind it, because the earlier alternative is preferred; each run of
words between such places has a state of its own.  `length` bounds the length of the words. -/
def Footprint.words? : Nat → Footprint → List (List Nat) → Option Footprint
  | 0, f, _ => some f
  | length + 1, f, words =>
    if words.all List.isEmpty then some f
    else do
      let runs := dropEmptyRuns (runsOfWords words)
      let addRun := fun (f : Footprint) (run : List (List Nat)) => do
        let bytes := (run.filterMap List.head?).eraseDups
        let f ← bytes.foldlM
          (fun f byte =>
            Footprint.words? length f ((run.filter (·.head? == some byte)).map List.tail)) f
        match bytes with
        | [] => some f
        | [_] => f.plus? 1 0
        | _ => f.plus? 1 (Footprint.transitionBytes * bytes.length)
      let f ← runs.foldlM addRun f
      let successors := (runs.filter (!·.isEmpty)).length + (runs.length - 1)
      let f ← f.plus? 1 (Footprint.successorBytes * successors)
      some (if successors = 1 then f.plusIdle 1 else f)

namespace Outline

/-! ## Laying out -/

/-- Does something a number of times, as long as it succeeds. -/
def iterate? (step : Footprint → Option Footprint) : Nat → Footprint → Option Footprint
  | 0, f => some f
  | count + 1, f => match step f with
    | some f => iterate? step count f
    | none => none

/-- Lays something out a number of times one behind the other; for none there is one state. -/
def exactly? (step : Footprint → Option Footprint) (count : Nat) (f : Footprint) :
    Option Footprint :=
  if count = 0 then f.plusIdle? else iterate? step count f

/-- Lays out a repetition of what takes at least one character if `needsCharacter`. -/
def repeat? (step : Footprint → Option Footprint) (needsCharacter : Bool) (least : Nat)
    (most : Option Nat) (f : Footprint) : Option Footprint := do
  let pair := 2 * Footprint.successorBytes
  match most with
  | none =>
    if least = 0 then
      if needsCharacter then step (← f.plus? 1 pair)
      else (← (← step f).plus? 2 (2 * pair)).plusIdle?
    else (← exactly? step least f).plus? 1 pair
  | some most =>
    if least = 0 ∧ most = 1 then (← step (← f.plus? 1 pair)).plusIdle?
    else if least = most then exactly? step least f
    else
      let f ← exactly? step least f
      iterate? (fun f => do step (← f.plus? 1 pair)) (most - least) (← f.plusIdle?)

mutual

/-- **Lays out an outline** behind what is there, if that keeps within the limit. -/
def build? (backwards : Bool) : Outline → Footprint → Option Footprint
  | .empty, f => f.plusIdle?
  | .literal bytes, f => f.plus? bytes.length 0
  | .set _ ranges, f => (f.set backwards ranges).plus? 0 0
  | .check _, f => f.plus? 1 0
  | .capture a, f =>
    if backwards then build? backwards a f
    else do (← build? backwards a (← f.plus? 1 0)).plus? 1 0
  | .times a least most _, f =>
    repeat? (build? backwards a) (a.needsCharacter && !a.hasEmptySet) least most f
  | .seq parts, f => if backwards then buildLast? parts f else buildAll? parts f
  | .alt options, f =>
    match options.mapM bytes? with
    | some words => do
      let words := if backwards then words.map List.reverse else words
      let length := (words.map List.length).foldl max 0
      Footprint.words? length (← f.plusIdle?) words
    | none => buildOptions? backwards 0 options f

/-- Lays out outlines from the first to the last, reading forwards. -/
def buildAll? : List Outline → Footprint → Option Footprint
  | [], f => some f
  | a :: rest, f => do buildAll? rest (← build? false a f)

/-- Lays out outlines from the last to the first, reading backwards. -/
def buildLast? : List Outline → Footprint → Option Footprint
  | [], f => some f
  | a :: rest, f => do build? true a (← buildLast? rest f)

/-- Lays out alternatives, of which `before` are there already.  The states where they part and
meet follow the first two of them. -/
def buildOptions? (backwards : Bool) (before : Nat) :
    List Outline → Footprint → Option Footprint
  | [], f => some f
  | a :: rest, f => do
    let f ← build? backwards a f
    let f ← f.plus? (if before = 1 then 1 else 0) Footprint.successorBytes
    buildOptions? backwards (before + 1) rest (← if before = 1 then f.plusIdle? else some f)

end

/-- Lays out a whole automaton: states that pass over the text before a match, unless every match is
at the end of the text where reading starts; for an automaton that reads forwards, states that note
the start and the end of a match; and a state for having found one. -/
def whole? (backwards : Bool) (a : Outline) : Option Footprint := do
  let anchor := if backwards then Check.Kind.textEnd else Check.Kind.textStart
  let f : Footprint := ⟨0, 0, 0⟩
  let f ←
    if a.isAnchored anchor backwards then f.plusIdle?
    else (← f.plus? 2 (Footprint.transitionBytes + 2 * Footprint.successorBytes)).plusIdle?
  let f ← build? backwards (.capture a) f
  f.plus? 1 0

end Outline

/-- **Whether an expression keeps within the limit**: because it needs no automata, or because both
are small enough. -/
def fits (r : Regex) : Bool :=
  let a := r.outline
  a.isWords || ((a.whole? false).isSome && (a.whole? true).isSome)

end Regex

end DataShape
