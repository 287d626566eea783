import DataShape.Text.Ranges
import DataShape.Text.Utf8
import Std.Data.TreeMap.Basic

/-!
# States for one character of a set

An automaton reads bytes, so one character of a set takes several states, one for each byte of the
parts that the ranges of the set fall into.  States that would do the same are laid out once.  Which
states there are already is looked up in a memo of limited size: an entry has one slot, which
follows from its key, and is lost when another entry takes the slot.

An automaton that reads forwards shares what follows a byte, and one that reads backwards shares
what precedes it.

* `Regex.Footprint` — how much of an automaton was laid out.
* `Regex.Memo` — a memo of limited size.
* `Regex.Footprint.setForwards`, `Regex.Footprint.setBackwards` — the states for a set.
-/

namespace DataShape

namespace Regex

/-! ## Footprints -/

/-- How much of an automaton was laid out. -/
structure Footprint where
  /-- How many states there are.  A state is known by how many there were before it. -/
  states : Nat
  /-- How many bytes the lists of transitions and of successors take. -/
  listed : Nat
  /-- How many of the states only lead on to another one.  They take room while the automaton is
  laid out but are left out of the finished one. -/
  idle : Nat
deriving DecidableEq

namespace Footprint

/-- The bytes of one state. -/
def stateBytes : Nat := 32

/-- The bytes of a transition in a list: its two bytes and its successor. -/
def transitionBytes : Nat := 8

/-- The bytes of a successor in a list. -/
def successorBytes : Nat := 4

/-- All bytes. -/
def bytes (f : Footprint) : Nat := stateBytes * f.states + f.listed

/-- With more states, and more bytes in lists. -/
def plus (f : Footprint) (states listed : Nat) : Footprint :=
  { f with states := f.states + states, listed := f.listed + listed }

/-- With more of the states known to be idle. -/
def plusIdle (f : Footprint) (count : Nat) : Footprint := { f with idle := f.idle + count }

/-- How many states the finished automaton has. -/
def kept (f : Footprint) : Nat := f.states - f.idle

end Footprint

/-! ## Memos -/

/-- A memo of the states that were laid out for keys. -/
structure Memo where
  /-- How many slots there are. -/
  slots : Nat
  /-- The keys and their states, by the slots that are taken. -/
  entries : Std.TreeMap Nat (List Nat × Nat)

namespace Memo

/-- An empty memo. -/
def ofSlots (slots : Nat) : Memo := ⟨slots, ∅⟩

/-- The slot of a key: a product of all its numbers, taken in one after the other. -/
def slot (m : Memo) (key : List Nat) : Nat :=
  let mixed := key.foldl
    (fun (mixed : UInt64) number => (mixed ^^^ UInt64.ofNat number) * 1099511628211)
    14695981039346656037
  mixed.toNat % m.slots

/-- The state of a key, unless its entry was lost. -/
def get? (m : Memo) (key : List Nat) : Option Nat :=
  match m.entries[m.slot key]? with
  | some (key', state) => if key' = key then some state else none
  | none => none

/-- Enters a key, which takes its slot from any other. -/
def insert (m : Memo) (key : List Nat) (state : Nat) : Memo :=
  { m with entries := m.entries.insert (m.slot key) (key, state) }

end Memo

/-- A footprint with the memo of the states that may be shared. -/
structure Sharing where
  /-- How much was laid out. -/
  footprint : Footprint
  /-- What may be shared. -/
  memo : Memo

/-- The state for a key, with bytes for its list if it has to be laid out. -/
def Sharing.state (s : Sharing) (key : List Nat) (listed : Nat) : Nat × Sharing :=
  match s.memo.get? key with
  | some state => (state, s)
  | none =>
    let state := s.footprint.states
    (state, ⟨s.footprint.plus 1 listed, s.memo.insert key state⟩)

/-! ## Reading forwards -/

/-- A state that is still growing: its transitions so far, as the numbers of its key, and the bytes
of the one whose successor is still growing as well. -/
structure GrowingState where
  /-- First byte, last byte and successor of each transition. -/
  transitions : List Nat
  /-- The bytes of the last transition. -/
  last : Nat × Nat

/-- The state for the first of a chain of growing states, once it grows no more.  The last of them
leads to `target`. -/
def freeze (target : Nat) : List GrowingState → Sharing → Nat × Sharing
  | [], s => (target, s)
  | state :: deeper, s =>
    let (successor, s) := freeze target deeper s
    let key := state.transitions ++ [state.last.1, state.last.2, successor]
    s.state key (Footprint.transitionBytes * (key.length / 3))

/-- Adds one part of a set to a chain of growing states: as far as it agrees with the part before
it, the chain grows on, and what is behind that grows no more. -/
def grow (target : Nat) : List GrowingState → List (Nat × Nat) → Sharing →
    List GrowingState × Sharing
  | state :: deeper, bytes :: rest, s =>
    if state.last = bytes then
      let (deeper, s) := grow target deeper rest s
      (state :: deeper, s)
    else
      let (successor, s) := freeze target deeper s
      let grown : GrowingState :=
        ⟨state.transitions ++ [state.last.1, state.last.2, successor], bytes⟩
      (grown :: rest.map (⟨[], ·⟩), s)
  | _, rest, s => (rest.map (⟨[], ·⟩), s)

/-- The parts of all ranges of a set. -/
def setParts (ranges : Ranges) : List (List (Nat × Nat)) :=
  ranges.flatMap fun (first, last) => Text.byteRanges first last

namespace Footprint

/-- With the states for a set in an automaton that reads forwards. -/
def setForwards (f : Footprint) (ranges : Ranges) : Footprint :=
  let target := f.states
  let (chain, s) := (setParts ranges).foldl
    (fun (chain, s) part => grow target chain part s)
    (([] : List GrowingState), (⟨(f.plus 1 0).plusIdle 1, .ofSlots 10000⟩ : Sharing))
  (freeze target chain s).2.footprint

/-- With the states for a set in an automaton that reads backwards: a state with a successor for
each part, and the chains of states that lead to a common end.  The end is idle, and so is the
first state if there is one part only. -/
def setBackwards (f : Footprint) (ranges : Ranges) : Footprint :=
  let finish := f.states + 1
  let parts := setParts ranges
  let idle := if parts.length = 1 then 2 else 1
  let addPart := fun (s : Sharing) part =>
    let (_, s) := part.foldl
      (fun (state, s) (low, high) => s.state [state, low, high] 0) (finish, s)
    { s with footprint := s.footprint.plus 0 successorBytes }
  (parts.foldl addPart ⟨(f.plus 2 0).plusIdle idle, .ofSlots 1000⟩).footprint

/-- With the states for a set of which all members are of ASCII: one with a list of transitions,
and the one they lead to. -/
def asciiSet (f : Footprint) (ranges : Ranges) : Footprint :=
  (f.plus 2 (transitionBytes * ranges.length)).plusIdle 1

/-- **With the states for a set.** -/
def set (f : Footprint) (backwards : Bool) (ranges : Ranges) : Footprint :=
  if ranges.all fun range => decide (range.2 < 0x80) then f.asciiSet ranges
  else if backwards then f.setBackwards ranges
  else f.setForwards ranges

end Footprint

end Regex

end DataShape
