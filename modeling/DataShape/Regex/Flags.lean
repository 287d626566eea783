import DataShape.Text.Blank

/-!
# Flags of regular expressions

Flags change how the rest of a group is read.  In the extended notation blanks and comments are
passed over nearly everywhere, so each reader of a piece of notation asks the flags before it
looks at the next character.

* `Regex.Flags` — the flags in force.
* `Regex.skip` — the text behind blanks and comments.
* `Regex.flagItems?` — the letters of a group of flags.
-/

namespace DataShape

namespace Regex

/-- The flags in force at a place in an expression. -/
structure Flags where
  /-- Letters match in either case. -/
  caseless : Bool := false
  /-- The start and the end of a line can be checked for. -/
  multiline : Bool := false
  /-- A point also matches the end of a line. -/
  dotAll : Bool := false
  /-- Classes and cases are those of all scripts. -/
  unicode : Bool := true
  /-- A carriage return also ends a line. -/
  carriageReturn : Bool := false
  /-- Blanks and comments are passed over. -/
  extended : Bool := false
  /-- Repetitions are lazy unless they are marked, and not if they are. -/
  swapped : Bool := false
deriving DecidableEq

/-! ## Blanks and comments -/

mutual

/-- The text behind blanks and comments. -/
def skipBlanks : List Char → List Char
  | [] => []
  | c :: rest =>
    if Text.isBlank c then skipBlanks rest
    else if c = '#' then skipComment rest
    else c :: rest

/-- The text behind the rest of a comment, which ends with its line, and behind what follows. -/
def skipComment : List Char → List Char
  | [] => []
  | c :: rest => if c = '\n' then skipBlanks rest else skipComment rest

end

/-- The text behind what the flags pass over. -/
def skip (flags : Flags) (cs : List Char) : List Char :=
  if flags.extended then skipBlanks cs else cs

/-- The next character that counts when looking ahead from inside a class: blanks are passed over,
and of a comment only its mark. -/
def peekAhead (flags : Flags) (cs : List Char) : Option Char :=
  if flags.extended then
    match cs.dropWhile Text.isBlank with
    | '#' :: rest => ((rest.dropWhile Text.isBlank).head?).or (cs.head?)
    | rest => rest.head?.or cs.head?
  else cs.head?

/-! ## Reading flags -/

/-- Sets the flag of a letter. -/
def Flags.set (flags : Flags) (letter : Char) (on : Bool) : Flags :=
  match letter with
  | 'i' => { flags with caseless := on }
  | 'm' => { flags with multiline := on }
  | 's' => { flags with dotAll := on }
  | 'u' => { flags with unicode := on }
  | 'R' => { flags with carriageReturn := on }
  | 'x' => { flags with extended := on }
  | 'U' => { flags with swapped := on }
  | _ => flags

/-- Sets the flags of a list of letters, and clears those behind a minus sign. -/
def Flags.apply (flags : Flags) : Bool → List Char → Flags
  | _, [] => flags
  | _, '-' :: rest => apply flags false rest
  | on, letter :: rest => apply (flags.set letter on) on rest

/-- Whether a character is the letter of a flag. -/
def isFlagLetter (c : Char) : Bool := ['i', 'm', 's', 'U', 'u', 'R', 'x'].contains c

/-- Whether a list of letters is in order: only flags and a minus sign, each at most once, and
something behind the minus sign. -/
def flagsInOrder (items : List Char) : Bool :=
  items.all (fun c => isFlagLetter c || c == '-') && items.eraseDups.length == items.length &&
    items.getLast? != some '-'

/-- The flag letters up to a colon or a closing parenthesis, which character that is, and the text
behind it. -/
def flagItems? (cs : List Char) : Option (List Char × Char × List Char) :=
  let isEnd := fun c => c == ':' || c == ')'
  let items := cs.takeWhile (fun c => !isEnd c)
  match cs.dropWhile (fun c => !isEnd c) with
  | finish :: rest => if flagsInOrder items then some (items, finish, rest) else none
  | [] => none

end Regex

end DataShape
