import DataShape.Proofs.Regex.Brackets
import DataShape.Regex.Parser

/-!
# Steps of reading in front of the frame

A step of reading at the end of a source may take from the frame: an opening parenthesis with flags
behind it is content with the closing parenthesis of the frame, and so is a backslash.  What is left
of the frame then has no closing parenthesis, and only that closes a group.

* `steady_opening?` — what an opening parenthesis begins.
* `Adrift`, `steady_step?` — **a step**, and what it may read beyond the source.
* `Reading.Moves`, `moves_step?` — the groups that a step opens and closes.
-/

namespace DataShape

namespace Regex

/-! ## Opening a group -/

lemma groupName?_of_forall_ne {cs : List Char} (h : ∀ c ∈ cs, (c != '>') = true) :
    groupName? cs = none := by
  rw [groupName?, List.dropWhile_eq_nil_iff.mpr h]

lemma steady_groupName? : Steady Past groupName? := by
  constructor
  · intro cs x rest h
    rw [groupName?] at h
    split at h
    next c behind first more hdrop htake =>
      split_ifs at h
      cases h
      exact (hdrop ▸ List.suffix_cons c rest).trans (List.dropWhile_suffix _)
    next => cases h
  · intro cs
    by_cases hunclosed : ∀ c ∈ cs, (c != '>') = true
    · have hframed : ∀ c ∈ cs ++ frameEnd, (c != '>') = true :=
        List.forall_mem_append.mpr ⟨hunclosed, List.all_eq_true.mp rfl⟩
      rw [groupName?_of_forall_ne hunclosed, groupName?_of_forall_ne hframed]
      exact .refused
    · obtain ⟨c, rest, hdrop, -, hspan⟩ := span_append hunclosed
      rw [groupName?, groupName?, hdrop, (hspan frameEnd).1, (hspan frameEnd).2]
      cases cs.takeWhile (· != '>') with
      | nil => exact .refused
      | cons first more =>
          dsimp only
          split_ifs
          · exact .same _ rest
          · exact .refused

/-- Flags go on to a colon or a closing parenthesis. -/
def endsFlags (c : Char) : Bool := c == ':' || c == ')'

/-- What flags and the character behind them begin. -/
def flagged? (flags : Flags) (items : List Char) (finish : Char) : Reader Opening := fun rest =>
  if finish = ':' then some (.group false (flags.apply true items), rest)
  else if items.isEmpty then none
  else some (.change (flags.apply true items), rest)

lemma steady_flagged? (flags : Flags) (items : List Char) (finish : Char) :
    Steady Past (flagged? flags items finish) := .ite (.pure _) (.ite .none (.pure _))

/-- Flags behind a question mark, which hold on their own or for a group. -/
def flagGroup? (flags : Flags) : Reader Opening := fun rest =>
  (flagItems? rest).bind fun found => flagged? flags found.1 found.2.1 found.2.2

lemma flagGroup?_eq (flags : Flags) (cs : List Char) :
    flagGroup? flags cs = match cs.dropWhile fun c => !endsFlags c with
      | finish :: rest =>
        if flagsInOrder (cs.takeWhile fun c => !endsFlags c) then
          flagged? flags (cs.takeWhile fun c => !endsFlags c) finish rest
        else none
      | [] => none := by
  change (match cs.dropWhile fun c => !endsFlags c with
    | finish :: rest =>
      if flagsInOrder (cs.takeWhile fun c => !endsFlags c) then
        some (cs.takeWhile fun c => !endsFlags c, finish, rest)
      else none
    | [] => none).bind _ = _
  cases cs.dropWhile fun c => !endsFlags c with
  | nil => rfl
  | cons finish rest =>
      dsimp only
      split_ifs <;> rfl

lemma steady_flagGroup? (flags : Flags) : Steady Past (flagGroup? flags) := by
  have hflagged : ∀ items finish, Steady Past fun rest : List Char =>
      if flagsInOrder items then flagged? flags items finish rest else none :=
    fun items finish => .ite (steady_flagged? flags items finish) .none
  constructor
  · intro cs x rest h
    rw [flagGroup?_eq] at h
    split at h
    next finish behind hdrop =>
      have hbehind : behind <:+ finish :: behind := List.suffix_cons finish behind
      rw [← hdrop] at hbehind
      exact ((hflagged _ finish).shortens h).trans (hbehind.trans (List.dropWhile_suffix _))
    next => cases h
  · intro cs
    rw [flagGroup?_eq, flagGroup?_eq]
    by_cases hendless : ∀ c ∈ cs, (!endsFlags c) = true
    · have hframed : (cs ++ frameEnd).dropWhile (fun c => !endsFlags c) = frameEnd := by
        rw [List.dropWhile_append_of_pos hendless]
        rfl
      rw [List.dropWhile_eq_nil_iff.mpr hendless, hframed]
      -- the flags are ended by the closing parenthesis of the frame
      exact .of_lost fun x rest h => (hflagged _ ')').shortens h
    · obtain ⟨finish, rest, hdrop, -, hspan⟩ := span_append hendless
      rw [hdrop, (hspan frameEnd).1, (hspan frameEnd).2]
      exact (hflagged _ finish).outlook rest

/-- What an opening parenthesis begins, from the first character that counts. -/
def openingBody? (flags : Flags) : Reader Opening
  | '?' :: '=' :: _ => none
  | '?' :: '!' :: _ => none
  | '?' :: '<' :: '=' :: _ => none
  | '?' :: '<' :: '!' :: _ => none
  | '?' :: 'P' :: '<' :: rest => groupName? rest
  | '?' :: '<' :: rest => groupName? rest
  | '?' :: rest => flagGroup? flags rest
  | rest => some (.group true flags, rest)

lemma opening?_eq (flags : Flags) (cs : List Char) :
    opening? flags cs = openingBody? flags (skip flags cs) := rfl

lemma steady_openingBody? (flags : Flags) : Steady Past (openingBody? flags) := by
  refine .of_but (.mark ['?', '='] (fun _ _ => rfl) (by simp) .none ?_)
  refine .mark ['?', '!'] (fun _ _ => rfl) (by simp) .none ?_
  refine .mark ['?', '<', '='] (fun _ _ => rfl) (by simp) .none ?_
  refine .mark ['?', '<', '!'] (fun _ _ => rfl) (by simp) .none ?_
  refine .mark ['?', 'P', '<'] (fun _ _ => rfl) (by simp) steady_groupName? ?_
  refine .mark ['?', '<'] (fun cs hcs => ?_) (by simp) steady_groupName? ?_
  · simp only [List.forall_mem_cons] at hcs
    obtain ⟨-, hbehindNot, hbehind, -, -, -⟩ := hcs
    rw [List.cons_append, List.singleton_append, openingBody?]
    · rintro rest rfl
      exact hbehind ⟨rest, rfl⟩
    · rintro rest rfl
      exact hbehindNot ⟨rest, rfl⟩
  refine .mark ['?'] (fun cs hcs => ?_) (by simp) (steady_flagGroup? flags) ?_
  · simp only [List.forall_mem_cons] at hcs
    obtain ⟨hname, hnamed, hbehindNot, hbehind, hnot, his, -⟩ := hcs
    rw [List.singleton_append, openingBody?]
    · rintro rest rfl
      exact his ⟨rest, rfl⟩
    · rintro rest rfl
      exact hnot ⟨rest, rfl⟩
    · rintro rest rfl
      exact hbehind ⟨rest, rfl⟩
    · rintro rest rfl
      exact hbehindNot ⟨rest, rfl⟩
    · rintro rest rfl
      exact hnamed ⟨rest, rfl⟩
    · rintro rest rfl
      exact hname ⟨rest, rfl⟩
  refine .rest (by simp) (fun cs hcs => ?_) (.pure (Opening.group true flags))
  have hquestion : ∀ rest, cs ≠ '?' :: rest := fun rest h =>
    hcs ['?'] List.mem_cons_self ⟨rest, h.symm⟩
  rw [openingBody?]
  all_goals
    intros
    exact hquestion _ ‹_›

/-- **What an opening parenthesis begins.** -/
lemma steady_opening? (flags : Flags) : Steady Past (opening? flags) :=
  ((steady_openingBody? flags).skipping flags).of_eq (opening?_eq flags)

/-! ## Steps -/

/-- What is left is beyond the source, or a brace behind which only the frame is left. -/
def Adrift (r : Reading) (rest : List Char) : Prop :=
  Past r rest ∨ ∃ more, rest = '{' :: more ∧ skip r.level.flags more = frameEnd

lemma steady_outerPiece? (flags : Flags) (c : Char) :
    Steady (Astray flags (.check .wordBoundary)) (outerPiece? flags c) := by
  by_cases hescape : c = '\\'
  · exact hescape ▸ steady_escape? flags
  by_cases hdot : c = '.'
  · exact hdot ▸ .pure Piece.dot
  by_cases hcaret : c = '^'
  · exact hcaret ▸ .pure (Piece.check .caret)
  by_cases hdollar : c = '$'
  · exact hdollar ▸ .pure (Piece.check .dollar)
  refine (Steady.pure (Piece.char c false)).of_eq fun rest => ?_
  rw [outerPiece?] <;> assumption

/-- A group that is opened, or flags that are changed. -/
def openGroup? (r : Reading) : Reader Reading := fun rest =>
  (opening? r.level.flags rest).bind fun found =>
    (r.open? found.1).bind fun opened => some (opened, found.2)

/-- A class as an item. -/
def pushBracket? (r : Reading) : Reader Reading := fun rest =>
  (bracket? r.level.flags rest).bind fun found =>
    some (r.push (.step (Step.under r.level.flags found.1.item)) found.1.depth, found.2)

/-- A repetition of the last item. -/
def repeatLast? (r : Reading) (operator : Char) : Reader Reading := fun rest =>
  (repetition? r.level.flags operator rest).bind fun found =>
    (r.repeat? found.1).bind fun repeated => some (repeated, found.2)

/-- A piece as an item. -/
def pushPiece? (r : Reading) (c : Char) : Reader Reading := fun rest =>
  (outerPiece? r.level.flags c rest).bind fun found =>
    (found.1.toRegex? r.level.flags).bind fun regex => some (r.push regex 0, found.2)

/-- The characters that are operators of repetition. -/
def isOperator (c : Char) : Prop := c = '?' ∨ c = '*' ∨ c = '+' ∨ c = '{'

instance (c : Char) : Decidable (isOperator c) := inferInstanceAs (Decidable (_ ∨ _))

lemma step?_eq (r : Reading) (c : Char) (rest : List Char) :
    step? r c rest =
      if c = '(' then openGroup? r rest
      else if c = ')' then r.close?.map fun closed => (closed, rest)
      else if c = '|' then some ({ r with level := r.level.alternate }, rest)
      else if c = '[' then pushBracket? r rest
      else if isOperator c then repeatLast? r c rest
      else pushPiece? r c rest := by
  split_ifs with hopen hclose hbar hbracket hoperator
  · exact hopen ▸ rfl
  · exact hclose ▸ rfl
  · exact hbar ▸ rfl
  · exact hbracket ▸ rfl
  · rw [step?]
    · exact if_pos hoperator
    all_goals assumption
  · rw [step?]
    · exact if_neg hoperator
    all_goals assumption

lemma steady_pushPiece? (r : Reading) (c : Char) : Steady Adrift (pushPiece? r c) := by
  have hregex : ∀ piece : Piece, Steady Adrift fun rest : List Char =>
      (piece.toRegex? r.level.flags).bind fun regex => some (r.push regex 0, rest) :=
    fun piece => .given _ fun regex => .pure (r.push regex 0)
  refine (steady_outerPiece? r.level.flags c).bindOf hregex fun piece rest hlost pushed more h => ?_
  rcases hlost with hpast | ⟨rfl, hbrace⟩
  · exact .inl (((hregex piece).shortens h).trans hpast)
  · cases h
    exact .inr hbrace

/-- **A step of reading.** -/
lemma steady_step? (r : Reading) (c : Char) : Steady Adrift (step? r c) := by
  have hadrift : ∀ {f : Reader Reading}, Steady Past f → Steady Adrift f :=
    fun hf => hf.mono fun _ _ => .inl
  have hopen : Steady Past (openGroup? r) := (steady_opening? r.level.flags).bind fun opening =>
    .given (r.open? opening) fun opened => .pure opened
  have hbracket : Steady Past (pushBracket? r) := (steady_bracket? r.level.flags).bind fun set =>
    .pure (r.push (.step (Step.under r.level.flags set.item)) set.depth)
  have hrepeat : Steady Past (repeatLast? r c) :=
    (steady_repetition? r.level.flags c).bind fun count =>
      .given (r.repeat? count) fun repeated => .pure repeated
  exact (Steady.ite (hadrift hopen) (.ite (.known r.close? id) (.ite (.pure _)
    (.ite (hadrift hbracket) (.ite (hadrift hrepeat) (steady_pushPiece? r c)))))).of_eq
      (step?_eq r c)

/-! ## Open groups -/

/-- How a step changes the groups that are open: it stays in the innermost one, opens another one in
it, or closes it. -/
inductive Reading.Moves (r next : Reading) : Prop
  | stays : next.outer = r.outer → next.level.captures = r.level.captures → Moves r next
  | opens : next.outer = r.level :: r.outer → Moves r next
  | closes {around : Level} : r.outer = around :: next.outer →
    next.level.captures = around.captures → Moves r next

lemma Reading.Moves.outer_le {r next : Reading} (h : r.Moves next) :
    r.outer.length ≤ next.outer.length + 1 := by
  cases h with
  | stays houter _ => rw [houter]; exact Nat.le_succ _
  | opens houter => rw [houter, List.length_cons]; omega
  | closes houter _ => rw [houter, List.length_cons]

lemma Reading.moves_open? {r next : Reading} {opening : Opening} (h : r.open? opening = some next) :
    r.Moves next ∧ r.outer.length ≤ next.outer.length := by
  cases opening with
  | change flags =>
      cases h
      exact ⟨.stays rfl rfl, le_rfl⟩
  | group captures flags =>
      cases h
      exact ⟨.opens rfl, Nat.le_succ _⟩
  | named name =>
      rw [Reading.open?] at h
      split_ifs at h
      cases h
      exact ⟨.opens rfl, Nat.le_succ _⟩

/-- **How a step changes the groups that are open**; only a closing parenthesis closes one. -/
lemma moves_step? {r next : Reading} {c : Char} {cs rest : List Char}
    (h : step? r c cs = some (next, rest)) :
    r.Moves next ∧ (c ≠ ')' → r.outer.length ≤ next.outer.length) := by
  rw [step?_eq] at h
  split_ifs at h with hopen hclose hbar hbracket hoperator
  · obtain ⟨found, -, hfound⟩ := Option.bind_eq_some_iff.mp h
    obtain ⟨opened, hopened, hnext⟩ := Option.bind_eq_some_iff.mp hfound
    cases hnext
    exact ⟨(Reading.moves_open? hopened).1, fun _ => (Reading.moves_open? hopened).2⟩
  · refine ⟨?_, fun hc => absurd hclose hc⟩
    obtain ⟨closed, hclosed, hnext⟩ := Option.map_eq_some_iff.mp h
    cases hnext
    rw [Reading.close?] at hclosed
    split at hclosed
    · cases hclosed
    · next around outer houter =>
        cases hclosed
        exact .closes houter rfl
  · cases h
    exact ⟨.stays rfl rfl, fun _ => le_rfl⟩
  · obtain ⟨found, -, hnext⟩ := Option.bind_eq_some_iff.mp h
    cases hnext
    exact ⟨.stays rfl rfl, fun _ => le_rfl⟩
  · obtain ⟨found, -, hfound⟩ := Option.bind_eq_some_iff.mp h
    obtain ⟨repeated, hrepeated, hnext⟩ := Option.bind_eq_some_iff.mp hfound
    cases hnext
    rw [Reading.repeat?] at hrepeated
    split at hrepeated
    · cases hrepeated
      exact ⟨.stays rfl rfl, fun _ => le_rfl⟩
    · cases hrepeated
  · obtain ⟨found, -, hfound⟩ := Option.bind_eq_some_iff.mp h
    obtain ⟨regex, -, hnext⟩ := Option.bind_eq_some_iff.mp hfound
    cases hnext
    exact ⟨.stays rfl rfl, fun _ => le_rfl⟩

end Regex

end DataShape
