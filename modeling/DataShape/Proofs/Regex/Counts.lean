import DataShape.Proofs.Regex.Readers
import DataShape.Regex.Counting
import DataShape.Regex.Escape

/-!
# Numbers in front of the frame

Counts of repetitions and the codes of characters are steady.  A count and a code in braces want a
closing brace, and a code of fixed length wants further digits.  The frame has none of them, so what
is not complete in the source is not completed by the frame.

* `steady_repetition?` — the count that an operator stands for.
* `steady_hexEscape?` — a character by its code.
-/

namespace DataShape

namespace Regex

/-! ## Counts -/

lemma spacedDigits_nil (flags : Flags) (steps : Nat) : spacedDigits flags steps [] = ([], []) := by
  cases steps <;> rfl

lemma spacedDigits_suffix (flags : Flags) (steps : Nat) (cs : List Char) :
    (spacedDigits flags steps cs).2 <:+ cs := by
  induction steps generalizing cs with
  | zero => exact List.suffix_rfl
  | succ steps ih =>
      cases cs with
      | nil => exact List.suffix_rfl
      | cons c rest =>
          rw [spacedDigits]
          split_ifs
          · exact ((ih _).trans (skip_suffix flags rest)).trans (List.suffix_cons c rest)
          · exact List.suffix_rfl

lemma outlook_spacedDigits (flags : Flags) {steps more : Nat} {cs : List Char}
    (hsteps : cs.length ≤ steps) (hmore : (cs ++ frameEnd).length ≤ more) :
    Outlook Past (some (spacedDigits flags steps cs))
      (some (spacedDigits flags more (cs ++ frameEnd))) := by
  induction steps generalizing more cs with
  | zero =>
      obtain rfl := List.length_eq_zero_iff.mp (Nat.le_zero.mp hsteps)
      cases more with
      | zero => cases hmore
      | succ more => exact .same [] []
  | succ steps ih =>
      cases more with
      | zero => simp [frameEnd] at hmore
      | succ more =>
          cases cs with
          | nil => exact .same [] []
          | cons c rest =>
              rw [List.cons_append, spacedDigits, spacedDigits]
              split_ifs
              · have hskip := (skip_suffix flags rest).length_le
                rcases skip_append flags rest with h | ⟨hrest, h⟩
                · rw [h]
                  simp only [List.length_cons, List.length_append, List.cons_append]
                    at hsteps hmore ih
                  have hrest : Outlook Past (some (spacedDigits flags steps (skip flags rest)))
                      (some (spacedDigits flags more (skip flags rest ++ frameEnd))) :=
                    ih (by omega) (by omega)
                  exact hrest.bind (g := fun digits cs => some (c :: digits, cs))
                    (fun digits => .pure (c :: digits)) fun _ _ hpast _ _ hy => by
                      cases hy
                      exact hpast
                · rw [h, hrest, spacedDigits_nil, spacedDigits_nil]
                  exact .passed [c]
              · exact .same [] (c :: rest)

lemma steady_spacedDigits (flags : Flags) :
    Steady Past fun cs => some (spacedDigits flags cs.length cs) where
  shortens {cs x rest} h := by
    have hsuffix := spacedDigits_suffix flags cs.length cs
    rw [Option.some.inj h] at hsuffix
    exact hsuffix
  outlook _ := outlook_spacedDigits flags le_rfl le_rfl

lemma steady_countNumber? (flags : Flags) : Steady Past (countNumber? flags) := by
  have hvalue : ∀ digits : List Char, Steady Past fun rest =>
      if digits.isEmpty then some (none, rest)
      else if Decimal.valueOf digits < Nat.pow 2 32 then
        some (some (Decimal.valueOf digits), rest) else none :=
    fun _ => .ite (.pure _) (.ite (.pure _) .none)
  exact ((steady_spacedDigits flags).bind fun digits => (hvalue digits).dropping).dropping

/-- The end of a count, behind its numbers. -/
def countEnd? (least : Nat) (most : Option Nat) : Reader (Nat × Option Nat)
  | '}' :: rest => if least ≤ most.getD least then some ((least, most), rest) else none
  | _ => none

/-- The most times behind a comma, and the end of the count. -/
def countMost? (flags : Flags) (least : Nat) : Reader (Nat × Option Nat)
  | '}' :: rest => countEnd? least none ('}' :: rest)
  | cs => (countNumber? flags cs).bind fun found =>
    found.1.bind fun most => countEnd? least (some most) found.2

/-- A count behind its first number. -/
def countRest? (flags : Flags) (least : Nat) : Reader (Nat × Option Nat)
  | ',' :: rest => countMost? flags least (skip flags rest)
  | cs => countEnd? least (some least) cs

lemma counted?_eq (flags : Flags) (cs : List Char) :
    counted? flags cs = (countNumber? flags (skip flags cs)).bind fun found =>
      found.1.bind fun least => countRest? flags least found.2 := rfl

lemma steady_countEnd? (least : Nat) (most : Option Nat) : Steady Past (countEnd? least most) := by
  refine .prefixed ['}'] (by decide) (fun cs => rfl) (fun cs hcs => ?_) (.ite (.pure _) .none) .none
  rw [countEnd?]
  rintro rest rfl
  exact hcs ⟨rest, rfl⟩

lemma steady_countMost? (flags : Flags) (least : Nat) : Steady Past (countMost? flags least) := by
  refine .prefixed ['}'] (by decide) (fun cs => rfl) (fun cs hcs => ?_)
    (.ite (.pure _) .none) ((steady_countNumber? flags).bind fun second => .given second fun most =>
      steady_countEnd? least (some most))
  rw [countMost?]
  rintro rest rfl
  exact hcs ⟨rest, rfl⟩

lemma steady_countRest? (flags : Flags) (least : Nat) : Steady Past (countRest? flags least) := by
  refine .prefixed [','] (by decide) (fun cs => rfl) (fun cs hcs => ?_)
    ((steady_countMost? flags least).skipping flags) (steady_countEnd? least (some least))
  rw [countRest?]
  rintro rest rfl
  exact hcs ⟨rest, rfl⟩

lemma steady_counted? (flags : Flags) : Steady Past (counted? flags) :=
  ((steady_countNumber? flags).skipping flags).bind fun first => .given first fun least =>
    steady_countRest? flags least

lemma steady_marked (flags : Flags) (least : Nat) (most : Option Nat) :
    Steady Past fun cs => some (marked flags least most cs) := by
  refine .prefixed ['?'] (by decide) (fun cs => rfl) (fun cs hcs => ?_) (.pure _)
    (.pure ⟨least, most, flags.swapped⟩)
  rw [marked]
  rintro rest rfl
  exact hcs ⟨rest, rfl⟩

/-- **A repetition.** -/
lemma steady_repetition? (flags : Flags) (operator : Char) :
    Steady Past (repetition? flags operator) := by
  by_cases hmaybe : operator = '?'
  · exact hmaybe ▸ steady_marked flags 0 (some 1)
  by_cases hany : operator = '*'
  · exact hany ▸ steady_marked flags 0 none
  by_cases hmany : operator = '+'
  · exact hmany ▸ steady_marked flags 1 none
  by_cases hcount : operator = '{'
  · exact hcount ▸ (steady_counted? flags).bind fun count =>
      (steady_marked flags count.1 count.2).skipping flags
  have hnone : repetition? flags operator = fun _ => none := by
    funext rest
    rw [repetition?] <;> assumption
  exact hnone ▸ .none

/-! ## Characters by their code -/

lemma steady_fixedHex? (flags : Flags) (count value : Nat) :
    Steady Past (fixedHex? flags count value) := by
  induction count generalizing value with
  | zero => exact .known (charOf? value) id
  | succ count ih =>
      exact .cons rfl .refused fun c => .given (hexValue? c) fun digit => (ih _).skipping flags

/-- The end of a code in braces. -/
def hexEnd? (flags : Flags) (digits : List Char) : Reader Char := fun rest =>
  if digits.isEmpty then none
  else
    (digits.reverse.foldlM (fun value d => (hexValue? d).map (16 * value + ·)) 0).bind fun value =>
      (charOf? value).bind fun c => some (c, skip flags rest)

lemma steady_hexEnd? (flags : Flags) (digits : List Char) : Steady Past (hexEnd? flags digits) :=
  .ite .none (.given _ fun value => .given (charOf? value) fun c =>
    Steady.skipping (f := fun cs => some (c, cs)) flags (.pure c))

lemma bracedHex?_succ (flags : Flags) (steps : Nat) (digits cs : List Char) :
    bracedHex? flags (steps + 1) digits cs =
      match skip flags cs with
      | [] => none
      | c :: rest =>
        if c = '}' then hexEnd? flags digits rest
        else if (hexValue? c).isSome then bracedHex? flags steps (c :: digits) rest
        else none := rfl

lemma bracedHex?_suffix {flags : Flags} {steps : Nat} {digits cs rest : List Char} {c : Char}
    (h : bracedHex? flags steps digits cs = some (c, rest)) : rest <:+ cs := by
  induction steps generalizing digits cs with
  | zero => cases h
  | succ steps ih =>
      refine List.IsSuffix.trans ?_ (skip_suffix flags cs)
      rw [bracedHex?_succ] at h
      generalize skip flags cs = next at h ⊢
      cases next with
      | nil => cases h
      | cons d more =>
          refine List.IsSuffix.trans ?_ (List.suffix_cons d more)
          dsimp only at h
          split_ifs at h
          · exact (steady_hexEnd? flags digits).shortens h
          · exact ih h

lemma outlook_bracedHex? (flags : Flags) {steps more : Nat} {digits cs : List Char}
    (hsteps : cs.length < steps) (hmore : (cs ++ frameEnd).length < more) :
    Outlook Past (bracedHex? flags steps digits cs)
      (bracedHex? flags more digits (cs ++ frameEnd)) := by
  induction steps generalizing more digits cs with
  | zero => cases hsteps
  | succ steps ih =>
      obtain ⟨more, rfl⟩ := Nat.exists_eq_succ_of_ne_zero (Nat.ne_zero_of_lt hmore)
      have hskip := (skip_suffix flags cs).length_le
      rw [bracedHex?_succ, bracedHex?_succ]
      rcases skip_append flags cs with h | ⟨hcs, h⟩
      · rw [h]
        cases hnext : skip flags cs with
        | nil => exact .refused
        | cons c rest =>
            simp only [hnext, List.length_append, List.length_cons] at hskip hmore ih
            simp only [List.cons_append]
            split_ifs
            · exact (steady_hexEnd? flags digits).outlook rest
            · exact ih (by omega) (by omega)
            · exact .refused
      · rw [h, hcs]
        exact .refused

/-- A code in braces. -/
def bracedCode? (flags : Flags) : Reader Piece := fun rest =>
  (bracedHex? flags (rest.length + 1) [] rest).map fun found => (.char found.1 false, found.2)

lemma steady_bracedCode? (flags : Flags) : Steady Past (bracedCode? flags) := by
  have hcode : Steady Past fun rest => bracedHex? flags (rest.length + 1) [] rest :=
    ⟨bracedHex?_suffix, fun _ => outlook_bracedHex? flags (Nat.lt_succ_self _) (Nat.lt_succ_self _)⟩
  exact hcode.map fun c => Piece.char c false

/-- A code behind its letter: in braces, or of a fixed number of digits. -/
def code? (flags : Flags) (count : Nat) : Reader Piece
  | '{' :: rest => bracedCode? flags rest
  | cs => (fixedHex? flags count 0 cs).map fun found => (.char found.1 (count == 2), found.2)

lemma steady_code? (flags : Flags) (count : Nat) : Steady Past (code? flags count) := by
  refine .prefixed ['{'] (by decide) (fun cs => rfl) (fun cs hcs => ?_) (steady_bracedCode? flags)
    ((steady_fixedHex? flags count 0).map fun c => Piece.char c (count == 2))
  rw [code?]
  rintro rest rfl
  exact hcs ⟨rest, rfl⟩

lemma steady_hexEscape? (flags : Flags) (count : Nat) : Steady Past (hexEscape? flags count) :=
  ((steady_code? flags count).skipping flags).of_eq fun _ => rfl

end Regex

end DataShape
