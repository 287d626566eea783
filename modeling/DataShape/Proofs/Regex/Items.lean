import DataShape.Proofs.Regex.Pieces
import DataShape.Regex.Bracket

/-!
# Items of classes in front of the frame

A class in brackets wants a closing bracket, and the frame has none.  So an item may take from the
frame what it likes: the class that it stands in cannot be closed any more.

* `named?_append` — a named class, which takes nothing.
* `Unclosed` — what an item may leave behind.
* `steady_bracketItem?` — **an item**: a piece or a range.
-/

namespace DataShape

namespace Regex

/-! ## Named classes -/

/-- The name of a class behind its first colon. -/
def className? (negated : Bool) (cs : List Char) : Option (Bool × Ranges × List Char) :=
  match cs.dropWhile (· != ':') with
  | ':' :: ']' :: rest =>
    (namedClass? (String.ofList (cs.takeWhile (· != ':')))).map fun ranges =>
      (negated, ranges, rest)
  | _ => none

lemma className?_append (negated : Bool) (cs : List Char) :
    className? negated (cs ++ frameEnd) =
      (className? negated cs).map fun found => (found.1, found.2.1, found.2.2 ++ frameEnd) := by
  rw [className?, className?]
  by_cases hplain : ∀ c ∈ cs, (c != ':') = true
  · rw [List.dropWhile_append_of_pos hplain, List.dropWhile_eq_nil_iff.mpr hplain]
    rfl
  · obtain ⟨c, rest, hdrop, hc, hspan⟩ := span_append hplain
    obtain rfl : c = ':' := by simpa using hc
    rw [hdrop, (hspan frameEnd).1, (hspan frameEnd).2]
    match rest with
    | [] => rfl
    | d :: more =>
        by_cases hd : d = ']'
        · subst hd
          cases namedClass? (String.ofList (cs.takeWhile (· != ':'))) <;> rfl
        · simp [hd]

/-- Whether an accent negates a class, and the text behind it. -/
def accent (cs : List Char) : Bool × List Char :=
  match cs with
  | '^' :: rest => (true, rest)
  | _ => (false, cs)

lemma accent_plain {cs : List Char} (h : ¬ ['^'] <+: cs) : accent cs = (false, cs) := by
  rw [accent]
  rintro rest rfl
  exact h ⟨rest, rfl⟩

lemma accent_suffix (cs : List Char) : (accent cs).2 <:+ cs := by
  by_cases h : ['^'] <+: cs
  · obtain ⟨rest, rfl⟩ := h
    exact List.suffix_cons '^' rest
  · rw [accent_plain h]

lemma accent_append (cs : List Char) :
    accent (cs ++ frameEnd) = ((accent cs).1, (accent cs).2 ++ frameEnd) := by
  by_cases h : ['^'] <+: cs
  · obtain ⟨rest, rfl⟩ := h
    rfl
  · rw [accent_plain h, accent_plain (mt (Steady.prefix_append_iff (by decide) cs).mp h)]

lemma named?_colon (cs : List Char) :
    named? (':' :: cs) = className? (accent cs).1 (accent cs).2 := rfl

lemma named?_of_not_colon {cs : List Char} (h : ¬ [':'] <+: cs) : named? cs = none := by
  rw [named?]
  rintro rest rfl
  exact h ⟨rest, rfl⟩

/-- **A named class** is read without the frame, if at all. -/
lemma named?_append (cs : List Char) :
    named? (cs ++ frameEnd) =
      (named? cs).map fun found => (found.1, found.2.1, found.2.2 ++ frameEnd) := by
  by_cases hcolon : [':'] <+: cs
  · obtain ⟨rest, rfl⟩ := hcolon
    rw [List.append_assoc, List.singleton_append, List.singleton_append, named?_colon,
      named?_colon, accent_append]
    exact className?_append _ _
  · rw [named?_of_not_colon hcolon,
      named?_of_not_colon (mt (Steady.prefix_append_iff (by decide) cs).mp hcolon)]
    rfl

lemma named?_suffix {cs rest : List Char} {negated : Bool} {ranges : Ranges}
    (h : named? cs = some (negated, ranges, rest)) : rest <:+ cs := by
  by_cases hcolon : [':'] <+: cs
  · obtain ⟨more, rfl⟩ := hcolon
    rw [List.singleton_append, named?_colon, className?] at h
    split at h
    next behind hdrop =>
      obtain ⟨ranges, -, hrest⟩ := Option.map_eq_some_iff.mp h
      cases hrest
      have hbehind : rest <:+ ':' :: ']' :: rest := ⟨[':', ']'], rfl⟩
      rw [← hdrop] at hbehind
      exact ((hbehind.trans (List.dropWhile_suffix _)).trans (accent_suffix more)).trans
        (List.suffix_cons ':' more)
    next => cases h
  · rw [named?_of_not_colon hcolon] at h
    cases h

/-! ## Items -/

/-- A class cannot be closed any more. -/
def Unclosed {α : Type} (_ : α) (rest : List Char) : Prop := ']' ∉ rest

lemma Past.unclosed {α β : Type} {x : α} {rest : List Char} (h : Past x rest) (y : β) :
    Unclosed y rest := fun hmem => absurd (List.IsSuffix.subset h hmem) (by decide)

lemma bracketPiece?_plain (flags : Flags) {c : Char} (h : c ≠ '\\') (rest : List Char) :
    bracketPiece? flags (c :: rest) = some (.char c false, rest) := by
  rw [bracketPiece?]
  exact h

/-- **A piece** inside brackets. -/
lemma steady_bracketPiece? (flags : Flags) :
    Steady (Astray flags (.check .wordBoundary)) (bracketPiece? flags) := by
  refine .cons rfl (.broken (.inl List.suffix_rfl)) fun c => ?_
  by_cases hc : c = '\\'
  · exact hc ▸ steady_escape? flags
  · exact (Steady.pure (Piece.char c false)).of_eq (bracketPiece?_plain flags hc)

lemma bracketPiece?_length {flags : Flags} {cs rest : List Char} {piece : Piece}
    (h : bracketPiece? flags cs = some (piece, rest)) : rest.length < cs.length := by
  cases cs with
  | nil => cases h
  | cons c more =>
      refine Nat.lt_succ_of_le ?_
      by_cases hc : c = '\\'
      · subst hc
        exact ((steady_escape? flags).shortens h).length_le
      · rw [bracketPiece?_plain flags hc] at h
        cases h
        exact le_rfl

/-- A minus sign makes no range of what stands before it. -/
def endsItem (flags : Flags) (rest : List Char) : Bool :=
  peekAhead flags rest == some ']' || peekAhead flags rest == some '-'

/-- What the next character is does not matter to what ends an item if it is a blank or the mark of
a comment. -/
lemma head?_of_blank {cs : List Char} (h : cs.dropWhile Text.isBlank = [] ∨
    ∃ rest, cs.dropWhile Text.isBlank = '#' :: rest) :
    cs.head? ≠ some ']' ∧ cs.head? ≠ some '-' := by
  cases cs with
  | nil => exact ⟨nofun, nofun⟩
  | cons c rest =>
      cases hc : Text.isBlank c with
      | true =>
          constructor
          all_goals
            intro hhead
            obtain rfl := Option.some.inj hhead
            exact absurd hc (by decide)
      | false =>
          rw [List.dropWhile_cons_of_neg (by rw [hc]; exact Bool.false_ne_true)] at h
          rcases h with h | ⟨rest, h⟩
          · cases h
          · cases h
            exact ⟨by simp, by simp⟩

lemma endsItem_append (flags : Flags) (cs : List Char) :
    endsItem flags (cs ++ frameEnd) = endsItem flags cs := by
  rw [endsItem, endsItem, peekAhead, peekAhead]
  split_ifs
  · rw [dropBlanks_append]
    rcases hdrop : cs.dropWhile Text.isBlank with _ | ⟨c, rest⟩
    · obtain ⟨hbracket, hminus⟩ := head?_of_blank (.inl hdrop)
      simp [frameEnd, hbracket, hminus]
    · by_cases hc : c = '#'
      · subst hc
        obtain ⟨hbracket, hminus⟩ := head?_of_blank (.inr ⟨rest, hdrop⟩)
        simp only [List.cons_append, dropBlanks_append]
        cases rest.dropWhile Text.isBlank <;> simp [frameEnd, hbracket, hminus]
      · simp [hc]
  · cases cs <;> simp [frameEnd]

/-- The end of a range. -/
def rangeEnd? (flags : Flags) (low : Piece) : Reader CharSet := fun rest =>
  (bracketPiece? flags (skip flags rest)).bind fun high =>
    (low.bracketChar? flags).bind fun first =>
      (high.1.bracketChar? flags).bind fun last =>
        if first.toNat ≤ last.toNat then some (.range first.toNat last.toNat, high.2) else none

lemma steady_rangeEnd? (flags : Flags) (low : Piece) : Steady Unclosed (rangeEnd? flags low) := by
  have hlast : ∀ high : Piece, Steady Unclosed fun rest : List Char =>
      (low.bracketChar? flags).bind fun first => (high.bracketChar? flags).bind fun last =>
        if first.toNat ≤ last.toNat then some (CharSet.range first.toNat last.toNat, rest)
        else none :=
    fun high => .given _ fun first => .given _ fun last => .ite (.pure _) .none
  have hhigh := (steady_bracketPiece? flags).skipping flags
  refine hhigh.bindOf hlast fun high rest hlost set more h => ?_
  rcases hlost with hpast | ⟨rfl, -⟩
  · exact fun hmem => hpast.unclosed set (((hlast high).shortens h).subset hmem)
  · cases hfirst : low.bracketChar? flags <;> rw [hfirst] at h <;> cases h

/-- An item behind its first piece. -/
def itemEnd? (flags : Flags) (low : Piece) : Reader CharSet
  | [] => none
  | '-' :: rest =>
    if endsItem flags rest then (low.toCharSet? flags).map fun set => (set, '-' :: rest)
    else rangeEnd? flags low rest
  | rest => (low.toCharSet? flags).map fun set => (set, rest)

lemma bracketItem?_eq (flags : Flags) (cs : List Char) :
    bracketItem? flags cs = (bracketPiece? flags cs).bind fun low =>
      itemEnd? flags low.1 (skip flags low.2) := rfl

lemma itemEnd?_minus (flags : Flags) (low : Piece) (rest : List Char) :
    itemEnd? flags low ('-' :: rest) =
      if endsItem flags rest then (low.toCharSet? flags).map fun set => (set, '-' :: rest)
      else rangeEnd? flags low rest := rfl

lemma itemEnd?_plain (flags : Flags) (low : Piece) {c : Char} (h : c ≠ '-') (rest : List Char) :
    itemEnd? flags low (c :: rest) = (low.toCharSet? flags).map fun set => (set, c :: rest) := by
  rw [itemEnd?]
  · exact List.cons_ne_nil c rest
  · exact fun _ hcons => h (List.cons.inj hcons).1

lemma steady_itemEnd? (flags : Flags) (low : Piece) : Steady Unclosed (itemEnd? flags low) := by
  have hsingle : Steady Unclosed fun rest : List Char =>
      (low.toCharSet? flags).map fun set => (set, rest) := .known _ id
  constructor
  · intro cs x rest h
    cases cs with
    | nil => cases h
    | cons c more =>
        by_cases hc : c = '-'
        · subst hc
          rw [itemEnd?_minus] at h
          split_ifs at h
          · exact hsingle.shortens h
          · exact ((steady_rangeEnd? flags low).shortens h).trans (List.suffix_cons '-' more)
        · rw [itemEnd?_plain flags low hc] at h
          exact hsingle.shortens h
  · intro cs
    cases cs with
    | nil =>
        rw [List.nil_append, frameEnd, itemEnd?_plain flags low (by decide)]
        cases low.toCharSet? flags with
        | none => exact .refused
        | some set => exact .broken (show ']' ∉ frameEnd by decide)
    | cons c more =>
        rw [List.cons_append]
        by_cases hc : c = '-'
        · subst hc
          rw [itemEnd?_minus, itemEnd?_minus, endsItem_append]
          split_ifs
          · exact hsingle.outlook ('-' :: more)
          · exact (steady_rangeEnd? flags low).outlook more
        · rw [itemEnd?_plain flags low hc, itemEnd?_plain flags low hc]
          exact hsingle.outlook (c :: more)

/-- A check is no item. -/
lemma itemEnd?_check (flags : Flags) (sign : CheckSign) (cs : List Char) :
    itemEnd? flags (.check sign) cs = none := by
  cases cs with
  | nil => rfl
  | cons c rest =>
      by_cases hc : c = '-'
      · subst hc
        rw [itemEnd?_minus]
        split_ifs
        · rfl
        · rw [rangeEnd?]
          cases bracketPiece? flags (skip flags rest) <;> rfl
      · rw [itemEnd?_plain flags _ hc]
        rfl

/-- **An item** inside brackets. -/
lemma steady_bracketItem? (flags : Flags) : Steady Unclosed (bracketItem? flags) := by
  have hend := fun low => (steady_itemEnd? flags low).skipping flags
  refine (steady_bracketPiece? flags).bindOf hend fun low rest hlost set more h => ?_
  rcases hlost with hpast | ⟨rfl, -⟩
  · exact fun hmem => hpast.unclosed set (((hend low).shortens h).subset hmem)
  · rw [itemEnd?_check] at h
    cases h

lemma bracketItem?_length {flags : Flags} {cs rest : List Char} {set : CharSet}
    (h : bracketItem? flags cs = some (set, rest)) : rest.length < cs.length := by
  rw [bracketItem?_eq] at h
  obtain ⟨low, hlow, hset⟩ := Option.bind_eq_some_iff.mp h
  exact (((steady_itemEnd? flags low.1).skipping flags).shortens hset).length_le.trans_lt
    (bracketPiece?_length hlow)

end Regex

end DataShape
