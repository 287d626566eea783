import Mathlib.Tactic.Common
import DataShape.Path.Dotted

/-!
# Reading dotted text

The dotted text of a path does not show which steps are positions, so what is read from it need not
be the path itself.  To look a place up this does no harm, as a report knows places by the names of
their steps; but the names have to be right.  They are not if the text as a whole stands for the
root, if a point in a key cuts it in two, and if a key is taken for a position that is written in
another way: a number may have a plus sign and zeros in front of its digits when it is read, and
never has when it is written, so that `idx_+01` comes back as `idx_1`.  In all other cases they are
right, also for keys that look like a position.

* `Decimal.exists_zeros_iff` — digits spell a number if they are its own, after some zeros.
* `Path.word?_eq_some_iff` — the texts that are read as a 64-bit number.
* `Path.Crooked` — the names of positions in another spelling.
* `Path.Legible` — the paths whose text can be read.
* `Path.render_ofDotted_text_iff` — **the names of just these paths are read back.**
-/

namespace DataShape

/-! ## Numbers in digits -/

namespace Decimal

lemma valueOf_eq (digits : List Char) : valueOf digits = Nat.ofDigitChars 10 digits 0 :=
  Nat.ofDigitChars_eq_foldl.symm

/-- The value of a digit is below ten, and the digit is the one of this value. -/
lemma digitChar_value {c : Char} (h : c.isDigit = true) :
    c.toNat - '0'.toNat < 10 ∧ (c.toNat - '0'.toNat).digitChar = c := by
  rw [Char.isDigit, Bool.and_eq_true, decide_eq_true_iff, decide_eq_true_iff] at h
  have hlow : 48 ≤ c.toNat := h.1
  have hhigh : c.toNat ≤ 57 := h.2
  have hlt : c.toNat - '0'.toNat < 10 := by
    rw [show '0'.toNat = 48 from rfl]
    omega
  refine ⟨hlt, Char.toNat_inj.mp ?_⟩
  rw [Nat.toNat_digitChar_of_lt_ten hlt, show '0'.toNat = 48 from rfl]
  omega

/-- More digits after those of a number that is not zero. -/
lemma digitsOf_append {n : Nat} {digits : List Char} (hn : 0 < n)
    (h : ∀ c ∈ digits, c.isDigit = true) :
    digitsOf n ++ digits = digitsOf (Nat.ofDigitChars 10 digits n) := by
  induction digits generalizing n with
  | nil => rw [List.append_nil, Nat.ofDigitChars_nil]
  | cons c rest ih =>
      obtain ⟨hlt, hc⟩ := digitChar_value (h c List.mem_cons_self)
      have hnext : digitsOf n ++ [c] = digitsOf (10 * n + (c.toNat - '0'.toNat)) := by
        rw [digitsOf, digitsOf, ← Nat.toDigits_append_toDigits (by decide) hn hlt,
          Nat.toDigits_of_lt_base hlt, hc]
      rw [List.append_cons, hnext, ih (by omega) fun d hd => h d (List.mem_cons_of_mem c hd),
        Nat.ofDigitChars_cons]

/-- Digits are those of the number that they spell, after some zeros. -/
lemma exists_zeros {digits : List Char} (hne : digits ≠ [])
    (h : ∀ c ∈ digits, c.isDigit = true) :
    ∃ zeros, digits = List.replicate zeros '0' ++ digitsOf (valueOf digits) := by
  rw [valueOf_eq]
  induction digits with
  | nil => exact absurd rfl hne
  | cons c rest ih =>
      have hrest : ∀ d ∈ rest, d.isDigit = true := fun d hd => h d (List.mem_cons_of_mem c hd)
      obtain ⟨hlt, hc⟩ := digitChar_value (h c List.mem_cons_self)
      rw [Nat.ofDigitChars_cons, Nat.mul_zero, Nat.zero_add]
      by_cases hzero : c = '0'
      · subst hzero
        rw [Nat.sub_self]
        by_cases hlast : rest = []
        · exact ⟨0, by rw [hlast]; rfl⟩
        · obtain ⟨zeros, hzeros⟩ := ih hlast hrest
          exact ⟨zeros + 1, congrArg ('0' :: ·) hzeros⟩
      · have hpos : 0 < c.toNat - '0'.toNat := by
          refine Nat.pos_of_ne_zero fun hvalue => hzero ?_
          rw [← hc, hvalue]
          rfl
        refine ⟨0, ?_⟩
        rw [← digitsOf_append hpos hrest, digitsOf, Nat.toDigits_of_lt_base hlt, hc]
        rfl

lemma valueOf_zeros_append (zeros n : Nat) :
    valueOf (List.replicate zeros '0' ++ digitsOf n) = n := by
  rw [valueOf_eq, Nat.ofDigitChars_append, Nat.ofDigitChars_replicate_zero, Nat.mul_zero, digitsOf,
    Nat.ofDigitChars_ten_toDigits]

lemma isDigit_of_mem_digitsOf {n : Nat} {c : Char} (h : c ∈ digitsOf n) : c.isDigit = true :=
  Nat.isDigit_of_mem_toDigits (by decide) (by decide) h

lemma isDigit_of_mem_zeros_append {zeros n : Nat} {c : Char}
    (h : c ∈ List.replicate zeros '0' ++ digitsOf n) : c.isDigit = true := by
  rcases List.mem_append.mp h with h | h
  · rw [List.eq_of_mem_replicate h]
    rfl
  · exact isDigit_of_mem_digitsOf h

/-- **Digits spell a number exactly if they are its own**, after some zeros. -/
lemma exists_zeros_iff {digits : List Char} {n : Nat} :
    (∃ zeros, digits = List.replicate zeros '0' ++ digitsOf n) ↔
      digits ≠ [] ∧ (∀ c ∈ digits, c.isDigit = true) ∧ valueOf digits = n := by
  constructor
  · rintro ⟨zeros, rfl⟩
    refine ⟨List.append_ne_nil_of_right_ne_nil _ Nat.toDigits_ne_nil, ?_, ?_⟩
    · exact fun c hc => isDigit_of_mem_zeros_append hc
    · exact valueOf_zeros_append zeros n
  · rintro ⟨hne, hdigits, rfl⟩
    exact exists_zeros hne hdigits

end Decimal

/-! ## Names that are read as positions -/

lemma Segment.toList_text_index (position : Nat) :
    (Segment.index position).text.toList = dottedMark.toList ++ Decimal.digitsOf position := by
  rw [text, render, String.toList_append, Decimal.integerText, String.toList_ofList,
    Decimal.integerChars, if_neg (by omega), Int.natAbs_natCast]

namespace Path

/-- What may stand in front of the digits of a number that is read: a plus sign, and zeros. -/
def padding (sign : Bool) (zeros : Nat) : List Char :=
  (if sign then ['+'] else []) ++ List.replicate zeros '0'

/-- A text without the plus sign in front of it, if there is one. -/
def unsigned (cs : List Char) : List Char :=
  match cs with
  | '+' :: rest => rest
  | _ => cs

lemma exists_padding_iff {cs : List Char} {n : Nat} :
    (∃ sign zeros, cs = padding sign zeros ++ Decimal.digitsOf n) ↔
      ∃ zeros, unsigned cs = List.replicate zeros '0' ++ Decimal.digitsOf n := by
  have hplain : ∀ zeros, unsigned (List.replicate zeros '0' ++ Decimal.digitsOf n) =
      List.replicate zeros '0' ++ Decimal.digitsOf n := by
    intro zeros
    rw [unsigned.eq_def]
    split
    next rest h =>
      have hplus : '+' ∈ List.replicate zeros '0' ++ Decimal.digitsOf n := by
        rw [h]
        exact List.mem_cons_self
      exact absurd (Decimal.isDigit_of_mem_zeros_append hplus) (by decide)
    next => rfl
  constructor
  · rintro ⟨sign, zeros, rfl⟩
    cases sign with
    | true => exact ⟨zeros, rfl⟩
    | false => exact ⟨zeros, hplain zeros⟩
  · rintro ⟨zeros, h⟩
    rw [unsigned.eq_def] at h
    split at h
    next rest => exact ⟨true, zeros, congrArg ('+' :: ·) h⟩
    next => exact ⟨false, zeros, h⟩

/-- The texts that are read as a 64-bit number are its digits, which may be padded. -/
lemma word?_eq_some_iff {cs : List Char} {n : Nat} :
    word? cs = some n ↔
      n < Nat.pow 2 64 ∧ ∃ sign zeros, cs = padding sign zeros ++ Decimal.digitsOf n := by
  have hword : word? cs = if (unsigned cs).isEmpty || !(unsigned cs).all Char.isDigit then none
      else if Decimal.valueOf (unsigned cs) < Nat.pow 2 64 then some (Decimal.valueOf (unsigned cs))
      else none := rfl
  rw [hword, exists_padding_iff, Decimal.exists_zeros_iff, Option.ite_none_left_eq_some,
    Option.ite_none_right_eq_some, Option.some_inj, Bool.or_eq_true, not_or, List.isEmpty_iff,
    Bool.not_eq_true', Bool.not_eq_false, List.all_eq_true]
  constructor
  · rintro ⟨⟨hne, hall⟩, hlt, rfl⟩
    exact ⟨hlt, hne, hall, rfl⟩
  · rintro ⟨hlt, hne, hall, rfl⟩
    exact ⟨⟨hne, hall⟩, hlt, rfl⟩

lemma afterMark?_eq_some_iff {cs rest : List Char} :
    afterMark? cs = some rest ↔ cs = Segment.dottedMark.toList ++ rest := by
  rw [show Segment.dottedMark.toList = ['i', 'd', 'x', '_'] from rfl, afterMark?.eq_def]
  constructor
  · intro h
    split at h
    next => rw [Option.some_inj.mp h]; rfl
    next => cases h
  · rintro rfl
    rfl

/-- A piece is read as a position if it is the mark with a number after it, which may be padded. -/
lemma segmentOf_eq_index_iff {piece : List Char} {n : Nat} :
    segmentOf piece = .index n ↔ n < Nat.pow 2 64 ∧ ∃ sign zeros,
      piece = Segment.dottedMark.toList ++ (padding sign zeros ++ Decimal.digitsOf n) := by
  have hread : segmentOf piece = .index n ↔ (afterMark? piece).bind word? = some n := by
    rw [segmentOf]
    cases (afterMark? piece).bind word? <;> simp
  rw [hread, Option.bind_eq_some_iff]
  constructor
  · rintro ⟨rest, hrest, hn⟩
    obtain ⟨hlt, sign, zeros, rfl⟩ := word?_eq_some_iff.mp hn
    exact ⟨hlt, sign, zeros, afterMark?_eq_some_iff.mp hrest⟩
  · rintro ⟨hlt, sign, zeros, rfl⟩
    exact ⟨_, afterMark?_eq_some_iff.mpr rfl, word?_eq_some_iff.mpr ⟨hlt, sign, zeros, rfl⟩⟩

lemma toList_of_segmentOf_eq_key {piece : List Char} {key : String}
    (h : segmentOf piece = .key key) : key.toList = piece := by
  rw [segmentOf] at h
  split at h
  next => cases h
  next => rw [← Segment.key.inj h, String.toList_ofList]

/-- The name is the mark of positions with a number after it, but the number is padded. -/
def Crooked (name : String) : Prop :=
  ∃ sign zeros position, position < Nat.pow 2 64 ∧ padding sign zeros ≠ [] ∧
    name.toList = Segment.dottedMark.toList ++ (padding sign zeros ++ Decimal.digitsOf position)

/-- A name is read as a step of another name exactly if it is crooked. -/
theorem text_segmentOf_iff (name : String) :
    (segmentOf name.toList).text = name ↔ ¬ Crooked name := by
  constructor
  · rintro hsame ⟨sign, zeros, position, hlt, hpadding, hname⟩
    rw [segmentOf_eq_index_iff.mpr ⟨hlt, sign, zeros, hname⟩] at hsame
    rw [← hsame, Segment.toList_text_index, List.append_cancel_left_eq] at hname
    exact hpadding (List.append_left_eq_self.mp hname.symm)
  · intro hstraight
    cases hread : segmentOf name.toList with
    | key key => exact String.toList_inj.mp (toList_of_segmentOf_eq_key hread)
    | index position =>
        obtain ⟨hlt, sign, zeros, hname⟩ := segmentOf_eq_index_iff.mp hread
        have hpadding : padding sign zeros = [] := by
          by_contra hne
          exact hstraight ⟨sign, zeros, position, hlt, hne, hname⟩
        rw [← String.toList_inj, hname, hpadding, Segment.toList_text_index, List.nil_append]

lemma not_crooked_index (position : Nat) : ¬ Crooked (Segment.index position).text := by
  rintro ⟨sign, zeros, other, -, hpadding, hname⟩
  rw [Segment.toList_text_index, List.append_cancel_left_eq] at hname
  cases sign with
  | true =>
      have hplus : '+' ∈ Decimal.digitsOf position := by
        rw [hname]
        exact List.mem_cons_self
      exact absurd (Decimal.isDigit_of_mem_digitsOf hplus) (by decide)
  | false =>
      have hvalue := congrArg Decimal.valueOf hname
      have hsame : position = other := (Decimal.valueOf_zeros_append 0 position).symm.trans
        (hvalue.trans (Decimal.valueOf_zeros_append zeros other))
      rw [← hsame] at hname
      exact hpadding (List.append_left_eq_self.mp hname.symm)

/-! ## Texts that are cut at points -/

lemma pieces_ne_nil (cs : List Char) : pieces cs ≠ [] := by
  cases cs with
  | nil => exact List.cons_ne_nil _ _
  | cons c rest =>
      rw [pieces]
      split_ifs
      · exact List.cons_ne_nil _ _
      · split <;> exact List.cons_ne_nil _ _

lemma pieces_cons (c : Char) (rest : List Char) :
    pieces (c :: rest) =
      if c = '.' then [] :: pieces rest else (pieces rest).modifyHead (c :: ·) := by
  rw [pieces]
  split_ifs
  · rfl
  · cases h : pieces rest with
    | nil => exact absurd h (pieces_ne_nil rest)
    | cons piece more => rfl

lemma pieces_eq_splitOn (cs : List Char) : pieces cs = cs.splitOn '.' := by
  induction cs with
  | nil => rw [pieces, List.splitOn_nil]
  | cons c rest ih => simp only [pieces_cons, List.splitOn_cons_eq_if_modifyHead, ih, beq_iff_eq]

lemma point_not_mem_piece {cs piece : List Char} (h : piece ∈ pieces cs) : '.' ∉ piece := by
  induction cs generalizing piece with
  | nil =>
      rw [List.mem_singleton.mp h]
      exact List.not_mem_nil
  | cons c rest ih =>
      rw [pieces_cons] at h
      split_ifs at h with hpoint
      · rcases List.mem_cons.mp h with rfl | h
        · exact List.not_mem_nil
        · exact ih h
      · obtain ⟨first, more, hpieces⟩ := List.exists_cons_of_ne_nil (pieces_ne_nil rest)
        rw [hpieces] at ih h
        rcases List.mem_cons.mp h with rfl | h
        · rw [List.mem_cons, not_or]
          exact ⟨Ne.symm hpoint, ih List.mem_cons_self⟩
        · exact ih (List.mem_cons_of_mem first h)

/-- Names without points are the pieces of the text that has points between them. -/
lemma pieces_joinDotted {names : List String} (hne : names ≠ [])
    (hwhole : ∀ name ∈ names, '.' ∉ name.toList) :
    pieces (joinDotted names).toList = names.map String.toList := by
  rw [pieces_eq_splitOn, joinDotted, String.toList_intercalate]
  refine List.splitOn_intercalate '.' (fun piece hpiece => ?_) (mt List.map_eq_nil_iff.mp hne)
  obtain ⟨name, hname, rfl⟩ := List.mem_map.mp hpiece
  exact hwhole name hname

lemma point_not_mem_index (position : Nat) : '.' ∉ (Segment.index position).text.toList := by
  rw [Segment.toList_text_index, List.mem_append, not_or]
  refine ⟨by decide, fun hpoint => ?_⟩
  exact absurd (Decimal.isDigit_of_mem_digitsOf hpoint) (by decide)

/-! ## Paths that are read back -/

/-- The text of the path shows the names of its steps. -/
structure Legible (p : Path) : Prop where
  /-- No key is cut in two. -/
  whole : ∀ key, .key key ∈ p → '.' ∉ key.toList
  /-- No key is taken for a position of another name. -/
  straight : ∀ key, .key key ∈ p → ¬ Crooked key
  /-- The text does not stand for the root. -/
  shown : p ≠ [.key ""] ∧ p ≠ [.key rootText]

lemma forall_step_iff {P : Segment → Prop} (p : Path) :
    (∀ step ∈ p, P step) ↔
      (∀ position, .index position ∈ p → P (.index position)) ∧
        ∀ key, .key key ∈ p → P (.key key) := by
  constructor
  · exact fun h => ⟨fun position => h (.index position), fun key => h (.key key)⟩
  · rintro ⟨hpositions, hkeys⟩ step hstep
    cases step with
    | key key => exact hkeys key hstep
    | index position => exact hpositions position hstep

/-- What holds of the names of all positions has to be asked of the keys only. -/
lemma forall_text_iff {P : String → Prop} (h : ∀ position, P (Segment.index position).text)
    (p : Path) : (∀ step ∈ p, P step.text) ↔ ∀ key, .key key ∈ p → P key :=
  (forall_step_iff p).trans (and_iff_right fun position _ => h position)

lemma point_not_mem_text_segmentOf {piece : List Char} (h : '.' ∉ piece) :
    '.' ∉ (segmentOf piece).text.toList := by
  cases hread : segmentOf piece with
  | key key => exact (toList_of_segmentOf_eq_key hread).symm ▸ h
  | index position => exact point_not_mem_index position

lemma pieces_text {p : Path} (hp : p ≠ []) (hpoints : ∀ step ∈ p, '.' ∉ step.text.toList) :
    pieces p.text.toList = p.map fun step => step.text.toList := by
  have htext : p.text = joinDotted (p.map Segment.text) := if_neg (by simpa using hp)
  rw [htext, pieces_joinDotted (mt List.map_eq_nil_iff.mp hp) (by simpa using hpoints),
    List.map_map]
  rfl

/-- Of the legible paths only the root has a text that stands for the root. -/
lemma Legible.eq_nil {p : Path} (h : p.Legible) (htext : p.text = "" ∨ p.text = rootText) :
    p = [] := by
  by_contra hp
  have hpieces := pieces_text hp ((forall_text_iff point_not_mem_index p).mpr h.whole)
  have hsingle : pieces p.text.toList = [p.text.toList] := by
    rcases htext with htext | htext <;> rw [htext] <;> rfl
  obtain ⟨step, rfl, hstep⟩ := List.map_eq_singleton_iff.mp (hpieces.symm.trans hsingle)
  cases step with
  | key key =>
      rcases htext with htext | htext
      · exact h.shown.1 (congrArg (fun name => [Segment.key name]) htext)
      · exact h.shown.2 (congrArg (fun name => [Segment.key name]) htext)
  | index position =>
      rw [Segment.toList_text_index] at hstep
      rcases htext with htext | htext <;> rw [htext] at hstep <;> cases hstep

lemma ofDotted_of_ne {s : String} (h : ¬ (s = "" ∨ s = rootText)) :
    ofDotted s = (pieces s.toList).map segmentOf := if_neg h

/-- The text of a legible path is read step by step. -/
lemma Legible.ofDotted_text {p : Path} (h : p.Legible) :
    ofDotted p.text = p.map fun step => segmentOf step.text.toList := by
  by_cases hp : p = []
  · subst hp
    exact if_pos (.inr rfl)
  · have hpoints := (forall_text_iff point_not_mem_index p).mpr h.whole
    rw [ofDotted_of_ne (mt h.eq_nil hp), pieces_text hp hpoints, List.map_map]
    rfl

/-- A path whose names are read back is legible. -/
lemma legible_of_render_eq {p : Path}
    (h : (ofDotted p.text).render Segment.dottedMark = p.render Segment.dottedMark) :
    p.Legible := by
  by_cases hp : p = []
  · subst hp
    exact ⟨by simp, by simp, by simp⟩
  have hroot : ¬ (p.text = "" ∨ p.text = rootText) := by
    intro hroot
    rw [ofDotted, if_pos hroot] at h
    exact hp (List.map_eq_nil_iff.mp h.symm)
  have hread : (ofDotted p.text).render Segment.dottedMark =
      (pieces p.text.toList).map fun piece => (segmentOf piece).text := by
    rw [ofDotted_of_ne hroot, render, List.map_map]
    rfl
  rw [hread] at h
  have hpoints : ∀ step ∈ p, '.' ∉ step.text.toList := by
    intro step hstep
    have hname : step.text ∈ p.render Segment.dottedMark := List.mem_map_of_mem hstep
    rw [← h] at hname
    obtain ⟨piece, hpiece, hname⟩ := List.mem_map.mp hname
    rw [← hname]
    exact point_not_mem_text_segmentOf (point_not_mem_piece hpiece)
  rw [pieces_text hp hpoints, render, List.map_map, List.map_inj_left] at h
  have hstraight : ∀ step ∈ p, ¬ Crooked step.text :=
    fun step hstep => (text_segmentOf_iff step.text).mp (h step hstep)
  refine ⟨(forall_text_iff (P := fun name => '.' ∉ name.toList) point_not_mem_index p).mp hpoints,
    (forall_text_iff not_crooked_index p).mp hstraight, ?_, ?_⟩
  · rintro rfl
    exact hroot (.inl rfl)
  · rintro rfl
    exact hroot (.inr rfl)

/-- **The names of a path are read back from its text exactly if it is legible.** -/
theorem render_ofDotted_text_iff (p : Path) :
    (ofDotted p.text).render Segment.dottedMark = p.render Segment.dottedMark ↔ p.Legible := by
  refine ⟨legible_of_render_eq, fun h => ?_⟩
  rw [h.ofDotted_text, render, render, List.map_map, List.map_inj_left]
  exact fun step hstep => (text_segmentOf_iff step.text).mpr
    ((forall_text_iff not_crooked_index p).mpr h.straight step hstep)

end Path

end DataShape
