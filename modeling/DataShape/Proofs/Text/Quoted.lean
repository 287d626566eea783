import Mathlib.Tactic.Common
import DataShape.Numeric.Decimal
import DataShape.Text.Quoted

/-!
# Where quoted text and integers end

A text between quotes says by itself where it ends: no quote stands in it without an escape, and
every escape says where it ends.  So whatever comes behind a quoted text, the text can be told from
the characters, and so can what comes behind.  An integer needs one thing more, that no digit comes
behind it.

* `Text.EndsNumber` — what may come behind a number.
* `Decimal.integerChars_append_inj` — **an integer can be told from what comes behind.**
* `Text.quoteChars_append_inj` — **so can a quoted text.**
-/

namespace DataShape

/-! ## Digits -/

namespace Text

/-- Characters of one sort can be told from what comes behind them, if that begins with a character
of another sort. -/
lemma append_inj_of_sort {p : Char → Bool} {front other rest more : List Char}
    (hfront : ∀ c ∈ front, p c = true) (hother : ∀ c ∈ other, p c = true)
    (hrest : ∀ c ∈ rest.head?, p c = false) (hmore : ∀ c ∈ more.head?, p c = false)
    (h : front ++ rest = other ++ more) : front = other ∧ rest = more := by
  have htake : ∀ {cs tail : List Char}, (∀ c ∈ cs, p c = true) → (∀ c ∈ tail.head?, p c = false) →
      (cs ++ tail).takeWhile p = cs := by
    intro cs tail hcs htail
    rw [List.takeWhile_append_of_pos hcs]
    cases tail with
    | nil => simp
    | cons c tail => simp [htail c rfl]
  have hsame : front = other := by rw [← htake hfront hrest, h, htake hother hmore]
  subst hsame
  exact ⟨rfl, List.append_cancel_left h⟩

/-- What may come behind a number: no digit, at least not at once. -/
def EndsNumber (rest : List Char) : Prop := ∀ c ∈ rest.head?, c.isDigit = false

lemma endsNumber_nil : EndsNumber [] := nofun

lemma endsNumber_cons {c : Char} (h : c.isDigit = false) (rest : List Char) :
    EndsNumber (c :: rest) := by
  rintro _ ⟨⟩
  exact h

end Text

namespace Decimal

lemma digitChar_injective {d e : Nat} (hd : d < 16) (he : e < 16)
    (h : d.digitChar = e.digitChar) : d = e := by
  have hall : ∀ d e : Fin 16, Nat.digitChar d = Nat.digitChar e → d = e := by decide
  exact Fin.mk.inj (hall ⟨d, hd⟩ ⟨e, he⟩ h)

/-- **Digits spell one number only**, in every base up to sixteen. -/
lemma toDigits_injective {base m n : Nat} (hbase : 1 < base) (hle : base ≤ 16)
    (h : Nat.toDigits base m = Nat.toDigits base n) : m = n := by
  induction m using Nat.strongRecOn generalizing n with
  | ind m ih =>
      rw [Nat.toDigits_eq_if hbase, Nat.toDigits_eq_if (n := n) hbase] at h
      split_ifs at h with hm hn hn
      · exact digitChar_injective (by omega) (by omega) (List.singleton_inj.mp h)
      · rw [← List.nil_append [m.digitChar]] at h
        exact absurd (List.append_inj' h rfl).1.symm Nat.toDigits_ne_nil
      · rw [← List.nil_append [n.digitChar]] at h
        exact absurd (List.append_inj' h rfl).1 Nat.toDigits_ne_nil
      · obtain ⟨hfront, hlast⟩ := List.append_inj' h rfl
        have hdiv : m / base = n / base := ih _ (Nat.div_lt_self (by omega) hbase) hfront
        have hmod : m % base = n % base := by
          have hlt : ∀ k, k % base < 16 := fun k =>
            Nat.lt_of_lt_of_le (Nat.mod_lt k (Nat.zero_lt_of_lt hbase)) hle
          exact digitChar_injective (hlt m) (hlt n) (List.singleton_inj.mp hlast)
        rw [← Nat.div_add_mod m base, ← Nat.div_add_mod n base, hdiv, hmod]

lemma exists_of_mem_toDigits {base n : Nat} (hbase : 1 < base) {c : Char}
    (h : c ∈ Nat.toDigits base n) : ∃ d, c = Nat.digitChar d := by
  induction n using Nat.strongRecOn with
  | ind n ih =>
      rw [Nat.toDigits_eq_if hbase] at h
      split_ifs at h with hn
      · exact ⟨n, List.mem_singleton.mp h⟩
      · rcases List.mem_append.mp h with h | h
        · exact ih (n / base) (Nat.div_lt_self (by omega) hbase) h
        · exact ⟨n % base, List.mem_singleton.mp h⟩

lemma isDigit_of_mem_digits {n : Nat} : ∀ c ∈ digitsOf n, c.isDigit = true :=
  fun _ hc => Nat.isDigit_of_mem_toDigits (by decide) (by decide) hc

lemma exists_digitsOf_eq_cons (n : Nat) : ∃ c cs, digitsOf n = c :: cs ∧ c.isDigit = true := by
  obtain ⟨c, cs, hcs⟩ := List.exists_cons_of_ne_nil (Nat.toDigits_ne_nil (n := n) (b := 10))
  exact ⟨c, cs, hcs, isDigit_of_mem_digits c (hcs ▸ List.mem_cons_self)⟩

lemma digitsOf_append_inj {m n : Nat} {rest more : List Char} (hrest : Text.EndsNumber rest)
    (hmore : Text.EndsNumber more) (h : digitsOf m ++ rest = digitsOf n ++ more) :
    m = n ∧ rest = more := by
  obtain ⟨hdigits, htail⟩ :=
    Text.append_inj_of_sort isDigit_of_mem_digits isDigit_of_mem_digits hrest hmore h
  exact ⟨toDigits_injective (by decide) (by decide) hdigits, htail⟩

lemma digitsOf_append_ne_minus (n : Nat) (rest more : List Char) :
    digitsOf n ++ rest ≠ '-' :: more := by
  obtain ⟨c, cs, hcs, hdigit⟩ := exists_digitsOf_eq_cons n
  rw [hcs]
  rintro ⟨⟩
  exact Bool.noConfusion hdigit

/-- The text of an integer begins with its sign or with a digit. -/
lemma exists_integerChars_eq_cons (n : Int) :
    ∃ c cs, integerChars n = c :: cs ∧ (c = '-' ∨ c.isDigit = true) := by
  rw [integerChars]
  split_ifs with hn
  · exact ⟨'-', _, rfl, .inl rfl⟩
  · obtain ⟨c, cs, hcs, hdigit⟩ := exists_digitsOf_eq_cons n.natAbs
    exact ⟨c, cs, hcs, .inr hdigit⟩

/-- **An integer can be told from what comes behind**, if that does not go on with a digit. -/
theorem integerChars_append_inj {m n : Int} {rest more : List Char} (hrest : Text.EndsNumber rest)
    (hmore : Text.EndsNumber more) (h : integerChars m ++ rest = integerChars n ++ more) :
    m = n ∧ rest = more := by
  rw [integerChars, integerChars] at h
  split_ifs at h with hm hn hn
  · obtain ⟨habs, htail⟩ := digitsOf_append_inj hrest hmore (List.cons.inj h).2
    exact ⟨by omega, htail⟩
  · exact absurd h.symm (digitsOf_append_ne_minus _ _ _)
  · exact absurd h (digitsOf_append_ne_minus _ _ _)
  · obtain ⟨habs, htail⟩ := digitsOf_append_inj hrest hmore h
    exact ⟨by omega, htail⟩

end Decimal

/-! ## Quoted text -/

namespace Text

/-- The characters with an escape of one letter, and the letters. -/
def shortEscapes : List (Char × Char) :=
  [('"', '"'), ('\\', '\\'), ('\t', 't'), ('\n', 'n'), ('\r', 'r'), ('\x00', '0')]

/-- A character is shown by a letter behind a backslash, by its code point, or by itself. -/
lemma escapeChar_cases (c : Char) :
    (∃ letter, (c, letter) ∈ shortEscapes ∧ escapeChar c = ['\\', letter]) ∨
      escapeChar c = codeEscape c ∨ c ≠ '"' ∧ c ≠ '\\' ∧ escapeChar c = [c] := by
  rw [escapeChar]
  split_ifs with hquote hbackslash htab hfeed hreturn hnul hcode
  · exact .inl ⟨'"', by simp [shortEscapes, hquote], rfl⟩
  · exact .inl ⟨'\\', by simp [shortEscapes, hbackslash], rfl⟩
  · exact .inl ⟨'t', by simp [shortEscapes, htab], rfl⟩
  · exact .inl ⟨'n', by simp [shortEscapes, hfeed], rfl⟩
  · exact .inl ⟨'r', by simp [shortEscapes, hreturn], rfl⟩
  · exact .inl ⟨'0', by simp [shortEscapes, hnul], rfl⟩
  · exact .inr (.inl rfl)
  · exact .inr (.inr ⟨hquote, hbackslash, rfl⟩)

/-- No letter stands for two characters, or for an escape by code point. -/
lemma eq_of_mem_shortEscapes {c d letter : Char} (hc : (c, letter) ∈ shortEscapes)
    (hd : (d, letter) ∈ shortEscapes) : c = d := by
  have hall : ∀ first ∈ shortEscapes, ∀ second ∈ shortEscapes, first.2 = second.2 →
      first.1 = second.1 := by decide
  exact hall _ hc _ hd rfl

lemma ne_of_mem_shortEscapes {c letter : Char} (h : (c, letter) ∈ shortEscapes) :
    letter ≠ 'u' := by
  have hall : ∀ escape ∈ shortEscapes, escape.2 ≠ 'u' := by decide
  exact hall _ h

/-- The brace tells where a code point ends. -/
lemma codeEscape_append_inj {c d : Char} {rest more : List Char}
    (h : codeEscape c ++ rest = codeEscape d ++ more) : c = d ∧ rest = more := by
  simp only [codeEscape, List.cons_append, List.append_assoc, List.cons.injEq, true_and] at h
  have hdigit : ∀ {n : Nat}, ∀ c ∈ Nat.toDigits 16 n, (c != '}') = true := by
    intro n c hc
    obtain ⟨digit, rfl⟩ := Decimal.exists_of_mem_toDigits (by decide) hc
    exact bne_iff_ne.mpr (Nat.digitChar_ne '}' (by decide))
  have hbrace : ∀ tail, ∀ c ∈ (['}'] ++ tail : List Char).head?, (c != '}') = false := by
    rintro tail _ ⟨⟩
    rfl
  obtain ⟨hcode, htail⟩ := append_inj_of_sort hdigit hdigit (hbrace _) (hbrace _) h
  exact ⟨Char.toNat_inj.mp (Decimal.toDigits_injective (by decide) (by decide) hcode),
    (List.cons.inj htail).2⟩

/-- An escape says where it ends. -/
lemma escapeChar_append_inj {c d : Char} {rest more : List Char}
    (h : escapeChar c ++ rest = escapeChar d ++ more) : c = d ∧ rest = more := by
  rcases escapeChar_cases c with ⟨letter, hc, hshort⟩ | hshort | ⟨-, hc, hshort⟩ <;>
    rcases escapeChar_cases d with ⟨other, hd, hshort'⟩ | hshort' | ⟨-, hd, hshort'⟩ <;>
    rw [hshort, hshort'] at h
  · obtain ⟨rfl, rfl⟩ : letter = other ∧ rest = more := by simpa using h
    exact ⟨eq_of_mem_shortEscapes hc hd, rfl⟩
  · exact absurd (List.cons.inj (List.cons.inj h).2).1 (ne_of_mem_shortEscapes hc)
  · exact absurd (List.cons.inj h).1.symm hd
  · exact absurd (List.cons.inj (List.cons.inj h).2).1.symm (ne_of_mem_shortEscapes hd)
  · exact codeEscape_append_inj h
  · exact absurd (List.cons.inj h).1.symm hd
  · exact absurd (List.cons.inj h).1 hc
  · exact absurd (List.cons.inj h).1 hc
  · exact List.cons.inj h

lemma escapeChar_append_ne_quote (c : Char) (rest more : List Char) :
    escapeChar c ++ rest ≠ '"' :: more := by
  rcases escapeChar_cases c with ⟨letter, -, hshort⟩ | hshort | ⟨hc, -, hshort⟩ <;> rw [hshort]
  · rintro ⟨⟩
  · rintro ⟨⟩
  · exact fun h => hc (List.cons.inj h).1

/-- **A quoted text can be told from what comes behind.** -/
theorem quoteChars_append_inj {cs ds rest more : List Char}
    (h : quoteChars cs ++ rest = quoteChars ds ++ more) : cs = ds ∧ rest = more := by
  simp only [quoteChars, List.cons_append, List.append_assoc, List.cons.injEq, true_and,
    List.nil_append] at h
  induction cs generalizing ds with
  | nil =>
      cases ds with
      | nil => exact ⟨rfl, (List.cons.inj h).2⟩
      | cons d ds =>
          rw [List.flatMap_cons, List.append_assoc] at h
          exact absurd h.symm (escapeChar_append_ne_quote d _ _)
  | cons c cs ih =>
      rw [List.flatMap_cons, List.append_assoc] at h
      cases ds with
      | nil => exact absurd h (escapeChar_append_ne_quote c _ _)
      | cons d ds =>
          rw [List.flatMap_cons, List.append_assoc] at h
          obtain ⟨rfl, hrest⟩ := escapeChar_append_inj h
          obtain ⟨rfl, htail⟩ := ih hrest
          exact ⟨rfl, htail⟩

end Text

end DataShape
