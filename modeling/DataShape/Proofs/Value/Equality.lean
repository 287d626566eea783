import Mathlib.Data.List.Forall2
import DataShape.Proofs.Entries
import DataShape.Proofs.Induction
import DataShape.Proofs.Value.Numbers

/-!
# Equality is a partial equivalence

Equality of values is symmetric and transitive.  Numbers keep this up because both kinds are
compared by the exact number they denote, and maps because equally many entries that are found in
another map leave none of it over.  A value equals itself unless there is a NaN in it.

* `Value.equal_integer_iff` and the like — what a value of each kind equals.
* `Value.Within`, `Value.Everywhere` — values inside others, and what holds of all of them.
* `Value.FreeOfNaN` — values without a NaN inside.
* `Value.equal_symm`, `Value.equal_trans`, `Value.equal_self_iff` — the three laws.
* `Value.equal_partialEquivalence` — **equality is a partial equivalence.**
-/

namespace DataShape

namespace Value

open Binary64

variable {v w : Value}

/-! ## What a value equals -/

lemma equal_boolean_iff (b : Bool) : (boolean b).equal v = true ↔ boolean b = v := by
  cases v <;> simp [equal]

lemma equal_text_iff (s : String) : (text s).equal v = true ↔ text s = v := by
  cases v <;> simp [equal]

lemma equal_foreign_iff (className shown : String) :
    (foreign className shown).equal v = true ↔ foreign className shown = v := by
  cases v <;> simp [equal]

lemma equal_integer_iff (n : ℤ) :
    (integer n).equal v = true ↔ integer n = v ∨
      ∃ x, v = .float x ∧ x.isFinite = true ∧ x.value = n := by
  cases v <;> simp [equal, integerEqualsFloat_eq_true_iff]

lemma equal_float_iff (x : Binary64) :
    (float x).equal v = true ↔
      (∃ n : ℤ, v = .integer n ∧ x.isFinite = true ∧ x.value = n) ∨
      ∃ y, v = .float y ∧ x.isNaN = false ∧ y.isNaN = false ∧ x.value = y.value := by
  cases v <;> simp [equal, integerEqualsFloat_eq_true_iff, Binary64.equal_iff]

lemma equalItems_iff (items others : List Value) :
    equalItems items others = true ↔
      List.Forall₂ (fun item other => item.equal other = true) items others := by
  induction items generalizing others with
  | nil => cases others <;> simp [equalItems]
  | cons item rest ih => cases others <;> simp [equalItems, ih]

lemma equal_array_iff (items : List Value) :
    (array items).equal v = true ↔ ∃ others, v = .array others ∧
      List.Forall₂ (fun item other => item.equal other = true) items others := by
  cases v <;> simp [equal, equalItems_iff]

lemma foundEqual_iff (entries others : List (Key × Value)) :
    foundEqual entries others = true ↔ ∀ entry ∈ entries,
      ∃ other, Entries.lookup? entry.1 others = some other ∧ entry.2.equal other = true := by
  induction entries with
  | nil => simp [foundEqual]
  | cons entry rest ih =>
      obtain ⟨key, value⟩ := entry
      rw [foundEqual, Bool.and_eq_true, ih, List.forall_mem_cons]
      refine and_congr_left' ?_
      cases Entries.lookup? key others <;> simp

lemma equal_map_iff (entries : List (Key × Value)) :
    (map entries).equal v = true ↔ ∃ others, v = .map others ∧ entries.length = others.length ∧
      ∀ entry ∈ entries,
        ∃ other, Entries.lookup? entry.1 others = some other ∧ entry.2.equal other = true := by
  cases v <;> simp [equal, foundEqual_iff]

/-! ## Values inside others -/

lemma wellFormed_array_iff (items : List Value) :
    (array items).WellFormed ↔ ∀ item ∈ items, item.WellFormed := by
  rw [WellFormed]
  induction items with
  | nil => simp [WellFormedItems]
  | cons item rest ih => rw [WellFormedItems, ih, List.forall_mem_cons]

lemma wellFormed_map_iff (entries : List (Key × Value)) :
    (map entries).WellFormed ↔
      (Entries.keys entries).Nodup ∧ ∀ entry ∈ entries, entry.2.WellFormed := by
  rw [WellFormed]
  refine and_congr_right' ?_
  induction entries with
  | nil => simp [WellFormedEntries]
  | cons entry rest ih => rw [WellFormedEntries, ih, List.forall_mem_cons]

/-- The first value lies inside the second, or is the second. -/
inductive Within : Value → Value → Prop
  | refl (v : Value) : Within v v
  | item {items : List Value} {item part : Value} :
      item ∈ items → Within part item → Within part (.array items)
  | entry {entries : List (Key × Value)} {entry : Key × Value} {part : Value} :
      entry ∈ entries → Within part entry.2 → Within part (.map entries)

/-- The statement holds of the value and of every value inside it. -/
def Everywhere (P : Value → Prop) (v : Value) : Prop := ∀ part, Within part v → P part

lemma everywhere_array_iff {P : Value → Prop} (items : List Value) :
    Everywhere P (.array items) ↔ P (.array items) ∧ ∀ item ∈ items, Everywhere P item := by
  constructor
  · intro h
    exact ⟨h _ (.refl _), fun item hitem part hpart => h part (.item hitem hpart)⟩
  · rintro ⟨hself, hitems⟩ part hpart
    cases hpart with
    | refl => exact hself
    | item hitem hpart => exact hitems _ hitem part hpart

lemma everywhere_map_iff {P : Value → Prop} (entries : List (Key × Value)) :
    Everywhere P (.map entries) ↔ P (.map entries) ∧ ∀ entry ∈ entries, Everywhere P entry.2 := by
  constructor
  · intro h
    exact ⟨h _ (.refl _), fun entry hentry part hpart => h part (.entry hentry hpart)⟩
  · rintro ⟨hself, hentries⟩ part hpart
    cases hpart with
    | refl => exact hself
    | entry hentry hpart => exact hentries _ hentry part hpart

/-- There is nothing inside a scalar. -/
lemma everywhere_scalar_iff {P : Value → Prop} (h : v.isScalar = true) :
    Everywhere P v ↔ P v := by
  refine ⟨fun hv => hv v (.refl v), fun hself part hpart => ?_⟩
  cases hpart with
  | refl => exact hself
  | item _ _ => exact Bool.noConfusion h
  | entry _ _ => exact Bool.noConfusion h

/-- No number inside the value is a NaN. -/
def FreeOfNaN (v : Value) : Prop := ∀ x, Within (.float x) v → x.isNaN = false

lemma freeOfNaN_iff :
    v.FreeOfNaN ↔ v.Everywhere fun part => ∀ x, part = .float x → x.isNaN = false := by
  constructor
  · rintro h part hpart x rfl
    exact h x hpart
  · intro h x hx
    exact h _ hx x rfl

lemma freeOfNaN_float_iff (x : Binary64) : (float x).FreeOfNaN ↔ x.isNaN = false := by
  rw [freeOfNaN_iff, everywhere_scalar_iff rfl]
  simp

lemma freeOfNaN_array_iff (items : List Value) :
    (array items).FreeOfNaN ↔ ∀ item ∈ items, item.FreeOfNaN := by
  simp only [freeOfNaN_iff, everywhere_array_iff]
  exact and_iff_right nofun

lemma freeOfNaN_map_iff (entries : List (Key × Value)) :
    (map entries).FreeOfNaN ↔ ∀ entry ∈ entries, entry.2.FreeOfNaN := by
  simp only [freeOfNaN_iff, everywhere_map_iff]
  exact and_iff_right nofun

/-! ## The three laws -/

lemma forall₂_of_mem {items others : List Value}
    (h : List.Forall₂ (fun item other => item.equal other = true) items others)
    {R : Value → Value → Prop}
    (hR : ∀ item ∈ items, ∀ other ∈ others, item.equal other = true → R item other) :
    List.Forall₂ R items others := by
  induction h with
  | nil => exact .nil
  | cons hfirst _ ih =>
      refine .cons (hR _ List.mem_cons_self _ List.mem_cons_self hfirst) (ih ?_)
      intro item hitem other hother
      exact hR item (List.mem_cons_of_mem _ hitem) other (List.mem_cons_of_mem _ hother)

lemma forall₂_trans_of_mem {items others more : List Value}
    (htrans : ∀ item ∈ items, ∀ other last : Value,
      item.equal other = true → other.equal last = true → item.equal last = true)
    (h : List.Forall₂ (fun item other => item.equal other = true) items others)
    (h' : List.Forall₂ (fun item other => item.equal other = true) others more) :
    List.Forall₂ (fun item other => item.equal other = true) items more := by
  induction h generalizing more with
  | nil => exact h'
  | cons hfirst _ ih =>
      cases h' with
      | cons hnext hrest =>
          refine .cons (htrans _ List.mem_cons_self _ _ hfirst hnext) (ih ?_ hrest)
          exact fun item hitem => htrans item (List.mem_cons_of_mem _ hitem)

/-- **Equality is symmetric.** -/
lemma equal_symm (hv : v.WellFormed) (hw : w.WellFormed) (h : v.equal w = true) :
    w.equal v = true := by
  induction v generalizing w with
  | null =>
      cases w with
      | null => rfl
      | _ => cases h
  | boolean b =>
      obtain rfl := (equal_boolean_iff b).mp h
      exact h
  | integer n =>
      rcases (equal_integer_iff n).mp h with rfl | ⟨x, rfl, hx⟩
      · exact h
      · exact (equal_float_iff x).mpr (.inl ⟨n, rfl, hx⟩)
  | float x =>
      rcases (equal_float_iff x).mp h with ⟨n, rfl, hx⟩ | ⟨y, rfl, hx, hy, hsame⟩
      · exact (equal_integer_iff n).mpr (.inr ⟨x, rfl, hx⟩)
      · exact (equal_float_iff y).mpr (.inr ⟨x, rfl, hy, hx, hsame.symm⟩)
  | text s =>
      obtain rfl := (equal_text_iff s).mp h
      exact h
  | array items ih =>
      obtain ⟨others, rfl, hitems⟩ := (equal_array_iff items).mp h
      rw [wellFormed_array_iff] at hv hw
      refine (equal_array_iff others).mpr ⟨items, rfl, List.Forall₂.flip ?_⟩
      exact forall₂_of_mem hitems fun item hitem other hother =>
        ih item hitem (hv item hitem) (hw other hother)
  | map entries ih =>
      obtain ⟨others, rfl, hlength, hfound⟩ := (equal_map_iff entries).mp h
      rw [wellFormed_map_iff] at hv hw
      refine (equal_map_iff others).mpr ⟨entries, rfl, hlength.symm, ?_⟩
      intro other hother
      obtain ⟨value, hvalue, hequal⟩ := Entries.found_of_found
        (R := fun value other => value.equal other = true) hv.1 hw.1 hlength hfound other hother
      have hmem := Entries.mem_of_lookup? hvalue
      exact ⟨value, hvalue, ih _ hmem (hv.2 _ hmem) (hw.2 other hother) hequal⟩
  | foreign className shown =>
      obtain rfl := (equal_foreign_iff className shown).mp h
      exact h

/-- **Equality is transitive**, whichever kinds of numbers there are on the way. -/
lemma equal_trans {u : Value} (h : v.equal w = true) (h' : w.equal u = true) :
    v.equal u = true := by
  induction v generalizing w u with
  | null =>
      cases w with
      | null => exact h'
      | _ => cases h
  | boolean b =>
      obtain rfl := (equal_boolean_iff b).mp h
      exact h'
  | integer n =>
      rcases (equal_integer_iff n).mp h with rfl | ⟨x, rfl, hx, hn⟩
      · exact h'
      rcases (equal_float_iff x).mp h' with ⟨m, rfl, -, hm⟩ | ⟨y, rfl, -, hy, hsame⟩
      · obtain rfl : n = m := Int.cast_injective (hn.symm.trans hm)
        exact (equal_integer_iff n).mpr (.inl rfl)
      · refine (equal_integer_iff n).mpr (.inr ⟨y, rfl, ?_, hsame ▸ hn⟩)
        exact isFinite_of_value_eq hx hsame
  | float x =>
      rcases (equal_float_iff x).mp h with ⟨n, rfl, hx, hn⟩ | ⟨y, rfl, hx, hy, hsame⟩
      · rcases (equal_integer_iff n).mp h' with rfl | ⟨z, rfl, hz, hzn⟩
        · exact h
        · refine (equal_float_iff x).mpr (.inr ⟨z, rfl, isNaN_eq_false hx, isNaN_eq_false hz, ?_⟩)
          exact hn.trans hzn.symm
      · rcases (equal_float_iff y).mp h' with ⟨n, rfl, hfinite, hn⟩ | ⟨z, rfl, -, hz, hnext⟩
        · refine (equal_float_iff x).mpr (.inl ⟨n, rfl, ?_, hsame.trans hn⟩)
          exact isFinite_of_value_eq hfinite hsame.symm
        · exact (equal_float_iff x).mpr (.inr ⟨z, rfl, hx, hz, hsame.trans hnext⟩)
  | text s =>
      obtain rfl := (equal_text_iff s).mp h
      exact h'
  | array items ih =>
      obtain ⟨others, rfl, hitems⟩ := (equal_array_iff items).mp h
      obtain ⟨more, rfl, hothers⟩ := (equal_array_iff others).mp h'
      refine (equal_array_iff items).mpr ⟨more, rfl, ?_⟩
      exact forall₂_trans_of_mem (fun item hitem other last => ih item hitem) hitems hothers
  | map entries ih =>
      obtain ⟨others, rfl, hlength, hfound⟩ := (equal_map_iff entries).mp h
      obtain ⟨more, rfl, hlength', hfound'⟩ := (equal_map_iff others).mp h'
      refine (equal_map_iff entries).mpr ⟨more, rfl, hlength.trans hlength', ?_⟩
      intro entry hentry
      obtain ⟨other, hother, hequal⟩ := hfound entry hentry
      obtain ⟨last, hlast, hequal'⟩ := hfound' _ (Entries.mem_of_lookup? hother)
      exact ⟨last, hlast, ih entry hentry hequal hequal'⟩
  | foreign className shown =>
      obtain rfl := (equal_foreign_iff className shown).mp h
      exact h'

/-- **A value equals itself unless there is a NaN in it.** -/
lemma equal_self_iff (hv : v.WellFormed) : v.equal v = true ↔ v.FreeOfNaN := by
  induction v with
  | float x =>
      rw [freeOfNaN_float_iff]
      simp [equal, Binary64.equal_iff]
  | array items ih =>
      rw [wellFormed_array_iff] at hv
      rw [freeOfNaN_array_iff, equal_array_iff]
      simp only [array.injEq, exists_eq_left', List.forall₂_same]
      exact forall₂_congr fun item hitem => ih item hitem (hv item hitem)
  | map entries ih =>
      rw [wellFormed_map_iff] at hv
      rw [freeOfNaN_map_iff, equal_map_iff]
      simp only [map.injEq, exists_eq_left', true_and]
      refine forall₂_congr fun entry hentry => ?_
      -- In a map that repeats no key, an entry is found under its own key.
      rw [(Entries.lookup?_eq_some_iff hv.1).mpr hentry, ← ih entry hentry (hv.2 entry hentry)]
      simp
  | _ =>
      refine iff_of_true (by simp [equal]) ?_
      intro x hx
      cases hx

/-- **Equality is a partial equivalence.**  On values whose maps repeat no key it is symmetric and
transitive, whatever kinds of numbers are compared, and a value equals itself exactly if no number
in it is a NaN. -/
theorem equal_partialEquivalence {a b : Value} (ha : a.WellFormed) (hb : b.WellFormed) (c : Value) :
    (a.equal b = true → b.equal a = true) ∧
    (a.equal b = true → b.equal c = true → a.equal c = true) ∧
    (a.equal a = true ↔ a.FreeOfNaN) :=
  ⟨equal_symm ha hb, equal_trans, equal_self_iff ha⟩

/-- A large number as an integer, as a float and as an integer again, beside zeros of both kinds, in
maps of different orders; and a NaN inside an array. -/
theorem equal_partialEquivalence_of_mixed :
    let large : ℤ := 9007199254740992
    let a : Value := .map [(.text "n", .array [.integer large]), (.number 1, .integer 0)]
    let b : Value := .map [(.number 1, .float ⟨0x8000000000000000⟩),
      (.text "n", .array [.float ⟨0x4340000000000000⟩])]
    let c : Value := .map [(.text "n", .array [.integer large]), (.number 1, .float ⟨0⟩)]
    let d : Value := .array [.float ⟨0x7ff8000000000000⟩]
    (a.WellFormed ∧ b.WellFormed ∧ d.WellFormed) ∧ (a.equal b = true ∧ b.equal c = true) ∧
      b.equal a = true ∧ a.equal c = true ∧ ¬ d.equal d = true := by
  intro large a b c d
  have ha : a.WellFormed := by
    simp [a, WellFormed, WellFormedItems, WellFormedEntries, Entries.keys]
  have hb : b.WellFormed := by
    simp [b, WellFormed, WellFormedItems, WellFormedEntries, Entries.keys]
  have hd : d.WellFormed := by simp [d, WellFormed, WellFormedItems]
  have hab : a.equal b = true := by decide +kernel
  have hbc : b.equal c = true := by decide +kernel
  obtain ⟨hsymm, htrans, -⟩ := equal_partialEquivalence ha hb c
  obtain ⟨-, -, hself⟩ := equal_partialEquivalence hd hd d
  have hNaN : ¬ d.FreeOfNaN := by
    intro hfree
    exact absurd (hfree _ (.item List.mem_cons_self (.refl _))) (by decide)
  exact ⟨⟨ha, hb, hd⟩, ⟨hab, hbc⟩, hsymm hab, htrans hab hbc, mt hself.mp hNaN⟩

end Value

end DataShape
