import DataShape.Proofs.Json.Repeated
import DataShape.Proofs.Value.Equality
import DataShape.Value.OfJson

/-!
# Values that come from JSON

Nothing is lost when a JSON value is converted, unless an object in it repeats a name.  There is a
way back, part by part and in the same order, because the kind of a number is kept: a whole number
becomes an integer and any other number a floating-point number, even one without a fractional part.

The way back also tells what comes from JSON at all.  It ends at a part that JSON has no form for,
and only there; and what it reads from a map that repeats no key is an object that repeats no name.

* `Value.toJson?`, `Value.toJson` — the way back.
* `Value.toJson?_ofJson` — every JSON value without repeated names is read back.
* `Value.ofJson_of_toJson?` — what is read is converted to the value again.
* `Value.Representable` — values that JSON has a form for, with all their parts.
* `Value.isSome_toJson?_iff` — these are the values that something is read from.
* `Value.ofJson_lossless` — **conversion from JSON loses nothing, and reaches what JSON has a form
  for.**
-/

namespace DataShape

/-! ## Numbers -/

namespace Json

lemma Number.ofInt?_eq_some_iff {n : ℤ} {m : Number} :
    Number.ofInt? n = some m ↔ ∃ fits, Number.whole n fits = m := by
  rw [Number.ofInt?, Option.dite_none_right_eq_some]
  simp only [Option.some.injEq]

lemma Number.ofBinary64?_eq_some_iff {x : Binary64} {m : Number} :
    Number.ofBinary64? x = some m ↔ ∃ finite, Number.real x finite = m := by
  rw [Number.ofBinary64?, Option.dite_none_right_eq_some]
  simp only [Option.some.injEq]

lemma Number.isSome_ofInt?_iff (n : ℤ) :
    (Number.ofInt? n).isSome = true ↔ -2 ^ 63 ≤ n ∧ n ≤ 2 ^ 64 - 1 := by
  rw [Int.le_sub_one_iff, Number.ofInt?, Option.isSome_dite]
  exact Iff.rfl

lemma Number.isSome_ofBinary64?_iff (x : Binary64) :
    (Number.ofBinary64? x).isSome = true ↔ x.isFinite = true := by
  rw [Number.ofBinary64?, Option.isSome_dite]

end Json

namespace Value

open Json (Number)

variable {v : Value} {j : Json}

/-- A whole number becomes an integer, whichever word it fits. -/
lemma ofNumber_whole (n : ℤ) (fits : -Nat.pow 2 63 ≤ n ∧ n < Nat.pow 2 64) :
    ofNumber (.whole n fits) = .integer n := by
  by_cases hsigned : n < Nat.pow 2 63
  · rw [ofNumber, Number.signed?, if_pos hsigned]
  · -- What is too large for a sign is not negative.
    have hnonneg : 0 ≤ n := (Int.natCast_nonneg _).trans (not_lt.mp hsigned)
    rw [ofNumber, Number.signed?, if_neg hsigned, Number.unsigned?, if_pos hnonneg]
    exact congrArg Value.integer (Int.toNat_of_nonneg hnonneg)

/-- Any other number stays as it is. -/
lemma ofNumber_real (x : Binary64) (finite : x.isFinite = true) :
    ofNumber (.real x finite) = .float x := rfl

/-! ## The conversion -/

lemma ofItems_eq (items : List Json) : ofItems items = items.map ofJson := by
  induction items with
  | nil => rfl
  | cons item rest ih => rw [ofItems, ih, List.map_cons]

lemma ofMembers_eq (members : List (String × Json)) :
    ofMembers members = members.map fun member => (.text member.1, ofJson member.2) := by
  induction members with
  | nil => rfl
  | cons member rest ih =>
      obtain ⟨name, value⟩ := member
      rw [ofMembers, ih, List.map_cons]

/-- The names become the keys, in the same order. -/
lemma keys_ofMembers (members : List (String × Json)) :
    Entries.keys (ofMembers members) = (Entries.keys members).map .text := by
  rw [ofMembers_eq, Entries.keys, Entries.keys, List.map_map, List.map_map]
  rfl

lemma nodup_keys_ofMembers_iff (members : List (String × Json)) :
    (Entries.keys (ofMembers members)).Nodup ↔ (Entries.keys members).Nodup := by
  rw [keys_ofMembers, List.nodup_map_iff fun _ _ => Key.text.inj]

/-- **No map in what comes from JSON repeats a key**, even where an object repeats a name. -/
lemma wellFormed_ofJson (j : Json) : (ofJson j).WellFormed := by
  induction j with
  | number n =>
      cases n with
      | whole n fits =>
          rw [ofJson, ofNumber_whole]
          trivial
      | real x finite => trivial
  | array items ih =>
      rw [ofJson, ofItems_eq, wellFormed_array_iff, List.forall_mem_map]
      exact ih
  | object members ih =>
      rw [ofJson, wellFormed_map_iff]
      refine ⟨Entries.nodup_keys_ofList _, fun entry hentry => ?_⟩
      have hmem := Entries.mem_ofList hentry
      rw [ofMembers_eq] at hmem
      obtain ⟨member, hmember, rfl⟩ := List.mem_map.mp hmem
      exact ih member hmember
  | _ => trivial

/-! ## The way back -/

mutual

/-- The JSON value that a value comes from, if there is one. -/
def toJson? : Value → Option Json
  | .null => some .null
  | .boolean b => some (.boolean b)
  | .integer n => (Number.ofInt? n).map .number
  | .float x => (Number.ofBinary64? x).map .number
  | .text s => some (.text s)
  | .array items => (toItems? items).map .array
  | .map entries => (toMembers? entries).map .object
  | .foreign _ _ => none

/-- The items of the array that the values of a list come from. -/
def toItems? : List Value → Option (List Json)
  | [] => some []
  | item :: rest => (toJson? item).bind fun j => (toItems? rest).map (j :: ·)

/-- The members of the object that entries come from. -/
def toMembers? : List (Key × Value) → Option (List (String × Json))
  | [] => some []
  | (.text name, value) :: rest =>
    (toJson? value).bind fun j => (toMembers? rest).map ((name, j) :: ·)
  | _ => none

end

/-- The JSON value that a value comes from; null, if there is none. -/
def toJson (v : Value) : Json := (toJson? v).getD .null

lemma toItems?_ofItems {items : List Json}
    (hitems : ∀ item ∈ items, toJson? (ofJson item) = some item) :
    toItems? (ofItems items) = some items := by
  induction items with
  | nil => rfl
  | cons item rest ih =>
      rw [List.forall_mem_cons] at hitems
      rw [ofItems, toItems?, hitems.1, ih hitems.2]
      rfl

lemma toMembers?_ofMembers {members : List (String × Json)}
    (hmembers : ∀ member ∈ members, toJson? (ofJson member.2) = some member.2) :
    toMembers? (ofMembers members) = some members := by
  induction members with
  | nil => rfl
  | cons member rest ih =>
      obtain ⟨name, value⟩ := member
      rw [List.forall_mem_cons] at hmembers
      rw [ofMembers, toMembers?, hmembers.1, ih hmembers.2]
      rfl

/-- **Every JSON value without repeated names is read back.** -/
lemma toJson?_ofJson (hj : j.Distinct) : toJson? (ofJson j) = some j := by
  induction j with
  | number n =>
      cases n with
      | whole n fits =>
          rw [ofJson, ofNumber_whole, toJson?, Number.ofInt?_eq_some_iff.mpr ⟨fits, rfl⟩,
            Option.map_some]
      | real x finite =>
          rw [ofJson, ofNumber_real, toJson?, Number.ofBinary64?_eq_some_iff.mpr ⟨finite, rfl⟩,
            Option.map_some]
  | array items ih =>
      rw [Json.distinct_array_iff] at hj
      rw [ofJson, toJson?, toItems?_ofItems fun item hitem => ih item hitem (hj item hitem),
        Option.map_some]
  | object members ih =>
      rw [Json.distinct_object_iff] at hj
      -- Where no name is repeated, there is an entry for every member.
      rw [ofJson, Entries.ofList_of_nodup ((nodup_keys_ofMembers_iff members).mpr hj.1), toJson?,
        toMembers?_ofMembers fun member hmember => ih member hmember (hj.2 member hmember),
        Option.map_some]
  | _ => rfl

lemma ofItems_of_toItems? {items : List Value} {parts : List Json}
    (hitems : ∀ item ∈ items, ∀ j, toJson? item = some j → j.Distinct ∧ ofJson j = item)
    (h : toItems? items = some parts) :
    (∀ part ∈ parts, part.Distinct) ∧ ofItems parts = items := by
  induction items generalizing parts with
  | nil =>
      cases h
      exact ⟨nofun, rfl⟩
  | cons item rest ih =>
      obtain ⟨j, hj, htail⟩ := Option.bind_eq_some_iff.mp h
      obtain ⟨others, hothers, rfl⟩ := Option.map_eq_some_iff.mp htail
      rw [List.forall_mem_cons] at hitems ⊢
      obtain ⟨hdistinct, hsame⟩ := hitems.1 j hj
      obtain ⟨hrest, hsameRest⟩ := ih hitems.2 hothers
      rw [ofItems, hsame, hsameRest]
      exact ⟨⟨hdistinct, hrest⟩, rfl⟩

lemma ofMembers_of_toMembers? {entries : List (Key × Value)} {members : List (String × Json)}
    (hentries : ∀ entry ∈ entries, ∀ j, toJson? entry.2 = some j → j.Distinct ∧ ofJson j = entry.2)
    (h : toMembers? entries = some members) :
    (∀ member ∈ members, member.2.Distinct) ∧ ofMembers members = entries := by
  induction entries generalizing members with
  | nil =>
      cases h
      exact ⟨nofun, rfl⟩
  | cons entry rest ih =>
      obtain ⟨key, value⟩ := entry
      cases key with
      | text name =>
          obtain ⟨j, hj, htail⟩ := Option.bind_eq_some_iff.mp h
          obtain ⟨others, hothers, rfl⟩ := Option.map_eq_some_iff.mp htail
          rw [List.forall_mem_cons] at hentries ⊢
          obtain ⟨hdistinct, hsame⟩ := hentries.1 j hj
          obtain ⟨hrest, hsameRest⟩ := ih hentries.2 hothers
          rw [ofMembers, hsame, hsameRest]
          exact ⟨⟨hdistinct, hrest⟩, rfl⟩
      | _ => cases h

/-- **What is read from a value is converted to it again**, and repeats no name where the value
repeats no key. -/
lemma ofJson_of_toJson? (hv : v.WellFormed) (h : toJson? v = some j) :
    j.Distinct ∧ ofJson j = v := by
  induction v generalizing j with
  | integer n =>
      obtain ⟨m, hm, rfl⟩ := Option.map_eq_some_iff.mp h
      obtain ⟨fits, rfl⟩ := Number.ofInt?_eq_some_iff.mp hm
      exact ⟨nofun, ofNumber_whole n fits⟩
  | float x =>
      obtain ⟨m, hm, rfl⟩ := Option.map_eq_some_iff.mp h
      obtain ⟨finite, rfl⟩ := Number.ofBinary64?_eq_some_iff.mp hm
      exact ⟨nofun, ofNumber_real x finite⟩
  | array items ih =>
      rw [wellFormed_array_iff] at hv
      obtain ⟨parts, hparts, rfl⟩ := Option.map_eq_some_iff.mp h
      obtain ⟨hdistinct, rfl⟩ := ofItems_of_toItems?
        (fun item hitem j => ih item hitem (hv item hitem)) hparts
      exact ⟨(Json.distinct_array_iff parts).mpr hdistinct, by rw [ofJson]⟩
  | map entries ih =>
      rw [wellFormed_map_iff] at hv
      obtain ⟨members, hmembers, rfl⟩ := Option.map_eq_some_iff.mp h
      obtain ⟨hdistinct, rfl⟩ := ofMembers_of_toMembers?
        (fun entry hentry j => ih entry hentry (hv.2 entry hentry)) hmembers
      have hnames := (nodup_keys_ofMembers_iff members).mp hv.1
      exact ⟨(Json.distinct_object_iff members).mpr ⟨hnames, hdistinct⟩,
        by rw [ofJson, Entries.ofList_of_nodup hv.1]⟩
  | foreign className shown => cases h
  | _ =>
      cases h
      exact ⟨nofun, rfl⟩

/-! ## What JSON has a form for -/

/-- JSON has a form for the value, as far as that does not depend on what is inside it: it is no
foreign value, an integer fits a signed or an unsigned 64-bit word, a floating-point number is
finite, and the keys of a map are texts. -/
def FitsJson : Value → Prop
  | .integer n => -2 ^ 63 ≤ n ∧ n ≤ 2 ^ 64 - 1
  | .float x => x.isFinite = true
  | .map entries => ∀ key ∈ Entries.keys entries, ∃ s, key = .text s
  | .foreign _ _ => False
  | _ => True

/-- JSON has a form for the value and for everything inside it. -/
def Representable : Value → Prop := Everywhere FitsJson

lemma representable_scalar_iff (h : v.isScalar = true) : v.Representable ↔ v.FitsJson :=
  everywhere_scalar_iff h

lemma representable_array_iff (items : List Value) :
    Representable (.array items) ↔ ∀ item ∈ items, item.Representable :=
  (everywhere_array_iff items).trans (and_iff_right trivial)

lemma representable_map_iff (entries : List (Key × Value)) :
    Representable (.map entries) ↔
      ∀ entry ∈ entries, (∃ s, entry.1 = .text s) ∧ entry.2.Representable := by
  rw [Representable, everywhere_map_iff, FitsJson, Entries.keys, List.forall_mem_map]
  exact forall₂_and.symm

lemma isSome_toItems?_iff (items : List Value) :
    (toItems? items).isSome = true ↔ ∀ item ∈ items, (toJson? item).isSome = true := by
  induction items with
  | nil => simp [toItems?]
  | cons item rest ih =>
      rw [List.forall_mem_cons, ← ih, toItems?]
      cases toJson? item <;> simp

lemma isSome_toMembers?_iff (entries : List (Key × Value)) :
    (toMembers? entries).isSome = true ↔
      ∀ entry ∈ entries, (∃ s, entry.1 = .text s) ∧ (toJson? entry.2).isSome = true := by
  induction entries with
  | nil => simp [toMembers?]
  | cons entry rest ih =>
      obtain ⟨key, value⟩ := entry
      rw [List.forall_mem_cons, ← ih]
      cases key with
      | text name =>
          rw [toMembers?]
          cases toJson? value <;> simp
      | _ => simp [toMembers?]

/-- **Something is read from exactly the values that JSON has a form for.** -/
lemma isSome_toJson?_iff (v : Value) : (toJson? v).isSome = true ↔ v.Representable := by
  induction v with
  | integer n =>
      rw [toJson?, Option.isSome_map, Number.isSome_ofInt?_iff, representable_scalar_iff rfl,
        FitsJson]
  | float x =>
      rw [toJson?, Option.isSome_map, Number.isSome_ofBinary64?_iff, representable_scalar_iff rfl,
        FitsJson]
  | array items ih =>
      rw [toJson?, Option.isSome_map, isSome_toItems?_iff, representable_array_iff]
      exact forall₂_congr ih
  | map entries ih =>
      rw [toJson?, Option.isSome_map, isSome_toMembers?_iff, representable_map_iff]
      exact forall₂_congr fun entry hentry => and_congr_right' (ih entry hentry)
  | foreign className shown =>
      rw [representable_scalar_iff rfl]
      exact iff_of_false nofun id
  | _ =>
      rw [representable_scalar_iff rfl]
      exact iff_of_true rfl trivial

/-- **Conversion from JSON loses nothing, and reaches what JSON has a form for.**  A JSON value in
which no object repeats a name is read back from the value it is converted to, with its items and
members in their order.  The values that such JSON values are converted to are those that have no
foreign value in them, only texts for keys and none of these twice in a map, only integers that fit
a signed or an unsigned 64-bit word, and only finite floating-point numbers. -/
theorem ofJson_lossless :
    (∀ j : Json, j.Distinct → toJson (ofJson j) = j) ∧
      ∀ v : Value, (∃ j : Json, j.Distinct ∧ ofJson j = v) ↔ v.WellFormed ∧ v.Representable := by
  constructor
  · intro j hj
    rw [toJson, toJson?_ofJson hj, Option.getD_some]
  · intro v
    rw [← isSome_toJson?_iff]
    constructor
    · rintro ⟨j, hj, rfl⟩
      rw [toJson?_ofJson hj]
      exact ⟨wellFormed_ofJson j, rfl⟩
    · rintro ⟨hv, hsome⟩
      obtain ⟨j, hj⟩ := Option.isSome_iff_exists.mp hsome
      exact ⟨j, ofJson_of_toJson? hv hj⟩

/-- The limits of both words and the number behind the first of them as a floating-point number, in
an object with a negative zero and with names that are not in order; and an integer that is too
large by one. -/
theorem ofJson_lossless_of_limits :
    let j : Json := .object [
      ("z", .array [.number (.whole (-9223372036854775808) (by decide)),
        .number (.whole 9223372036854775807 (by decide)),
        .number (.whole 9223372036854775808 (by decide)),
        .number (.real ⟨0x43e0000000000000⟩ (by decide)),
        .number (.whole 18446744073709551615 (by decide))]),
      ("a", .object [("z", .number (.real ⟨0x8000000000000000⟩ (by decide)))])]
    let v : Value := .map [
      (.text "z", .array [.integer (-9223372036854775808), .integer 9223372036854775807,
        .integer 9223372036854775808, .float ⟨0x43e0000000000000⟩,
        .integer 18446744073709551615]),
      (.text "a", .map [(.text "z", .float ⟨0x8000000000000000⟩)])]
    (j.Distinct ∧ ofJson j = v) ∧ toJson v = j ∧ (v.WellFormed ∧ v.Representable) ∧
      ¬ ∃ other : Json, other.Distinct ∧ ofJson other = .array [.integer 18446744073709551616] := by
  intro j v
  obtain ⟨hback, hreached⟩ := ofJson_lossless
  have hnumber : ∀ n, (Json.number n).Distinct := fun _ => nofun
  have hj : j.Distinct := by
    simp [j, Json.distinct_object_iff, Json.distinct_array_iff, Entries.keys, hnumber]
  have hv : ofJson j = v := rfl
  refine ⟨⟨hj, hv⟩, hv ▸ hback j hj, (hreached v).mp ⟨j, hj, hv⟩, fun h => ?_⟩
  obtain ⟨-, hall⟩ := (hreached _).mp h
  have hfits := hall _ (.item List.mem_cons_self (.refl _))
  exact absurd hfits.2 (by decide)

end Value

end DataShape
