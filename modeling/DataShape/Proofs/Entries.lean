import Mathlib.Data.List.Nodup
import Mathlib.Data.List.Perm.Subperm
import Mathlib.Tactic.Common
import DataShape.Entries

/-!
# Tables that are written from left to right

Such a table repeats no key.  Written from pairs that repeat none it is the list of the pairs
itself, and otherwise it is shorter.

* `Entries.nodup_keys_ofList` — no key is repeated.
* `Entries.ofList_of_nodup`, `Entries.nodup_of_length_ofList` — when nothing is lost.
* `Entries.lookup?_ofList` — what is found in the table.
* `Entries.lookup?_perm` — the order of the entries does not matter for what is found.
* `Entries.found_of_found` — finding all entries of a table in another one goes both ways.
-/

namespace DataShape

namespace Entries

variable {κ α : Type} [DecidableEq κ]

/-! ## Writing to one key -/

/-- Writing goes past the entries of other keys. -/
lemma alter_append {key : κ} {entries : Entries κ α} (h : key ∉ keys entries)
    (change : Option α → α) (more : Entries κ α) :
    alter key change (entries ++ more) = entries ++ alter key change more := by
  induction entries with
  | nil => rfl
  | cons entry rest ih =>
      obtain ⟨k, value⟩ := entry
      rw [keys, List.map_cons, List.mem_cons, not_or] at h
      rw [List.cons_append, alter, if_neg (Ne.symm h.1), ih h.2, List.cons_append]

lemma nodup_keys_alter (key : κ) (change : Option α → α) {entries : Entries κ α}
    (h : (keys entries).Nodup) : (keys (alter key change entries)).Nodup := by
  rw [keys_alter]
  split_ifs with hkey
  · exact h
  · exact h.append (List.nodup_singleton key) (by simpa using hkey)

/-- **Tables that are written from left to right repeat no key.** -/
theorem nodup_keys_ofList (pairs : List (κ × α)) : (keys (ofList pairs)).Nodup := by
  suffices h : ∀ entries : Entries κ α, (keys entries).Nodup →
      (keys (pairs.foldl (fun entries pair => insert pair.1 pair.2 entries) entries)).Nodup from
    h [] List.nodup_nil
  induction pairs with
  | nil => exact fun entries h => h
  | cons pair rest ih => exact fun entries h => ih _ (nodup_keys_alter pair.1 _ h)

/-- Writing to a table brings in nothing but what is written. -/
lemma mem_insert {key : κ} {value : α} {entries : Entries κ α} {entry : κ × α}
    (h : entry ∈ insert key value entries) : entry ∈ entries ∨ entry = (key, value) := by
  rw [insert] at h
  induction entries with
  | nil => exact .inr (by simpa [alter] using h)
  | cons first rest ih =>
      obtain ⟨k, old⟩ := first
      rw [alter] at h
      split_ifs at h with hk
      · rw [List.mem_cons] at h
        rcases h with rfl | h
        · exact .inr (by rw [hk])
        · exact .inl (List.mem_cons_of_mem _ h)
      · rw [List.mem_cons] at h
        rcases h with rfl | h
        · exact .inl List.mem_cons_self
        · exact (ih h).imp_left (List.mem_cons_of_mem _)

lemma mem_ofList {pairs : List (κ × α)} {entry : κ × α} (h : entry ∈ ofList pairs) :
    entry ∈ pairs := by
  suffices hgen : ∀ entries : Entries κ α,
      entry ∈ pairs.foldl (fun entries pair => insert pair.1 pair.2 entries) entries →
      entry ∈ entries ∨ entry ∈ pairs from
    (hgen [] h).resolve_left List.not_mem_nil
  clear h
  induction pairs with
  | nil => exact fun entries h => .inl h
  | cons pair rest ih =>
      intro entries h
      rcases ih _ h with h | h
      · rcases mem_insert h with h | rfl
        · exact .inl h
        · exact .inr List.mem_cons_self
      · exact .inr (List.mem_cons_of_mem pair h)

/-! ## Repeated keys -/

lemma insert_of_not_mem {key : κ} {entries : Entries κ α} (h : key ∉ keys entries) (value : α) :
    insert key value entries = entries ++ [(key, value)] := by
  have halter := alter_append h (fun _ => value) []
  rwa [List.append_nil] at halter

/-- Pairs that repeat no key are the table themselves. -/
theorem ofList_of_nodup {pairs : List (κ × α)} (h : (keys pairs).Nodup) : ofList pairs = pairs := by
  suffices hgen : ∀ entries : Entries κ α, (keys (entries ++ pairs)).Nodup →
      pairs.foldl (fun entries pair => insert pair.1 pair.2 entries) entries = entries ++ pairs from
    hgen [] h
  clear h
  induction pairs with
  | nil => exact fun entries _ => (List.append_nil entries).symm
  | cons pair rest ih =>
      intro entries h
      have hnew : pair.1 ∉ keys entries := by
        rw [keys, List.map_append, List.nodup_append] at h
        exact fun hmem => h.2.2 pair.1 hmem pair.1 List.mem_cons_self rfl
      rw [List.foldl_cons, insert_of_not_mem hnew, ih _ (by simpa using h), List.append_assoc]
      rfl

omit [DecidableEq κ] in
/-- Keys that are all found in a table that is not longer are all the keys that it has. -/
lemma keys_perm_of_subset {β : Type} {entries : Entries κ α} {others : Entries κ β}
    (h : (keys entries).Nodup)
    (hlength : others.length ≤ entries.length) (hsubset : keys entries ⊆ keys others) :
    (keys entries).Perm (keys others) := by
  refine (h.subperm hsubset).perm_of_length_le ?_
  rwa [keys, keys, List.length_map, List.length_map]

omit [DecidableEq κ] in
/-- Where all entries have one key there is one entry, as it may not be repeated. -/
lemma eq_singleton_of_keys {entries : Entries κ α} {entry : κ × α} (h : (keys entries).Nodup)
    (hentry : entry ∈ entries) (hkeys : ∀ other ∈ entries, other.1 = entry.1) :
    entries = [entry] := by
  have hreplicate : keys entries = List.replicate entries.length entry.1 := by
    refine List.eq_replicate_iff.mpr ⟨List.length_map _, fun key hkey => ?_⟩
    obtain ⟨other, hother, rfl⟩ := List.mem_map.mp hkey
    exact hkeys other hother
  rw [hreplicate, List.nodup_replicate] at h
  have hlength := Nat.le_antisymm h (List.length_pos_of_mem hentry)
  obtain ⟨only, rfl⟩ := List.length_eq_one_iff.mp hlength
  rw [List.mem_singleton.mp hentry]

/-- A table that is as long as the pairs it was written from has lost none of them. -/
theorem nodup_of_length_ofList {pairs : List (κ × α)} (h : (ofList pairs).length = pairs.length) :
    (keys pairs).Nodup := by
  have hsubset : keys (ofList pairs) ⊆ keys pairs := by
    intro key hkey
    obtain ⟨entry, hentry, rfl⟩ := List.mem_map.mp hkey
    exact List.mem_map_of_mem (mem_ofList hentry)
  have hperm := keys_perm_of_subset (nodup_keys_ofList pairs) (Nat.le_of_eq h.symm) hsubset
  exact hperm.nodup_iff.mp (nodup_keys_ofList pairs)

/-! ## Looking up what was written from left to right -/

lemma lookup?_append (key : κ) (entries more : Entries κ α) :
    lookup? key (entries ++ more) = (lookup? key entries).or (lookup? key more) := by
  induction entries with
  | nil => simp [lookup?]
  | cons entry rest ih =>
      obtain ⟨k, value⟩ := entry
      rw [List.cons_append, lookup?, lookup?, ih]
      split_ifs <;> simp

/-- **The last value of a key stays.** -/
theorem lookup?_ofList (key : κ) (pairs : List (κ × α)) :
    lookup? key (ofList pairs) = lookup? key pairs.reverse := by
  suffices hgen : ∀ entries : Entries κ α,
      lookup? key (pairs.foldl (fun entries pair => insert pair.1 pair.2 entries) entries) =
        (lookup? key pairs.reverse).or (lookup? key entries) by
    rw [ofList, hgen]
    simp [lookup?]
  induction pairs with
  | nil => simp [lookup?]
  | cons pair rest ih =>
      intro entries
      rw [List.foldl_cons, ih, List.reverse_cons, lookup?_append, Option.or_assoc]
      congr 1
      by_cases hkey : pair.1 = key
      · rw [← hkey, insert, lookup?_alter_self]
        simp [lookup?]
      · rw [insert, lookup?_alter_of_ne (Ne.symm hkey)]
        simp [lookup?, hkey]

/-- Where pairs that repeat no key are written behind others, their values come first. -/
lemma lookup?_ofList_append (key : κ) (pairs : List (κ × α)) {more : List (κ × α)}
    (h : (keys more).Nodup) :
    lookup? key (ofList (pairs ++ more)) = (lookup? key more).or (lookup? key (ofList pairs)) := by
  rw [lookup?_ofList, List.reverse_append, lookup?_append, ← lookup?_ofList, ← lookup?_ofList,
    ofList_of_nodup h]

/-! ## Renaming keys -/

lemma mem_keys_alter {key other : κ} {change : Option α → α} {entries : Entries κ α}
    (h : other ∈ keys (alter key change entries)) : other ∈ keys entries ∨ other = key := by
  rw [keys_alter] at h
  split_ifs at h
  · exact .inl h
  · simpa using h

/-- Writing to a key goes along with a change of all keys and values, as long as no other key comes
to be the same. -/
lemma alter_map {ι β : Type} [DecidableEq ι] {f : κ → ι} {g : α → β} {key : κ}
    {change : Option α → α} {other : Option β → β} {entries : Entries κ α}
    (hkeys : ∀ k ∈ keys entries, f k = f key → k = key)
    (hchange : other ((lookup? key entries).map g) = g (change (lookup? key entries))) :
    alter (f key) other (entries.map fun entry => (f entry.1, g entry.2)) =
      (alter key change entries).map fun entry => (f entry.1, g entry.2) := by
  induction entries with
  | nil => simpa [alter, lookup?] using hchange
  | cons entry rest ih =>
      obtain ⟨k, value⟩ := entry
      rw [keys, List.map_cons, List.forall_mem_cons] at hkeys
      rw [List.map_cons, alter, alter]
      by_cases hk : k = key
      · rw [lookup?, if_pos hk, Option.map_some] at hchange
        rw [if_pos hk, if_pos (congrArg f hk), hchange, List.map_cons]
      · rw [lookup?, if_neg hk] at hchange
        rw [if_neg hk, if_neg (mt hkeys.1 hk), ih hkeys.2 hchange, List.map_cons]

/-! ## Tables that differ in order -/

/-- A table that repeats no key finds all its entries. -/
lemma lookup?_eq_some_iff {key : κ} {value : α} {entries : Entries κ α}
    (h : (keys entries).Nodup) : lookup? key entries = some value ↔ (key, value) ∈ entries := by
  refine ⟨mem_of_lookup?, fun hmem => ?_⟩
  induction entries with
  | nil => exact absurd hmem List.not_mem_nil
  | cons entry rest ih =>
      obtain ⟨k, first⟩ := entry
      rw [keys, List.map_cons, List.nodup_cons] at h
      rw [lookup?]
      rcases List.mem_cons.mp hmem with hfirst | hrest
      · cases hfirst
        rw [if_pos rfl]
      · have hother : k ≠ key := by
          rintro rfl
          exact h.1 (List.mem_map.mpr ⟨(k, value), hrest, rfl⟩)
        rw [if_neg hother, ih h.2 hrest]

/-- What is found does not depend on the order of the entries. -/
lemma lookup?_perm {entries others : Entries κ α} (h : (keys entries).Nodup)
    (hperm : entries.Perm others) (key : κ) : lookup? key entries = lookup? key others := by
  have hothers : (keys others).Nodup := (hperm.map _).nodup_iff.mp h
  ext value
  rw [lookup?_eq_some_iff h, lookup?_eq_some_iff hothers, hperm.mem_iff]

/-- Equally many entries of which all have their keys in another table are all that it has. -/
lemma keys_perm_of_found {β : Type} {entries : Entries κ α} {others : Entries κ β}
    (h : (keys entries).Nodup) (hlength : entries.length = others.length)
    (hfound : ∀ entry ∈ entries, ∃ other, lookup? entry.1 others = some other) :
    (keys entries).Perm (keys others) := by
  have hsubset : keys entries ⊆ keys others := by
    intro key hkey
    obtain ⟨entry, hentry, rfl⟩ := List.mem_map.mp hkey
    obtain ⟨other, hother⟩ := hfound entry hentry
    exact List.mem_map.mpr ⟨_, mem_of_lookup? hother, rfl⟩
  exact keys_perm_of_subset h (Nat.le_of_eq hlength.symm) hsubset

/-- **Equally many entries that are all found in another table find all of its entries**, with the
same pairs of values. -/
theorem found_of_found {β : Type} {R : α → β → Prop} {entries : Entries κ α} {others : Entries κ β}
    (h : (keys entries).Nodup) (h' : (keys others).Nodup) (hlength : entries.length = others.length)
    (hfound : ∀ entry ∈ entries, ∃ other, lookup? entry.1 others = some other ∧ R entry.2 other) :
    ∀ other ∈ others, ∃ value, lookup? other.1 entries = some value ∧ R value other.2 := by
  intro other hother
  have hkeys := keys_perm_of_found h hlength fun entry hentry =>
    (hfound entry hentry).imp fun _ hvalue => hvalue.1
  obtain ⟨entry, hentry, hkey⟩ :=
    List.mem_map.mp (hkeys.mem_iff.mpr (List.mem_map_of_mem hother))
  obtain ⟨value, hvalue, hrelated⟩ := hfound entry hentry
  have hsame : some value = some other.2 := by
    rw [← hvalue, hkey, lookup?_eq_some_iff h']
    exact hother
  refine ⟨entry.2, ?_, Option.some.inj hsame ▸ hrelated⟩
  rw [← hkey, lookup?_eq_some_iff h]
  exact hentry

/-! ## What holds of all values -/

/-- A change of one value keeps what holds of all, if it holds of the new value. -/
lemma forall_mem_alter {P : α → Prop} {key : κ} {change : Option α → α} {entries : Entries κ α}
    (h : ∀ entry ∈ entries, P entry.2) (hchange : P (change (lookup? key entries))) :
    ∀ entry ∈ alter key change entries, P entry.2 := by
  induction entries with
  | nil =>
      intro entry hentry
      rw [alter, List.mem_singleton] at hentry
      rw [hentry]
      exact hchange
  | cons first rest ih =>
      obtain ⟨k, value⟩ := first
      rw [List.forall_mem_cons] at h
      rw [alter]
      rw [lookup?] at hchange
      split_ifs at hchange ⊢
      · exact List.forall_mem_cons.mpr ⟨hchange, h.2⟩
      · exact List.forall_mem_cons.mpr ⟨h.1, ih h.2 hchange⟩

/-- Looking up goes along with a change of all values. -/
lemma lookup?_map {β : Type} (key : κ) (f : α → β) (entries : Entries κ α) :
    lookup? key (entries.map fun entry => (entry.1, f entry.2)) = (lookup? key entries).map f := by
  induction entries with
  | nil => rfl
  | cons entry rest ih =>
      obtain ⟨k, value⟩ := entry
      rw [List.map_cons, lookup?, lookup?, ih]
      split_ifs <;> rfl

lemma lookup?_eq_none {key : κ} {entries : Entries κ α} (h : key ∉ keys entries) :
    lookup? key entries = none := by
  rw [Option.eq_none_iff_forall_ne_some]
  intro value hvalue
  exact h (List.mem_map_of_mem (mem_of_lookup? hvalue))

/-- A new entry is found under its key, and does not hide any other. -/
lemma lookup?_insert_between {key : κ} {before after : Entries κ α}
    (h : key ∉ keys (before ++ after)) (value : α) (other : κ) :
    lookup? other (before ++ (key, value) :: after) =
      if other = key then some value else lookup? other (before ++ after) := by
  rw [lookup?_append, lookup?_append, lookup?]
  split_ifs with hkey hother hother
  · rw [keys, List.map_append, List.mem_append, not_or] at h
    rw [hother, lookup?_eq_none h.1, Option.none_or]
  · exact absurd hkey.symm hother
  · exact absurd hother.symm hkey
  · rfl

end Entries

end DataShape
