/-!
# Entries in the order of insertion

Maps, records, report nodes and JSON objects all keep their entries in the order in which the keys
first came up.  Such a table is a list of pairs; writing to a key that is there already changes
the value where it stands, and a new key goes to the end.

* `Entries.lookup?` — the value of a key: that of the first entry with it.
* `Entries.alter` — changes the value of a key in place, or adds an entry at the end.
* `Entries.insert` — sets the value of a key.
* `Entries.ofList` — the table that a list of pairs is written to from left to right.
-/

namespace DataShape

/-- Pairs of a key and a value, in the order in which the keys were first written. -/
abbrev Entries (κ α : Type) := List (κ × α)

namespace Entries

variable {κ α : Type} [DecidableEq κ]

/-- The keys, in order. -/
def keys (entries : Entries κ α) : List κ := entries.map (·.1)

/-- The value of a key, if there is an entry for it. -/
def lookup? (key : κ) : Entries κ α → Option α
  | [] => none
  | (k, value) :: rest => if k = key then some value else lookup? key rest

/-- Changes the value of a key where it stands; a key without an entry gets one at the end. -/
def alter (key : κ) (change : Option α → α) : Entries κ α → Entries κ α
  | [] => [(key, change none)]
  | (k, value) :: rest =>
    if k = key then (k, change (some value)) :: rest else (k, value) :: alter key change rest

/-- Sets the value of a key. -/
def insert (key : κ) (value : α) (entries : Entries κ α) : Entries κ α :=
  alter key (fun _ => value) entries

/-- Writes pairs from left to right: of a repeated key the last value stays, in the first place. -/
def ofList (pairs : List (κ × α)) : Entries κ α :=
  pairs.foldl (fun entries pair => insert pair.1 pair.2 entries) []

/-! ## What is found -/

/-- What is found for a key stands under it. -/
theorem mem_of_lookup? {key : κ} {value : α} {entries : Entries κ α}
    (h : lookup? key entries = some value) : (key, value) ∈ entries := by
  induction entries with
  | nil => simp [lookup?] at h
  | cons entry rest ih =>
    obtain ⟨k, first⟩ := entry
    by_cases hk : k = key
    · simp [lookup?, hk] at h
      simp [hk, h]
    · rw [lookup?, if_neg hk] at h
      exact List.mem_cons_of_mem _ (ih h)

/-! ## Looking up what was written -/

/-- A changed key has the changed value. -/
theorem lookup?_alter_self (key : κ) (change : Option α → α) (entries : Entries κ α) :
    lookup? key (alter key change entries) = some (change (lookup? key entries)) := by
  induction entries with
  | nil => simp [alter, lookup?]
  | cons entry rest ih =>
    obtain ⟨k, value⟩ := entry
    by_cases h : k = key <;> simp [alter, lookup?, h, ih]

/-- Every other key keeps its value. -/
theorem lookup?_alter_of_ne {key other : κ} (h : other ≠ key) (change : Option α → α)
    (entries : Entries κ α) : lookup? other (alter key change entries) = lookup? other entries := by
  induction entries with
  | nil => simp [alter, lookup?, h.symm]
  | cons entry rest ih =>
    obtain ⟨k, value⟩ := entry
    by_cases hk : k = key
    · subst hk
      simp [alter, lookup?, h.symm]
    · rw [alter, if_neg hk, lookup?, lookup?, ih]

/-- Writing to a key never moves a key, and adds it at the end if it is new. -/
theorem keys_alter (key : κ) (change : Option α → α) (entries : Entries κ α) :
    keys (alter key change entries) =
      if key ∈ keys entries then keys entries else keys entries ++ [key] := by
  induction entries with
  | nil => simp [alter, keys]
  | cons entry rest ih =>
    obtain ⟨k, value⟩ := entry
    by_cases h : k = key
    · simp [alter, keys, h]
    · have h' : ¬ key = k := fun e => h e.symm
      simp only [keys] at ih
      by_cases hm : key ∈ rest.map (·.1) <;> simp_all [alter, keys]

end Entries

end DataShape
