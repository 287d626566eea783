import DataShape.Proofs.Matching.Conformance
import DataShape.Proofs.Matching.DeepLifting
import DataShape.Proofs.Value.Equality

/-!
# Templates and equality

Matching a template and comparing with it go about a value differently.  Equality asks for equally
many items or entries and looks every key up as it is; a match holds all items against the first
one of the template, and looks fields up by name, in passes of their own for keys that are not
declared and for fields that are absent.

Still, what equals a template fits it, if the items of every array in it are equal and no map in it
names a field twice.  The other way it takes more: a template array fits arrays of any length, and
keys of different types may have one name.  Where there are no arrays in the template and only texts
for keys, a match is a comparison.

* `Value.Uniform` — in every array there is a first item, which all the items equal.
* `Value.TextKeyed`, `Value.FreeOfArrays` — values with texts for keys, and without arrays.
* `Shape.conforms_of_equal`, `Shape.equal_of_conforms` — the two directions.
* `Shape.accepts_of_equal` — **an equal value fits the template.**
* `Shape.accepts_literal_eq` — **without arrays, a match of a template is a comparison.**
-/

namespace DataShape

namespace Value

/-! ## Arrays of equal items -/

/-- Every array in the value has a first item, and all its items are equal to that one. -/
def Uniform : Value → Prop := Everywhere fun part => ∀ items, part = .array items →
  ∃ first rest, items = first :: rest ∧ ∀ item ∈ items, item.equal first = true

lemma uniform_array_iff (items : List Value) :
    Uniform (.array items) ↔
      (∃ first rest, items = first :: rest ∧ ∀ item ∈ items, item.equal first = true) ∧
        ∀ item ∈ items, item.Uniform :=
  (everywhere_array_iff items).trans (and_congr_left' (by simp))

lemma uniform_scalar {v : Value} (h : v.isScalar = true) : v.Uniform := by
  refine (everywhere_scalar_iff h).mpr ?_
  rintro items rfl
  exact Bool.noConfusion h

lemma uniform_map_iff (entries : List (Key × Value)) :
    Uniform (.map entries) ↔ ∀ entry ∈ entries, entry.2.Uniform :=
  (everywhere_map_iff entries).trans (and_iff_right (by simp))

lemma Unambiguous.of_mem_entries {entries : List (Key × Value)} (h : Unambiguous (.map entries))
    {entry : Key × Value} (hentry : entry ∈ entries) : entry.2.Unambiguous := by
  have hnamed : (entry.1.normalized, entry.2) ∈ byName entries := List.mem_map_of_mem hentry
  exact h.of_mem_map hnamed

/-- A template with a first item in every array and no name twice in any map can be lifted. -/
lemma Uniform.liftable {template : Value} (h : template.Uniform) (hnames : template.Unambiguous) :
    template.Liftable := by
  induction template with
  | array items ih =>
      obtain ⟨⟨first, rest, rfl, -⟩, hitems⟩ := (uniform_array_iff items).mp h
      have hfirst : first ∈ first :: rest := List.mem_cons_self
      exact .array (ih first hfirst (hitems first hfirst) (hnames.of_mem_array hfirst))
  | map entries ih =>
      rw [uniform_map_iff] at h
      exact .map hnames.nodup_names fun entry hentry =>
        ih entry hentry (h entry hentry) (hnames.of_mem_entries hentry)
  | _ => exact .scalar rfl

/-! ## Texts for keys, and no arrays -/

/-- Every key of every map in the value is a text. -/
def TextKeyed : Value → Prop := Everywhere fun part => ∀ entries, part = .map entries →
  ∀ key ∈ Entries.keys entries, ∃ s, key = .text s

lemma textKeyed_array_iff (items : List Value) :
    TextKeyed (.array items) ↔ ∀ item ∈ items, item.TextKeyed :=
  (everywhere_array_iff items).trans (and_iff_right (by simp))

lemma textKeyed_map_iff (entries : List (Key × Value)) :
    TextKeyed (.map entries) ↔
      (∀ key ∈ Entries.keys entries, ∃ s, key = .text s) ∧ ∀ entry ∈ entries, entry.2.TextKeyed :=
  (everywhere_map_iff entries).trans (and_congr_left' (by simp))

/-- The value is no array, and there is none in it. -/
def FreeOfArrays : Value → Prop := Everywhere fun part => ∀ items, part ≠ .array items

lemma not_freeOfArrays_array (items : List Value) : ¬ FreeOfArrays (.array items) :=
  fun h => h _ (.refl _) items rfl

lemma freeOfArrays_map_iff (entries : List (Key × Value)) :
    FreeOfArrays (.map entries) ↔ ∀ entry ∈ entries, entry.2.FreeOfArrays :=
  (everywhere_map_iff entries).trans (and_iff_right (by simp))

/-- Where there are no arrays, they are uniform. -/
lemma FreeOfArrays.uniform {v : Value} (h : v.FreeOfArrays) : v.Uniform :=
  fun part hpart items hitems => absurd hitems (h part hpart items)

end Value

/-- Texts with one name are one key. -/
lemma Key.eq_of_normalized_eq {key other : Key} (hkey : ∃ s, key = .text s)
    (hother : ∃ s, other = .text s) (h : key.normalized = other.normalized) : key = other := by
  obtain ⟨s, rfl⟩ := hkey
  obtain ⟨t, rfl⟩ := hother
  exact congrArg Key.text h

namespace Value

lemma keys_byName (entries : List (Key × Value)) :
    Entries.keys (byName entries) = (Entries.keys entries).map Key.normalized := by
  rw [Entries.keys, Entries.keys, byName, List.map_map, List.map_map]
  rfl

/-- Different texts are different names. -/
lemma TextKeyed.unambiguous {v : Value} (h : v.TextKeyed) (hv : v.WellFormed) :
    v.Unambiguous := by
  induction v with
  | array items ih =>
      rw [textKeyed_array_iff] at h
      rw [wellFormed_array_iff] at hv
      exact .array fun item hitem => ih item hitem (h item hitem) (hv item hitem)
  | map entries ih =>
      rw [textKeyed_map_iff] at h
      rw [wellFormed_map_iff] at hv
      refine .map ?_ fun entry hentry => ih entry hentry (h.2 entry hentry) (hv.2 entry hentry)
      rw [keys_byName]
      exact hv.1.map_on fun key hkey other hother =>
        Key.eq_of_normalized_eq (h.1 key hkey) (h.1 other hother)
  | _ => exact .scalar rfl

/-- A value without two keys of one name has no key twice. -/
lemma Unambiguous.wellFormed {v : Value} (h : v.Unambiguous) : v.WellFormed := by
  induction v with
  | array items ih =>
      rw [wellFormed_array_iff]
      exact fun item hitem => ih item hitem (h.of_mem_array hitem)
  | map entries ih =>
      rw [wellFormed_map_iff]
      refine ⟨?_, fun entry hentry => ih entry hentry (h.of_mem_entries hentry)⟩
      have hnames := h.nodup_names
      rw [keys_byName] at hnames
      exact hnames.of_map _
  | _ => trivial

/-! ## What equals arrays and maps -/

lemma exists_mem_of_forall₂ {R : Value → Value → Prop} {parts items : List Value}
    (h : List.Forall₂ R parts items) : ∀ part ∈ parts, ∃ item ∈ items, R part item := by
  induction h with
  | nil => exact fun part hpart => absurd hpart List.not_mem_nil
  | cons hfirst _ ih =>
      rintro part (_ | ⟨_, hpart⟩)
      · exact ⟨_, List.mem_cons_self, hfirst⟩
      · obtain ⟨item, hitem, hrelated⟩ := ih part hpart
        exact ⟨item, List.mem_cons_of_mem _ hitem, hrelated⟩

/-- What equals an array is an array, and its items are equal to some of the other. -/
lemma eq_array_of_equal {v : Value} {items : List Value} (h : v.equal (.array items) = true) :
    ∃ parts, v = .array parts ∧ ∀ part ∈ parts, ∃ item ∈ items, part.equal item = true := by
  cases v with
  | array parts =>
      obtain ⟨_, ⟨⟩, hitems⟩ := (equal_array_iff parts).mp h
      exact ⟨parts, rfl, exists_mem_of_forall₂ hitems⟩
  | _ => cases h

/-- What equals a map is a map, with equally many entries that are all found. -/
lemma eq_map_of_equal {v : Value} {entries : List (Key × Value)}
    (h : v.equal (.map entries) = true) :
    ∃ present, v = .map present ∧ present.length = entries.length ∧
      ∀ entry ∈ present,
        ∃ other, Entries.lookup? entry.1 entries = some other ∧ entry.2.equal other = true := by
  cases v with
  | map present =>
      obtain ⟨_, ⟨⟩, hfound⟩ := (equal_map_iff present).mp h
      exact ⟨present, rfl, hfound⟩
  | _ => cases h

end Value

namespace Shape

open Value

/-! ## Templates of maps -/

/-- A map conforms to a map that names no field twice if both have the same names and what stands
under a name conforms to what the template has there. -/
lemma conforms_map_iff {entries : List (Key × Value)} {v : Value}
    (hnames : (Entries.keys (byName entries)).Nodup) :
    Conforms (.literal (.map entries)) v ↔ ∃ present, v = .map present ∧
      (∀ entry ∈ present, ∃ source ∈ entries, source.1.normalized = entry.1.normalized ∧
        Conforms (.literal source.2) entry.2) ∧
      ∀ source ∈ entries, ∃ entry ∈ present, entry.1.normalized = source.1.normalized := by
  have hlookup : ∀ name s, Entries.lookup? name (templateFields entries) = some s ↔
      ∃ source ∈ entries, source.1.normalized = name ∧ literal source.2 = s := by
    intro name s
    rw [Entries.lookup?_eq_some_iff (by rwa [keys_templateFields]), templateFields, List.mem_map]
    simp only [Prod.mk.injEq]
  constructor
  · intro h
    cases h with
    | scalar hscalar => exact Bool.noConfusion hscalar
    | mapTemplate h =>
        cases h with
        | @record _ present hdeclared hpresent hparts =>
            refine ⟨present, rfl, fun entry hentry => ?_, fun source hsource => ?_⟩
            · obtain ⟨s, hs⟩ := hdeclared entry hentry
              obtain ⟨source, hsource, hname, rfl⟩ := (hlookup _ s).mp hs
              exact ⟨source, hsource, hname, hparts entry hentry _ hs⟩
            · exact hpresent (source.1.normalized, .literal source.2)
                (List.mem_map.mpr ⟨source, hsource, rfl⟩) rfl
  · rintro ⟨present, rfl, hdeclared, hpresent⟩
    refine .mapTemplate (.record (fun entry hentry => ?_) (fun field hfield _ => ?_)
      fun entry hentry s hs => ?_)
    · obtain ⟨source, hsource, hname, -⟩ := hdeclared entry hentry
      exact ⟨_, (hlookup _ _).mpr ⟨source, hsource, hname, rfl⟩⟩
    · obtain ⟨source, hsource, rfl⟩ := List.mem_map.mp hfield
      exact hpresent source hsource
    · obtain ⟨source, hsource, hname, hconforms⟩ := hdeclared entry hentry
      have hfield := (hlookup _ _).mpr ⟨source, hsource, hname, rfl⟩
      exact Option.some.inj (hfield.symm.trans hs) ▸ hconforms

/-! ## The two directions -/

/-- **What equals a template conforms to it**, if the arrays in the template are uniform and no map
in it names a field twice. -/
theorem conforms_of_equal {template v : Value} (huniform : template.Uniform)
    (hnames : template.Unambiguous) (hv : v.WellFormed) (h : v.equal template = true) :
    Conforms (.literal template) v := by
  induction template generalizing v with
  | array items ih =>
      obtain ⟨⟨first, rest, rfl, hfirst⟩, hitems⟩ := (uniform_array_iff items).mp huniform
      obtain ⟨parts, rfl, hparts⟩ := eq_array_of_equal h
      rw [wellFormed_array_iff] at hv
      refine .arrayTemplate (.sequence fun part hpart => ?_)
      -- The item that the part is equal to need not be the first one, but is equal to that.
      obtain ⟨item, hitem, hequal⟩ := hparts part hpart
      have hmem : first ∈ first :: rest := List.mem_cons_self
      exact ih first hmem (hitems first hmem) (hnames.of_mem_array hmem) (hv part hpart)
        (equal_trans hequal (hfirst item hitem))
  | map entries ih =>
      obtain ⟨present, rfl, hlength, hfound⟩ := eq_map_of_equal h
      rw [uniform_map_iff] at huniform
      rw [wellFormed_map_iff] at hv
      have hkeys := Entries.keys_perm_of_found hv.1 hlength fun entry hentry =>
        (hfound entry hentry).imp fun _ hother => hother.1
      refine (conforms_map_iff hnames.nodup_names).mpr
        ⟨present, rfl, fun entry hentry => ?_, fun source hsource => ?_⟩
      · obtain ⟨other, hother, hequal⟩ := hfound entry hentry
        have hmem := Entries.mem_of_lookup? hother
        exact ⟨_, hmem, rfl, ih _ hmem (huniform _ hmem) (hnames.of_mem_entries hmem)
          (hv.2 entry hentry) hequal⟩
      · -- Equally many keys that are all found leave no field of the template absent.
        obtain ⟨entry, hentry, hkey⟩ :=
          List.mem_map.mp (hkeys.mem_iff.mpr (List.mem_map_of_mem hsource))
        exact ⟨entry, hentry, congrArg Key.normalized hkey⟩
  | _ => exact .scalar rfl h

/-- **What conforms to a template equals it**, if there is no array in the template and all keys are
texts. -/
theorem equal_of_conforms {template v : Value} (harrays : template.FreeOfArrays)
    (htemplate : template.TextKeyed) (hkeys : v.TextKeyed) (hformed : template.WellFormed)
    (hv : v.WellFormed) (h : Conforms (.literal template) v) : v.equal template = true := by
  induction template generalizing v with
  | array items => exact absurd harrays (not_freeOfArrays_array items)
  | map entries ih =>
      have hnames := (htemplate.unambiguous hformed).nodup_names
      obtain ⟨present, rfl, hdeclared, hpresent⟩ := (conforms_map_iff hnames).mp h
      rw [freeOfArrays_map_iff] at harrays
      rw [textKeyed_map_iff] at htemplate hkeys
      rw [wellFormed_map_iff] at hformed hv
      have hkey : ∀ source ∈ entries, ∀ entry ∈ present,
          source.1.normalized = entry.1.normalized → source.1 = entry.1 :=
        fun source hsource entry hentry =>
          Key.eq_of_normalized_eq (htemplate.1 _ (List.mem_map_of_mem hsource))
            (hkeys.1 _ (List.mem_map_of_mem hentry))
      have hperm : (Entries.keys present).Perm (Entries.keys entries) := by
        rw [List.perm_ext_iff_of_nodup hv.1 hformed.1]
        intro key
        constructor
        · intro hmem
          obtain ⟨entry, hentry, rfl⟩ := List.mem_map.mp hmem
          obtain ⟨source, hsource, hname, -⟩ := hdeclared entry hentry
          exact hkey source hsource entry hentry hname ▸ List.mem_map_of_mem hsource
        · intro hmem
          obtain ⟨source, hsource, rfl⟩ := List.mem_map.mp hmem
          obtain ⟨entry, hentry, hname⟩ := hpresent source hsource
          exact hkey source hsource entry hentry hname.symm ▸ List.mem_map_of_mem hentry
      refine (equal_map_iff present).mpr ⟨entries, rfl, ?_, fun entry hentry => ?_⟩
      · simpa [Entries.keys] using hperm.length_eq
      · obtain ⟨source, hsource, hname, hconforms⟩ := hdeclared entry hentry
        refine ⟨source.2, ?_, ?_⟩
        · rw [← hkey source hsource entry hentry hname, Entries.lookup?_eq_some_iff hformed.1]
          exact hsource
        · exact ih source hsource (harrays source hsource) (htemplate.2 source hsource)
            (hkeys.2 entry hentry) (hformed.2 source hsource) (hv.2 entry hentry) hconforms
  | _ =>
      cases h with
      | scalar _ hequal => exact hequal

/-! ## Verdicts -/

/-- The match of a template that can be lifted has a verdict. -/
lemma exists_accepts_template {template : Value} (h : template.Liftable) (v : Value)
    (settings : Settings) : ∃ verdict,
      accepts (.literal template) v settings = .ok verdict ∧
        (verdict = true ↔ Conforms (.literal template) v) := by
  have hopen := not_stopped_template h v
  obtain ⟨verdict, hverdict⟩ := (exists_accepts_eq_ok_iff _ v settings).mpr hopen
  rw [stopped_walk_iff] at hopen
  refine ⟨verdict, hverdict, ?_⟩
  rw [← fits_walk_iff _ v hopen, ← accepts_eq_ok_true_iff _ v settings, hverdict, Except.ok.injEq]

/-- The shape that a template denotes is matched like the literal. -/
lemma exists_ofTemplate? {template : Value} (h : template.Liftable) :
    ∃ shape, ofTemplate? template = .ok shape ∧
      ∀ v settings, shape.accepts v settings = accepts (.literal template) v settings := by
  have hdenotes : ∃ shape, ofTemplate? template = .ok shape := by
    cases h with
    | scalar hscalar =>
        cases template with
        | array items => exact Bool.noConfusion hscalar
        | _ => exact ⟨_, rfl⟩
    | array _ => exact ⟨_, rfl⟩
    | map _ _ => exact ⟨_, rfl⟩
  obtain ⟨shape, hshape⟩ := hdenotes
  refine ⟨shape, hshape, fun v settings => ?_⟩
  have hwalk : shape.walk v = (literal template).walk v := by
    rcases lifted_cases (.inl hshape) with ⟨entries, rfl, rfl⟩ | ⟨-, hwalk⟩
    · cases h with
      | scalar hscalar => exact Bool.noConfusion hscalar
      | map hnames _ => exact walk_ofEntries hnames v
    · exact hwalk v
  rw [accepts_eq, accepts_eq, hwalk]

/-- **An equal value fits the template**, if the arrays in the template are uniform and no map in it
names a field twice.  So such a template without a NaN fits itself, as a literal and as the shape
that it denotes. -/
theorem accepts_of_equal {template : Value} (huniform : template.Uniform)
    (hnames : template.Unambiguous) (settings : Settings) :
    (∀ v, v.WellFormed → v.equal template = true →
      accepts (.literal template) v settings = .ok true) ∧
    (template.FreeOfNaN →
      accepts (.literal template) template settings = .ok true ∧
      ∃ shape, ofTemplate? template = .ok shape ∧
        shape.accepts template settings = .ok true) := by
  have hliftable := huniform.liftable hnames
  have hequal : ∀ v, v.WellFormed → v.equal template = true →
      accepts (.literal template) v settings = .ok true := by
    intro v hv h
    obtain ⟨verdict, hverdict, hconforms⟩ := exists_accepts_template hliftable v settings
    rw [hverdict, hconforms.mpr (conforms_of_equal huniform hnames hv h)]
  refine ⟨hequal, fun hfree => ?_⟩
  have hformed := hnames.wellFormed
  have hself := hequal template hformed ((equal_self_iff hformed).mpr hfree)
  obtain ⟨shape, hshape, hsame⟩ := exists_ofTemplate? hliftable
  exact ⟨hself, shape, hshape, (hsame template settings).trans hself⟩

/-- A list of equal maps that are written differently, in a map with a number and a flag for keys.
The value has its entries in another order, and the list has the second map twice. -/
theorem accepts_of_equal_of_mixed :
    let first := Value.map [(.text "x", .integer 0), (.text "y", .boolean true)]
    let second := Value.map [(.text "y", .boolean true), (.text "x", .float ⟨0x8000000000000000⟩)]
    let template := Value.map [(.number 1, .array [first, second]), (.flag true, .text "1")]
    let v := Value.map [(.flag true, .text "1"), (.number 1, .array [second, second])]
    (template.Uniform ∧ template.Unambiguous ∧ template.FreeOfNaN) ∧
      (v.WellFormed ∧ v.equal template = true) ∧
      accepts (.literal template) v .usual = .ok true ∧
      accepts (.literal template) template .usual = .ok true := by
  intro first second template v
  have hitems : ∀ item ∈ [first, second], item.equal first = true := by decide +kernel
  have huniform : template.Uniform := by
    rw [uniform_map_iff]
    intro entry hentry
    rcases List.mem_pair.mp hentry with rfl | rfl
    · refine (uniform_array_iff _).mpr ⟨⟨first, [second], rfl, hitems⟩, fun item hitem => ?_⟩
      rcases List.mem_pair.mp hitem with rfl | rfl <;>
        simp (disch := decide) [Uniform, first, second, everywhere_map_iff, everywhere_scalar_iff]
    · exact uniform_scalar rfl
  have hnames : template.Unambiguous := by
    refine .map (by decide) fun entry hentry => ?_
    rcases List.mem_pair.mp hentry with rfl | rfl
    · refine .array fun item hitem => ?_
      rcases List.mem_pair.mp hitem with rfl | rfl <;>
        refine .map (by decide) fun part hpart => ?_ <;>
        rcases List.mem_pair.mp hpart with rfl | rfl <;> exact .scalar rfl
    · exact .scalar rfl
  have hfree : template.FreeOfNaN := by
    rw [← equal_self_iff hnames.wellFormed]
    decide +kernel
  have hv : v.WellFormed := by
    simp [v, second, WellFormed, WellFormedItems, WellFormedEntries, Entries.keys]
  have hequal : v.equal template = true := by decide +kernel
  obtain ⟨hfits, hself⟩ := accepts_of_equal huniform hnames .usual
  exact ⟨⟨huniform, hnames, hfree⟩, ⟨hv, hequal⟩, hfits v hv hequal, (hself hfree).1⟩

/-- **Without arrays, a match of a template is a comparison**: if the template has no array and all
keys are texts, the verdict is whether the value equals the template, whatever else the value has
in it. -/
theorem accepts_literal_eq {template v : Value} (hformed : template.WellFormed)
    (harrays : template.FreeOfArrays) (htemplate : template.TextKeyed) (hv : v.WellFormed)
    (hkeys : v.TextKeyed) (settings : Settings) :
    accepts (.literal template) v settings = .ok (v.equal template) := by
  have hnames := htemplate.unambiguous hformed
  obtain ⟨verdict, hverdict, hconforms⟩ :=
    exists_accepts_template (harrays.uniform.liftable hnames) v settings
  rw [hverdict, Except.ok.injEq, Bool.eq_iff_iff, hconforms]
  constructor
  · exact equal_of_conforms harrays htemplate hkeys hformed hv
  · exact conforms_of_equal harrays.uniform hnames hv

/-- A template of maps and numbers, an equal value in another order, and two values that are not
equal to it: one lacks a key, and one has an array with a NaN in the place of a number. -/
theorem accepts_literal_eq_of_nested :
    let template := Value.map [(.text "a", .integer 1), (.text "b", .map [(.text "c", .null)])]
    let same := Value.map [(.text "b", .map [(.text "c", .null)]),
      (.text "a", .float ⟨0x3ff0000000000000⟩)]
    let less := Value.map [(.text "a", .integer 1)]
    let other := Value.map [(.text "a", .array [.float ⟨0x7ff8000000000000⟩]),
      (.text "b", .map [(.text "c", .null)])]
    (template.WellFormed ∧ template.FreeOfArrays ∧ template.TextKeyed) ∧
      (same.WellFormed ∧ same.TextKeyed) ∧ (less.WellFormed ∧ less.TextKeyed) ∧
      (other.WellFormed ∧ other.TextKeyed) ∧
      accepts (.literal template) same .usual = .ok true ∧
      accepts (.literal template) less .usual = .ok false ∧
      accepts (.literal template) other .usual = .ok false := by
  intro template same less other
  have hformed : template.WellFormed ∧ same.WellFormed ∧ less.WellFormed ∧ other.WellFormed := by
    simp [template, same, less, other, WellFormed, WellFormedItems, WellFormedEntries, Entries.keys]
  have hkeys : template.TextKeyed ∧ same.TextKeyed ∧ less.TextKeyed ∧ other.TextKeyed := by
    simp (disch := decide) [template, same, less, other, TextKeyed, everywhere_map_iff,
      everywhere_array_iff, everywhere_scalar_iff, Entries.keys, -List.mem_map]
  have harrays : template.FreeOfArrays := by
    simp (disch := decide) [template, FreeOfArrays, everywhere_map_iff, everywhere_scalar_iff]
  have h : ∀ v : Value, v.WellFormed → v.TextKeyed →
      accepts (.literal template) v .usual = .ok (v.equal template) :=
    fun v hv hkeys' => accepts_literal_eq hformed.1 harrays hkeys.1 hv hkeys' .usual
  have hequal : same.equal template = true ∧ less.equal template = false ∧
      other.equal template = false := by
    decide +kernel
  obtain ⟨hformed, hsame, hless, hother⟩ := hformed
  obtain ⟨hkeys, hsame', hless', hother'⟩ := hkeys
  refine ⟨⟨hformed, harrays, hkeys⟩, ⟨hsame, hsame'⟩, ⟨hless, hless'⟩, ⟨hother, hother'⟩,
    ?_, ?_, ?_⟩
  · rw [h same hsame hsame', hequal.1]
  · rw [h less hless hless', hequal.2.1]
  · rw [h other hother hother', hequal.2.2]

end Shape

end DataShape
