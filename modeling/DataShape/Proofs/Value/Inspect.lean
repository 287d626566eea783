import DataShape.Matching.Mismatch
import DataShape.Proofs.Text.Quoted
import DataShape.Proofs.Value.Equality

/-!
# What a text shows

The text that shows a value shows no other value, as long as there are no floating-point numbers and
no foreign values in it.  Texts are quoted, so nothing in them is mistaken for a bracket, a comma or
another kind of value; numbers and truth values are bare, and so are the keys of these types beside
keys in quotes.

The proof reads two equal texts from the left.  Already the first character tells the kind of the
value.  That the texts of two equal values end at the same place is proved along with it, whatever
comes behind them: behind an item that is a comma or a bracket, which no number goes on with.

* `Value.Plain` — values without floating-point numbers and foreign values.
* `Text.Unmistakable` — two parts that can be told apart by their texts, whatever comes behind.
* `Value.kind_eq_of_append` — the first character tells the kind.
* `Value.unmistakable_inspectChars` — **a plain value can be told by its text.**
* `Mismatch.Names` — a message that begins with a value.
* `Value.eq_of_shown` — **a text shows one plain value, and so does a message.**
-/

namespace DataShape

/-! ## Rows -/

namespace Text

variable {α : Type} {shown : α → List Char}

/-- The texts of two parts are equal only if the parts are, whatever comes behind the texts; and
what comes behind is equal then, too. -/
def Unmistakable (shown : α → List Char) (part other : α) : Prop :=
  ∀ rest more, EndsNumber rest → EndsNumber more →
    shown part ++ rest = shown other ++ more → part = other ∧ rest = more

/-- Parts with a comma and a blank before each. -/
def moreRow (shown : α → List Char) (parts : List α) : List Char :=
  parts.flatMap fun part => ',' :: ' ' :: shown part

/-- Parts with a comma and a blank between them. -/
def row (shown : α → List Char) : List α → List Char
  | [] => []
  | part :: rest => shown part ++ moreRow shown rest

lemma moreRow_cons (part : α) (parts : List α) :
    moreRow shown (part :: parts) = ',' :: ' ' :: row shown (part :: parts) := rfl

lemma endsNumber_moreRow {close : Char} (hclose : close.isDigit = false) (parts : List α)
    (rest : List Char) : EndsNumber (moreRow shown parts ++ close :: rest) := by
  cases parts with
  | nil => exact endsNumber_cons hclose rest
  | cons part parts => exact endsNumber_cons rfl _

/-- Parts can be told one by one, up to the character that closes the row. -/
lemma moreRow_append_inj {close : Char} (hclose : close.isDigit = false) (hcomma : close ≠ ',')
    {parts others : List α} {rest more : List Char}
    (hparts : ∀ part ∈ parts, ∀ other ∈ others, Unmistakable shown part other)
    (h : moreRow shown parts ++ close :: rest = moreRow shown others ++ close :: more) :
    parts = others ∧ rest = more := by
  induction parts generalizing others with
  | nil =>
      cases others with
      | nil => exact ⟨rfl, (List.cons.inj h).2⟩
      | cons other others => exact absurd (List.cons.inj h).1 hcomma
  | cons part parts ih =>
      cases others with
      | nil => exact absurd (List.cons.inj h).1.symm hcomma
      | cons other others =>
          simp only [moreRow_cons, row, List.cons_append, List.append_assoc, List.cons.injEq,
            true_and] at h
          obtain ⟨rfl, htail⟩ := hparts part List.mem_cons_self other List.mem_cons_self _ _
            (endsNumber_moreRow hclose _ _) (endsNumber_moreRow hclose _ _) h
          obtain ⟨rfl, hrest⟩ := ih (fun one hone two htwo => hparts one
            (List.mem_cons_of_mem _ hone) two (List.mem_cons_of_mem _ htwo)) htail
          exact ⟨rfl, hrest⟩

/-- A whole row can be told, if no part begins like its end. -/
lemma row_append_inj {close : Char} (hclose : close.isDigit = false) (hcomma : close ≠ ',')
    {parts others : List α} {rest more : List Char}
    (hopen : ∀ part, part ∈ parts ∨ part ∈ others → ∀ rest more, shown part ++ rest ≠ close :: more)
    (hparts : ∀ part ∈ parts, ∀ other ∈ others, Unmistakable shown part other)
    (h : row shown parts ++ close :: rest = row shown others ++ close :: more) :
    parts = others ∧ rest = more := by
  cases parts with
  | nil =>
      cases others with
      | nil => exact ⟨rfl, (List.cons.inj h).2⟩
      | cons other others =>
          rw [row, row, List.append_assoc] at h
          exact absurd h.symm (hopen other (.inr List.mem_cons_self) _ _)
  | cons part parts =>
      cases others with
      | nil =>
          rw [row, row, List.append_assoc] at h
          exact absurd h (hopen part (.inl List.mem_cons_self) _ _)
      | cons other others =>
          -- With a comma in front of both, these are rows of further parts.
          refine moreRow_append_inj hclose hcomma hparts ?_
          rw [moreRow_cons, moreRow_cons, List.cons_append, List.cons_append, List.cons_append,
            List.cons_append, h]

end Text

open Text

namespace Value

variable {v w : Value} {rest more : List Char}

lemma inspectItems_eq (items : List Value) : inspectItems items = row inspectChars items := by
  have hmore : ∀ items, inspectMoreItems items = moreRow inspectChars items := by
    intro items
    induction items with
    | nil => rfl
    | cons item items ih =>
        rw [inspectMoreItems, ih]
        rfl
  cases items with
  | nil => rfl
  | cons item items => rw [inspectItems, hmore, row]

/-- The text of an entry. -/
def entryChars (entry : Key × Value) : List Char :=
  entry.1.inspectChars ++ ':' :: ' ' :: entry.2.inspectChars

lemma inspectEntries_eq (entries : List (Key × Value)) :
    inspectEntries entries = row entryChars entries := by
  have hmore : ∀ entries, inspectMoreEntries entries = moreRow entryChars entries := by
    intro entries
    induction entries with
    | nil => rfl
    | cons entry entries ih =>
        rw [inspectMoreEntries, ih, moreRow_cons, row, entryChars, List.append_assoc]
        rfl
  cases entries with
  | nil => rfl
  | cons entry entries =>
      rw [inspectEntries, hmore, row, entryChars, List.append_assoc]
      rfl

/-! ## Plain values -/

/-- The value is no floating-point number and no foreign value, and there is none in it. -/
def Plain : Value → Prop := Everywhere fun part =>
  (∀ x, part ≠ .float x) ∧ ∀ className shown, part ≠ .foreign className shown

lemma not_plain_float (x : Binary64) : ¬ Plain (.float x) :=
  fun h => (h _ (.refl _)).1 x rfl

lemma not_plain_foreign (className shown : String) : ¬ Plain (.foreign className shown) :=
  fun h => (h _ (.refl _)).2 className shown rfl

lemma plain_array_iff (items : List Value) : Plain (.array items) ↔ ∀ item ∈ items, item.Plain :=
  (everywhere_array_iff items).trans (and_iff_right (by simp))

lemma plain_map_iff (entries : List (Key × Value)) :
    Plain (.map entries) ↔ ∀ entry ∈ entries, entry.2.Plain :=
  (everywhere_map_iff entries).trans (and_iff_right (by simp))

/-! ## The first character -/

/-- The kind of the plain values whose text begins with a character. -/
def kindOf? (c : Char) : Option Kind :=
  if c = '-' ∨ c.isDigit = true then some .integer
  else match c with
    | 'n' => some .null
    | 't' => some .boolean
    | 'f' => some .boolean
    | '"' => some .text
    | '[' => some .array
    | '{' => some .map
    | _ => none

/-- **The first character tells the kind.** -/
lemma exists_inspectChars_eq_cons (hv : v.Plain) :
    ∃ c cs, v.inspectChars = c :: cs ∧ kindOf? c = some v.kind := by
  cases v with
  | null => exact ⟨'n', _, rfl, rfl⟩
  | boolean b => cases b <;> exact ⟨_, _, rfl, rfl⟩
  | integer n =>
      obtain ⟨c, cs, hcs, hc⟩ := Decimal.exists_integerChars_eq_cons n
      exact ⟨c, cs, hcs, if_pos hc⟩
  | float x => exact absurd hv (not_plain_float x)
  | text s => exact ⟨'"', _, rfl, rfl⟩
  | array items => exact ⟨'[', _, rfl, rfl⟩
  | map entries => exact ⟨'\x7b', _, rfl, rfl⟩
  | foreign className shown => exact absurd hv (not_plain_foreign className shown)

lemma kind_eq_of_append (hv : v.Plain) (hw : w.Plain)
    (h : v.inspectChars ++ rest = w.inspectChars ++ more) : v.kind = w.kind := by
  obtain ⟨c, cs, hcs, hc⟩ := exists_inspectChars_eq_cons hv
  obtain ⟨d, ds, hds, hd⟩ := exists_inspectChars_eq_cons hw
  rw [hcs, hds] at h
  rw [(List.cons.inj h).1, hd] at hc
  exact (Option.some.inj hc).symm

/-- No text begins with a closing bracket. -/
lemma inspectChars_append_ne {close : Char} (hclose : kindOf? close = none) (hv : v.Plain)
    (rest more : List Char) : v.inspectChars ++ rest ≠ close :: more := by
  obtain ⟨c, cs, hcs, hc⟩ := exists_inspectChars_eq_cons hv
  rw [hcs]
  intro h
  rw [(List.cons.inj h).1, hclose] at hc
  cases hc

/-! ## Scalars and keys -/

lemma unmistakable_scalar (hscalar : v.isScalar = true) (hv : v.Plain) (hw : w.Plain) :
    Unmistakable inspectChars v w := by
  intro rest more hrest hmore h
  have hkind := kind_eq_of_append hv hw h
  cases v with
  | null =>
      cases w with
      | null => exact ⟨rfl, List.append_cancel_left h⟩
      | _ => cases hkind
  | boolean b =>
      cases w with
      | boolean other => cases b <;> cases other <;> simp_all [inspectChars, Key.flagText]
      | _ => cases hkind
  | integer n =>
      cases w with
      | integer other =>
          obtain ⟨rfl, htail⟩ := Decimal.integerChars_append_inj hrest hmore h
          exact ⟨rfl, htail⟩
      | _ => cases hkind
  | float x => exact absurd hv (not_plain_float x)
  | text s =>
      cases w with
      | text other =>
          obtain ⟨hchars, htail⟩ := quoteChars_append_inj h
          exact ⟨congrArg Value.text (String.toList_inj.mp hchars), htail⟩
      | _ => cases hkind
  | array items => cases hscalar
  | map entries => cases hscalar
  | foreign className shown => exact absurd hv (not_plain_foreign className shown)

end Value

namespace Key

/-- The scalar that is shown like the key. -/
def scalar : Key → Value
  | .text s => .text s
  | .number n => .integer n
  | .flag b => .boolean b

lemma inspectChars_scalar (key : Key) : key.scalar.inspectChars = key.inspectChars := by
  cases key with
  | text s => rfl
  | number n => exact (String.toList_ofList).symm
  | flag b => rfl

lemma plain_scalar (key : Key) : key.scalar.Plain := by
  cases key <;> exact (Value.everywhere_scalar_iff rfl).mpr ⟨nofun, nofun⟩

lemma unmistakable_inspectChars (key other : Key) : Unmistakable inspectChars key other := by
  intro rest more hrest hmore h
  rw [← inspectChars_scalar, ← inspectChars_scalar] at h
  have hscalar : key.scalar.isScalar = true := by cases key <;> rfl
  obtain ⟨hsame, htail⟩ :=
    Value.unmistakable_scalar hscalar key.plain_scalar other.plain_scalar _ _ hrest hmore h
  refine ⟨?_, htail⟩
  cases key <;> cases other <;> cases hsame <;> rfl

end Key

namespace Value

/-! ## All plain values -/

lemma unmistakable_entry {entry other : Key × Value}
    (h : Unmistakable inspectChars entry.2 other.2) : Unmistakable entryChars entry other := by
  intro rest more hrest hmore hsame
  simp only [entryChars, List.append_assoc, List.cons_append] at hsame
  obtain ⟨hkey, hvalue⟩ := Key.unmistakable_inspectChars entry.1 other.1 _ _
    (endsNumber_cons rfl _) (endsNumber_cons rfl _) hsame
  simp only [List.cons.injEq, true_and] at hvalue
  obtain ⟨hpart, htail⟩ := h rest more hrest hmore hvalue
  exact ⟨Prod.ext hkey hpart, htail⟩

lemma entryChars_append_ne (entry : Key × Value) (rest more : List Char) :
    entryChars entry ++ rest ≠ '\x7d' :: more := by
  rw [entryChars, ← Key.inspectChars_scalar, List.append_assoc]
  exact inspectChars_append_ne rfl entry.1.plain_scalar _ _

/-- **A plain value can be told by its text**, whatever comes behind, as long as that does not begin
with a digit. -/
theorem unmistakable_inspectChars (hv : v.Plain) (hw : w.Plain) :
    Unmistakable inspectChars v w := by
  induction v generalizing w with
  | array items ih =>
      intro rest more hrest hmore h
      have hkind := kind_eq_of_append hv hw h
      cases w with
      | array others =>
          rw [plain_array_iff] at hv hw
          simp only [inspectChars, inspectItems_eq, List.cons_append, List.append_assoc,
            List.cons.injEq, true_and, List.nil_append] at h
          obtain ⟨rfl, htail⟩ := row_append_inj (by decide) (by decide)
            (fun part hpart => inspectChars_append_ne rfl (hpart.elim (hv part) (hw part)))
            (fun item hitem other hother => ih item hitem (hv item hitem) (hw other hother)) h
          exact ⟨rfl, htail⟩
      | _ => cases hkind
  | map entries ih =>
      intro rest more hrest hmore h
      have hkind := kind_eq_of_append hv hw h
      cases w with
      | map others =>
          rw [plain_map_iff] at hv hw
          simp only [inspectChars, inspectEntries_eq, List.cons_append, List.append_assoc,
            List.cons.injEq, true_and, List.nil_append] at h
          obtain ⟨rfl, htail⟩ := row_append_inj (by decide) (by decide)
            (fun part _ => entryChars_append_ne part)
            (fun entry hentry other hother => unmistakable_entry
              (ih entry hentry (hv entry hentry) (hw other hother))) h
          exact ⟨rfl, htail⟩
      | _ => cases hkind
  | _ => exact unmistakable_scalar rfl hv hw

end Value

/-! ## Messages -/

/-- The mismatches with a message that begins with a value: all those about a value, and not about
one of its keys. -/
inductive Mismatch.Names (v : Value) : Mismatch → Prop
  | wrongKind (kind : String) : Names v (.wrongKind v.inspect kind)
  | unmatchedPattern (pattern : String) : Names v (.unmatchedPattern v.inspect pattern)
  | unequal (literal : String) : Names v (.unequal v.inspect literal)
  | noAlternative (rejected : Rejected) : Names v (.noAlternative v.inspect rejected)

lemma Value.toList_inspect (v : Value) : v.inspect.toList = v.inspectChars := String.toList_ofList

/-- Behind the value its message goes on with a blank. -/
lemma Mismatch.Names.exists_message_eq {v : Value} {m : Mismatch} (h : m.Names v) :
    ∃ rest, m.message.toList = v.inspectChars ++ ' ' :: rest := by
  cases h <;> delta message <;>
    simp only [String.toList_append, List.append_assoc, Value.toList_inspect] <;>
    exact ⟨_, rfl⟩

namespace Value

/-- **A text shows one plain value, and so does a message.**  Two values without floating-point
numbers and foreign values have the same text only if they are the same value, with the same entries
in the same order; and a message about one of them is never a message about the other. -/
theorem eq_of_shown {v w : Value} (hv : v.Plain) (hw : w.Plain) :
    (v.inspect = w.inspect → v = w) ∧
      ∀ m other : Mismatch, m.Names v → other.Names w → m.message = other.message → v = w := by
  constructor
  · intro h
    have hchars : v.inspectChars ++ [] = w.inspectChars ++ [] := by
      rw [List.append_nil, List.append_nil, ← toList_inspect, h, toList_inspect]
    exact (unmistakable_inspectChars hv hw _ _ endsNumber_nil endsNumber_nil hchars).1
  · intro m other hm hother h
    obtain ⟨rest, hrest⟩ := hm.exists_message_eq
    obtain ⟨more, hmore⟩ := hother.exists_message_eq
    rw [h, hmore] at hrest
    exact (unmistakable_inspectChars hv hw _ _ (endsNumber_cons rfl _) (endsNumber_cons rfl _)
      hrest.symm).1

/-- Two maps that differ only in that one has a number and a flag for keys and the other has texts,
each with a text in it that looks like the end of an item. -/
theorem eq_of_shown_of_keys :
    let items (key flag : Key) : Value := .map [(key, .array [.integer (-1), .null]),
      (flag, .text "a\", \"b"), (.text "c", .map [])]
    let v := items (.number 1) (.flag true)
    let w := items (.text "1") (.text "true")
    (v.Plain ∧ w.Plain) ∧
      v.inspect = "\x7b1: [-1, null], true: \"a\\\", \\\"b\", \"c\": \x7b\x7d\x7d" ∧
      (v.inspect = w.inspect → v = w) ∧
      ∀ kind, (Mismatch.wrongKind v.inspect kind).message ≠
        (Mismatch.wrongKind w.inspect kind).message := by
  intro items v w
  have hplain : ∀ key flag, (items key flag).Plain := by
    intro key flag
    simp (disch := decide) [items, Plain, everywhere_map_iff, everywhere_array_iff,
      everywhere_scalar_iff]
  have hne : v ≠ w := by simp [v, w, items]
  obtain ⟨htext, hmessage⟩ := eq_of_shown (hplain (.number 1) (.flag true))
    (hplain (.text "1") (.text "true"))
  exact ⟨⟨hplain _ _, hplain _ _⟩, by decide, htext,
    fun kind h => hne (hmessage _ _ (.wrongKind kind) (.wrongKind kind) h)⟩

end Value

end DataShape
