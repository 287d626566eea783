import DataShape.Regex.Flags
import Mathlib.Data.List.Infix
import Mathlib.Data.List.TakeWhile

/-!
# Readers and the end of the frame

A source that is to match whole texts is read with a frame around it, so its readers find the end
of the frame where the source ends.  A reader that does not get to the end of the source reads the
same in both cases.  With one that gets there, one of three things happens.  It is content with what
it has and stops in front of the frame.  It is in a comment, and takes the frame for a part of that.
Or it is not content, and takes from the frame what it still wants, if it can.

So one statement about a reader compares what it reads in both cases (`Outlook`), and the ways of
putting readers together keep it (`Steady`).

* `frameEnd` — what the frame puts behind a source.
* `Outlook` — how two results compare, of which one was read with the end of the frame in sight.
* `Steady` — a reader whose results compare so, for every text.
* `skip_append` — blanks and comments in front of the frame.
* `Steady.bind`, `Steady.prefixed`, `Steady.skipping` — readers that are put together.
-/

namespace DataShape

namespace Regex

/-! ## Results that compare -/

/-- What the frame of a whole match puts behind a source. -/
def frameEnd : List Char := [')', '\\', 'z']

/-- Something that is read at the front of a text, and the text behind it. -/
abbrev Reader (α : Type) := List Char → Option (α × List Char)

variable {α β : Type} {lost : α → List Char → Prop} {wrong : β → List Char → Prop}

/-- The closing parenthesis of the frame was read. -/
def Past (_ : α) (rest : List Char) : Prop := rest <:+ ['\\', 'z']

/-- **How results compare**, the first of a text alone and the second with the end of the frame
behind the text; `lost` is what may be read beyond the text. -/
inductive Outlook (lost : α → List Char → Prop) :
    Option (α × List Char) → Option (α × List Char) → Prop
  /-- The frame was not reached. -/
  | same (x : α) (rest : List Char) : Outlook lost (some (x, rest)) (some (x, rest ++ frameEnd))
  /-- The frame was passed over. -/
  | passed (x : α) : Outlook lost (some (x, [])) (some (x, []))
  /-- Nothing is read. -/
  | refused : Outlook lost none none
  /-- Something is read only with the frame. -/
  | broken {x : α} {rest : List Char} : lost x rest → Outlook lost none (some (x, rest))

/-- **A reader that is steady**: it takes from the front of the text, and its results compare. -/
structure Steady (lost : α → List Char → Prop) (f : Reader α) : Prop where
  shortens : ∀ {cs x rest}, f cs = some (x, rest) → rest <:+ cs
  outlook : ∀ cs, Outlook lost (f cs) (f (cs ++ frameEnd))

lemma Outlook.self {res : Option (α × List Char)} (h : ∀ x rest, res = some (x, rest) → rest = []) :
    Outlook lost res res := by
  cases res with
  | none => exact .refused
  | some found =>
      obtain ⟨x, rest⟩ := found
      obtain rfl := h x rest rfl
      exact .passed x

lemma Outlook.of_lost {framed : Option (α × List Char)}
    (h : ∀ x rest, framed = some (x, rest) → lost x rest) : Outlook lost none framed := by
  cases framed with
  | none => exact .refused
  | some found => exact .broken (h found.1 found.2 rfl)

lemma Outlook.mono {less : α → List Char → Prop} (hlost : ∀ x rest, less x rest → lost x rest)
    {res framed : Option (α × List Char)} (h : Outlook less res framed) :
    Outlook lost res framed := by
  cases h with
  | same x rest => exact .same x rest
  | passed x => exact .passed x
  | refused => exact .refused
  | broken h => exact .broken (hlost _ _ h)

/-- Going on with what was read. -/
lemma Outlook.bind {res framed : Option (α × List Char)} (h : Outlook lost res framed)
    {g : α → Reader β} (hg : ∀ x, Steady wrong (g x))
    (hlost : ∀ x rest, lost x rest → ∀ y more, g x rest = some (y, more) → wrong y more) :
    Outlook wrong (res.bind fun found => g found.1 found.2)
      (framed.bind fun found => g found.1 found.2) := by
  cases h with
  | same x rest => exact (hg x).outlook rest
  | passed x => exact .self fun y rest hy => List.suffix_nil.mp ((hg x).shortens hy)
  | refused => exact .refused
  | broken h =>
      rename_i x rest
      exact .of_lost fun y more hfound => hlost x rest h y more hfound

/-- Where the way was lost before it stays so. -/
lemma Outlook.bindPast {res framed : Option (α × List Char)} (h : Outlook Past res framed)
    {g : α → Reader β} (hg : ∀ x, Steady Past (g x)) :
    Outlook Past (res.bind fun found => g found.1 found.2)
      (framed.bind fun found => g found.1 found.2) :=
  h.bind hg fun x _ hpast _ _ hfound => ((hg x).shortens hfound).trans hpast

lemma Outlook.mapOf {res framed : Option (α × List Char)} (h : Outlook lost res framed) (g : α → β)
    (hlost : ∀ x rest, lost x rest → wrong (g x) rest) :
    Outlook wrong (res.map fun found => (g found.1, found.2))
      (framed.map fun found => (g found.1, found.2)) := by
  cases h with
  | same x rest => exact .same (g x) rest
  | passed x => exact .passed (g x)
  | refused => exact .refused
  | broken h => exact .broken (hlost _ _ h)

lemma Outlook.map {res framed : Option (α × List Char)} (h : Outlook Past res framed) (g : α → β) :
    Outlook Past (res.map fun found => (g found.1, found.2))
      (framed.map fun found => (g found.1, found.2)) :=
  h.mapOf g fun _ _ => id

namespace Steady

/-! ## Readers that are put together -/

variable {f : Reader α}

/-- On nothing a reader reads the same wherever the nothing comes from. -/
lemma self (hf : Steady lost f) : Outlook lost (f []) (f []) :=
  .self fun _ _ h => List.suffix_nil.mp (hf.shortens h)

lemma mono {less : α → List Char → Prop} (hlost : ∀ x rest, less x rest → lost x rest)
    (hf : Steady less f) : Steady lost f :=
  ⟨hf.shortens, fun cs => (hf.outlook cs).mono hlost⟩

lemma of_eq {g : Reader α} (hg : Steady lost g) (h : ∀ cs, f cs = g cs) : Steady lost f :=
  funext h ▸ hg

lemma pure (x : α) : Steady lost fun cs => some (x, cs) where
  shortens h := by
    cases h
    exact List.suffix_rfl
  outlook cs := .same x cs

lemma none : Steady lost fun _ => Option.none where
  shortens h := nomatch h
  outlook _ := .refused

lemma ite {c : Prop} [Decidable c] {g : Reader α} (hf : Steady lost f) (hg : Steady lost g) :
    Steady lost fun cs => if c then f cs else g cs := by
  split_ifs
  · exact hf
  · exact hg

/-- What does not depend on the text may be missing. -/
lemma given (value : Option β) {g : β → Reader α} (hg : ∀ x, Steady lost (g x)) :
    Steady lost fun cs => value.bind fun x => g x cs := by
  cases value with
  | none => exact none
  | some x => exact hg x

/-- What does not depend on the text takes nothing from it. -/
lemma known (value : Option β) (g : β → α) :
    Steady lost fun cs => value.map fun x => (g x, cs) := by
  cases value with
  | none => exact none
  | some x => exact pure (g x)

lemma bindOf (hf : Steady lost f) {g : α → Reader β} (hg : ∀ x, Steady wrong (g x))
    (hlost : ∀ x rest, lost x rest → ∀ y more, g x rest = some (y, more) → wrong y more) :
    Steady wrong fun cs => (f cs).bind fun found => g found.1 found.2 where
  shortens h := by
    obtain ⟨found, hfound, hrest⟩ := Option.bind_eq_some_iff.mp h
    exact ((hg found.1).shortens hrest).trans (hf.shortens hfound)
  outlook cs := (hf.outlook cs).bind hg hlost

/-- **One reader after the other.** -/
lemma bind (hf : Steady Past f) {g : α → Reader β} (hg : ∀ x, Steady Past (g x)) :
    Steady Past fun cs => (f cs).bind fun found => g found.1 found.2 :=
  hf.bindOf hg fun x _ hpast _ _ hfound => ((hg x).shortens hfound).trans hpast

lemma mapOf (hf : Steady lost f) (g : α → β) (hlost : ∀ x rest, lost x rest → wrong (g x) rest) :
    Steady wrong fun cs => (f cs).map fun found => (g found.1, found.2) where
  shortens h := by
    obtain ⟨found, hfound, hmap⟩ := Option.map_eq_some_iff.mp h
    cases hmap
    exact hf.shortens hfound
  outlook cs := (hf.outlook cs).mapOf g hlost

lemma map (hf : Steady Past f) (g : α → β) :
    Steady Past fun cs => (f cs).map fun found => (g found.1, found.2) :=
  hf.mapOf g fun _ _ => id

/-! ## Looking at the next characters -/

lemma prefix_append_iff {mark : List Char} (hmark : ')' ∉ mark) (cs : List Char) :
    mark <+: cs ++ frameEnd ↔ mark <+: cs := by
  constructor
  · intro h
    rcases List.prefix_or_prefix_of_prefix h (List.prefix_append cs frameEnd) with
      hstart | ⟨more, rfl⟩
    · exact hstart
    · rw [List.prefix_append_right_inj] at h
      cases more with
      | nil => rw [List.append_nil]
      | cons c rest =>
          rw [frameEnd, List.cons_prefix_cons] at h
          exact absurd (List.mem_append_right cs (h.1 ▸ List.mem_cons_self)) hmark
  · exact fun h => h.trans (List.prefix_append cs frameEnd)

/-- A reader is steady on texts that do not begin with one of the marks. -/
structure But (lost : α → List Char → Prop) (marks : List (List Char)) (f : Reader α) : Prop where
  shortens : ∀ {cs x rest}, (∀ mark ∈ marks, ¬ mark <+: cs) → f cs = some (x, rest) → rest <:+ cs
  outlook : ∀ cs, (∀ mark ∈ marks, ¬ mark <+: cs) → Outlook lost (f cs) (f (cs ++ frameEnd))

lemma of_but (hf : But lost [] f) : Steady lost f where
  shortens h := hf.shortens (List.forall_mem_nil _) h
  outlook cs := hf.outlook cs (List.forall_mem_nil _)

/-- The branch of a mark. -/
lemma But.mark {marks : List (List Char)} (mark : List Char) {g : Reader α}
    (hwith : ∀ cs, (∀ other ∈ marks, ¬ other <+: mark ++ cs) → f (mark ++ cs) = g cs)
    (hmarks : ∀ other ∈ marks, ')' ∉ other) (hg : Steady lost g)
    (hf : But lost (mark :: marks) f) : But lost marks f where
  shortens {cs x rest} hcs hfound := by
    by_cases hmark : mark <+: cs
    · obtain ⟨more, rfl⟩ := hmark
      rw [hwith more hcs] at hfound
      exact (hg.shortens hfound).trans (List.suffix_append mark more)
    · exact hf.shortens (List.forall_mem_cons.mpr ⟨hmark, hcs⟩) hfound
  outlook cs hcs := by
    by_cases hmark : mark <+: cs
    · obtain ⟨more, rfl⟩ := hmark
      have hframed : ∀ other ∈ marks, ¬ other <+: mark ++ (more ++ frameEnd) := by
        intro other hother
        rw [← List.append_assoc, prefix_append_iff (hmarks other hother)]
        exact hcs other hother
      rw [List.append_assoc, hwith more hcs, hwith _ hframed]
      exact hg.outlook more
    · exact hf.outlook cs (List.forall_mem_cons.mpr ⟨hmark, hcs⟩)

/-- What is left without the marks. -/
lemma But.rest {marks : List (List Char)} {h : Reader α} (hmarks : ∀ mark ∈ marks, ')' ∉ mark)
    (hwithout : ∀ cs, (∀ mark ∈ marks, ¬ mark <+: cs) → f cs = h cs) (hh : Steady lost h) :
    But lost marks f where
  shortens hcs hfound := hh.shortens (hwithout _ hcs ▸ hfound)
  outlook cs hcs := by
    have hframed : ∀ mark ∈ marks, ¬ mark <+: cs ++ frameEnd := fun mark hmark => by
      rw [prefix_append_iff (hmarks mark hmark)]
      exact hcs mark hmark
    rw [hwithout cs hcs, hwithout _ hframed]
    exact hh.outlook cs

/-- **A reader that first looks for a mark**, which the frame does not have. -/
lemma prefixed (mark : List Char) (hmark : ')' ∉ mark) {g h : Reader α}
    (hwith : ∀ cs, f (mark ++ cs) = g cs) (hwithout : ∀ cs, ¬ mark <+: cs → f cs = h cs)
    (hg : Steady lost g) (hh : Steady lost h) : Steady lost f :=
  of_but (.mark mark (fun cs _ => hwith cs) (List.forall_mem_nil _) hg
    (.rest (List.forall_mem_singleton.mpr hmark)
      (fun cs hcs => hwithout cs (hcs mark List.mem_cons_self)) hh))

/-- A reader that takes one character and wants it. -/
lemma cons (hnil : f [] = Option.none) (hend : Outlook lost Option.none (f frameEnd))
    (hcons : ∀ c, Steady lost fun cs => f (c :: cs)) : Steady lost f where
  shortens {cs x rest} h := by
    cases cs with
    | nil => rw [hnil] at h; cases h
    | cons c cs => exact ((hcons c).shortens h).trans (List.suffix_cons c cs)
  outlook cs := by
    cases cs with
    | nil => rw [hnil]; exact hend
    | cons c cs => exact (hcons c).outlook cs

end Steady

/-! ## Up to a character -/

/-- What stands up to the first character of some kind does not depend on what follows it. -/
lemma span_append {p : Char → Bool} {cs : List Char} (h : ¬ ∀ c ∈ cs, p c = true) :
    ∃ c rest, cs.dropWhile p = c :: rest ∧ p c = false ∧ ∀ tail : List Char,
      (cs ++ tail).takeWhile p = cs.takeWhile p ∧
        (cs ++ tail).dropWhile p = c :: (rest ++ tail) := by
  induction cs with
  | nil => exact absurd (List.forall_mem_nil _) h
  | cons c rest ih =>
      simp only [List.cons_append, List.takeWhile_cons, List.dropWhile_cons]
      cases hc : p c with
      | false => exact ⟨c, rest, rfl, hc, fun tail => ⟨rfl, rfl⟩⟩
      | true =>
          have hrest : ¬ ∀ d ∈ rest, p d = true := fun hall =>
            h (List.forall_mem_cons.mpr ⟨hc, hall⟩)
          obtain ⟨d, more, hdrop, hd, hspan⟩ := ih hrest
          exact ⟨d, more, hdrop, hd, fun tail =>
            ⟨congrArg (c :: ·) (hspan tail).1, (hspan tail).2⟩⟩

/-! ## Blanks and comments -/

lemma isBlank_frameEnd : Text.isBlank ')' = false := by decide

lemma dropBlanks_append (cs : List Char) :
    (cs ++ frameEnd).dropWhile Text.isBlank = cs.dropWhile Text.isBlank ++ frameEnd := by
  induction cs with
  | nil => exact List.dropWhile_cons_of_neg (by rw [isBlank_frameEnd]; exact Bool.false_ne_true)
  | cons c rest ih =>
      rw [List.cons_append, List.dropWhile_cons, List.dropWhile_cons]
      split_ifs
      · exact ih
      · rfl

lemma skipBlanks_frameEnd : skipBlanks frameEnd = frameEnd := by
  rw [frameEnd, skipBlanks, isBlank_frameEnd]
  rfl

lemma skipComment_frameEnd : skipComment frameEnd = [] := rfl

lemma skip_nil (flags : Flags) : skip flags [] = [] := by
  rw [skip]
  split_ifs <;> rfl

lemma skip_frameEnd (flags : Flags) : skip flags frameEnd = frameEnd := by
  rw [skip]
  split_ifs
  · exact skipBlanks_frameEnd
  · rfl

lemma skipBlanks_suffix_and (cs : List Char) : skipBlanks cs <:+ cs ∧ skipComment cs <:+ cs := by
  induction cs with
  | nil => exact ⟨List.suffix_rfl, List.suffix_rfl⟩
  | cons c rest ih =>
      have hrest : rest <:+ c :: rest := List.suffix_cons c rest
      rw [skipBlanks, skipComment]
      refine ⟨?_, ?_⟩
      · split_ifs
        · exact ih.1.trans hrest
        · exact ih.2.trans hrest
        · exact List.suffix_rfl
      · split_ifs
        · exact ih.1.trans hrest
        · exact ih.2.trans hrest

lemma skip_suffix (flags : Flags) (cs : List Char) : skip flags cs <:+ cs := by
  rw [skip]
  split_ifs
  · exact (skipBlanks_suffix_and cs).1
  · exact List.suffix_rfl

/-- Of what is passed over at the end of a text, only a comment also takes the frame. -/
lemma skipBlanks_append_and (cs : List Char) :
    (skipBlanks (cs ++ frameEnd) = skipBlanks cs ++ frameEnd ∨
      skipBlanks cs = [] ∧ skipBlanks (cs ++ frameEnd) = []) ∧
    (skipComment (cs ++ frameEnd) = skipComment cs ++ frameEnd ∨
      skipComment cs = [] ∧ skipComment (cs ++ frameEnd) = []) := by
  induction cs with
  | nil => exact ⟨.inl skipBlanks_frameEnd, .inr ⟨rfl, skipComment_frameEnd⟩⟩
  | cons c rest ih =>
      rw [List.cons_append, skipBlanks, skipBlanks, skipComment, skipComment]
      refine ⟨?_, ?_⟩
      · split_ifs
        · exact ih.1
        · exact ih.2
        · exact .inl rfl
      · split_ifs
        · exact ih.1
        · exact ih.2

lemma skip_append (flags : Flags) (cs : List Char) :
    skip flags (cs ++ frameEnd) = skip flags cs ++ frameEnd ∨
      skip flags cs = [] ∧ skip flags (cs ++ frameEnd) = [] := by
  rw [skip, skip]
  split_ifs
  · exact (skipBlanks_append_and cs).1
  · exact .inl rfl

namespace Steady

variable {f : Reader α}

lemma dropping (hf : Steady lost f) : Steady lost fun cs => f (cs.dropWhile Text.isBlank) where
  shortens h := (hf.shortens h).trans (List.dropWhile_suffix _)
  outlook cs := by
    rw [dropBlanks_append]
    exact hf.outlook _

/-- **A reader behind blanks and comments.** -/
lemma skipping (flags : Flags) (hf : Steady lost f) : Steady lost fun cs => f (skip flags cs) where
  shortens h := (hf.shortens h).trans (skip_suffix flags _)
  outlook cs := by
    rcases skip_append flags cs with h | ⟨hcs, h⟩
    · rw [h]
      exact hf.outlook _
    · rw [h, hcs]
      exact hf.self

end Steady

end Regex

end DataShape
