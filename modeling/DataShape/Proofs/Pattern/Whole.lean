import DataShape.Pattern
import DataShape.Proofs.Regex.Framing
import DataShape.Proofs.Regex.Matches

/-!
# Patterns that match whole texts

A pattern of whole texts is read from its source with a frame around it.  What is read then is the
expression of the source between checks for both ends of the text, and this matches where the
expression matches the whole text.

Two kinds of sources are read otherwise.  A source that ends in a comment takes the frame along, and
the group stays open.  And a source that is no expression on its own may become one if it closes the
group of the frame and opens another one.  Besides, the frame nests deeper and takes more room.

* `Nested.framed`, `Regex.matches_framed_iff` — an expression between checks, and what it matches.
* `Regex.EndsInComment`, `Regex.ClosesUnopened` — the sources that the frame does not suit.
* `Regex.read?_frame_of_some`, `Regex.read?_frame_of_none` — how a source is read in the frame.
* `Pattern.ofSource?_whole` — **patterns of whole texts** and patterns of the same source.
-/

namespace DataShape

namespace Regex

/-! ## The frame -/

/-- The expression between the checks for both ends of the text. -/
def framed (r : Regex) : Regex :=
  .seq (.check ⟨.textStart, true⟩) (.seq (.group false r) (.check ⟨.textEnd, true⟩))

/-- The expression in the frame, which nests two levels deeper. -/
def Nested.framed (e : Nested Regex) : Nested Regex := ⟨e.item.framed, 2 + e.depth⟩

/-- What the frame has begun where the source is read. -/
def frameLevel : Level := ⟨false, {}, [], [.part ⟨.check ⟨.textStart, true⟩, 0⟩]⟩

/-- The source ends in a comment, which takes along what stands behind the source. -/
def EndsInComment (source : String) : Prop := read? (source ++ ")\\z") = read? source

/-- The source closes a group where none is open. -/
def ClosesUnopened (source : String) : Prop := ClosesUnopenedFrom .start source.toList

lemma readSteps?_frame (steps : Nat) (cs : List Char) :
    readSteps? (steps + 2) .start ('\\' :: 'A' :: '(' :: '?' :: ':' :: cs) =
      readSteps? steps (Reading.start.inside [frameLevel]) cs := rfl

lemma whole?_of_outer_ne_nil {r : Reading} (h : r.outer ≠ []) : r.whole? = none := by
  rw [Reading.whole?, if_neg]
  rwa [List.isEmpty_iff]

/-- The group of the frame, closed, in front of the check for the end of the text. -/
lemma whole?_frameEnd_of_closed (steps : Nat) {r : Reading} (h : r.outer = []) :
    (readSteps? (steps + 3) (r.inside [frameLevel]) frameEnd).bind Reading.whole? =
      some ⟨.seq (.check ⟨.textStart, true⟩)
        (.seq (.group r.level.captures r.level.close.item) (.check ⟨.textEnd, true⟩)),
        2 + r.level.close.depth⟩ := by
  have hclose : step? (r.inside [frameLevel]) ')' ['\\', 'z'] = some
      (⟨frameLevel.push (.part ⟨.group r.level.captures r.level.close.item,
        1 + r.level.close.depth⟩), [], r.names⟩, ['\\', 'z']) := by
    rw [step?_eq, if_neg (by decide), if_pos rfl, Reading.close?, Reading.inside, h]
    rfl
  have hdepth : 1 + max (max (max 0 0) (1 + r.level.close.depth)) 0 = 2 + r.level.close.depth := by
    omega
  rw [readSteps?_succ, skip_frameEnd, frameEnd]
  dsimp only
  rw [hclose, Option.bind_some, ← hdepth]
  rfl

/-- If the source left a group open, a group is still open behind the frame. -/
lemma whole?_frameEnd_of_open (steps : Nat) {r : Reading} (h : r.outer ≠ []) :
    (readSteps? steps (r.inside [frameLevel]) frameEnd).bind Reading.whole? = none := by
  rw [Option.bind_eq_none_iff]
  intro last hlast
  refine whole?_of_outer_ne_nil ?_
  cases steps with
  | zero => cases hlast
  | succ steps =>
      rw [readSteps?_succ, skip_frameEnd, frameEnd] at hlast
      dsimp only at hlast
      obtain ⟨⟨next, rest⟩, hclose, hrest⟩ := Option.bind_eq_some_iff.mp hlast
      have hinside : 2 ≤ (r.inside [frameLevel]).outer.length := by
        rw [Reading.inside, List.length_append, List.length_singleton]
        exact Nat.succ_le_succ (List.length_pos_of_ne_nil h)
      have hmoves := (moves_step? hclose).1.outer_le
      have hclosing : ')' ∉ rest := fun hmem => absurd
        (((steady_step? _ _).shortens hclose).subset hmem) (by decide)
      have hopen : next.outer.length ≤ last.outer.length :=
        outer_readSteps?_of_not_mem hclosing hrest
      exact List.ne_nil_of_length_pos (by omega)

/-- Where the end of the frame was passed over, the group of the frame is open. -/
lemma whole?_inside (r : Reading) : (r.inside [frameLevel]).whole? = none :=
  whole?_of_outer_ne_nil (List.append_ne_nil_of_right_ne_nil _ (List.cons_ne_nil _ _))

lemma read?_frame_eq (source : String) :
    read? (Pattern.Mode.whole.frame source) =
      (readSteps? (source.length + 7) (Reading.start.inside [frameLevel])
        (source.toList ++ frameEnd)).bind Reading.whole? := by
  have htext : (Pattern.Mode.whole.frame source).toList =
      '\\' :: 'A' :: '(' :: '?' :: ':' :: (source.toList ++ frameEnd) := by
    simp [Pattern.Mode.frame, frameEnd]
  have hlength : (Pattern.Mode.whole.frame source).length = source.length + 8 := by
    rw [← String.length_toList, htext, ← String.length_toList]
    simp [frameEnd]
  rw [read?, htext, hlength, ← readSteps?_frame]

lemma read?_append_eq (source : String) :
    read? (source ++ ")\\z") =
      (readSteps? (source.length + 7) (Reading.start.inside []) (source.toList ++ frameEnd)).bind
        Reading.whole? := by
  have htext : (source ++ ")\\z").toList = source.toList ++ frameEnd := by
    simp [frameEnd]
  have hlength : (source ++ ")\\z").length = source.length + 3 := by
    rw [← String.length_toList, htext, ← String.length_toList, List.length_append]
    rfl
  have hchars : (source.toList ++ frameEnd).length = source.length + 3 := by
    rw [← htext, String.length_toList, hlength]
  have hsteps : source.length + 3 < source.length + 7 := by omega
  rw [read?, htext, hlength,
    readSteps?_of_length_lt (hchars ▸ Nat.lt_succ_self _) (hchars ▸ hsteps)]
  rfl

/-- How reading the source in the frame compares to reading it alone. -/
lemma frameOutlook_start {source : String} (hopen : ¬ ClosesUnopened source) :
    FrameOutlook (readSteps? (source.length + 1) .start source.toList) fun around =>
      readSteps? (source.length + 7) (Reading.start.inside around) (source.toList ++ frameEnd) := by
  refine frameOutlook_readSteps? hopen ?_ ?_
  · rw [String.length_toList]
    exact Nat.lt_succ_self _
  · rw [List.length_append, String.length_toList, frameEnd]
    simp

/-- A source that cannot be read cannot be read in the frame either. -/
lemma read?_frame_of_none {source : String} (hopen : ¬ ClosesUnopened source)
    (h : read? source = none) : read? (Pattern.Mode.whole.frame source) = none := by
  rw [read?_frame_eq]
  have houtlook := frameOutlook_start hopen
  generalize hframed : (fun around => readSteps? (source.length + 7) (Reading.start.inside around)
    (source.toList ++ frameEnd)) = framed at houtlook
  rw [congrFun hframed [frameLevel]]
  rw [read?] at h
  generalize readSteps? (source.length + 1) .start source.toList = alone at h houtlook
  cases houtlook with
  | reached r hsteps =>
      refine whole?_frameEnd_of_open _ fun houter => ?_
      rw [Option.bind_some, Reading.whole?, houter] at h
      cases h
  | passed r => exact whole?_inside r
  | refused hrefused =>
      rw [Option.bind_eq_none_iff]
      intro last hlast
      exact whole?_of_outer_ne_nil (List.ne_nil_of_length_pos (hrefused _ last hlast))

/-- **How a source is read in the frame** if it is read alone: between the checks, unless it ends in
a comment. -/
theorem read?_frame_of_some {source : String} {e : Nested Regex} (h : read? source = some e) :
    (EndsInComment source → read? (Pattern.Mode.whole.frame source) = none) ∧
      (¬ EndsInComment source → read? (Pattern.Mode.whole.frame source) = some e.framed) := by
  obtain ⟨r, hr, hwhole⟩ := Option.bind_eq_some_iff.mp h
  have hopen : ¬ ClosesUnopened source := fun hcloses => by
    cases (hcloses.readSteps?_eq_none _).symm.trans hr
  have houter : r.outer = [] := by
    by_contra hne
    cases (whole?_of_outer_ne_nil hne).symm.trans hwhole
  have hclose : r.level.close = e := by
    rw [Reading.whole?, houter] at hwhole
    exact Option.some.inj hwhole
  have houtlook := frameOutlook_start hopen
  rw [EndsInComment, h, read?_frame_eq, read?_append_eq]
  rw [hr] at houtlook
  generalize hframed : (fun around => readSteps? (source.length + 7) (Reading.start.inside around)
    (source.toList ++ frameEnd)) = framed at houtlook
  rw [congrFun hframed [frameLevel], congrFun hframed []]
  cases houtlook with
  | reached r hsteps =>
      obtain ⟨steps, rfl⟩ := Nat.exists_eq_add_of_le' (m := 3) (Nat.le_of_lt hsteps)
      have hcloses : ClosesUnopenedFrom (r.inside []) frameEnd := by
        refine ⟨_, _, ['\\', 'z'], .here _ _, skip_frameEnd _, ?_⟩
        rw [Reading.inside, houter, List.append_nil]
      dsimp only
      rw [hcloses.readSteps?_eq_none, whole?_frameEnd_of_closed steps houter,
        captures_eq_false hr houter, hclose]
      refine ⟨fun h => ?_, fun _ => rfl⟩
      cases h
  | passed r =>
      have hinside : r.inside [] = r := by
        rw [Reading.inside, List.append_nil]
      rw [Option.bind_some, Option.bind_some, whole?_inside, hinside]
      exact ⟨fun _ => rfl, fun hne => absurd hwhole hne⟩

/-! ## What the framed expression matches -/

lemma holdsAt_textStart {text : List Char} {i : Nat} (hi : i ≤ text.length) :
    Check.HoldsAt ⟨.textStart, true⟩ text i ↔ i = 0 := by
  cases i with
  | zero => exact iff_of_true rfl rfl
  | succ i =>
      have hbefore : text[i]? ≠ none := by
        rw [ne_eq, List.getElem?_eq_none_iff]
        omega
      simpa [Check.HoldsAt, Check.holds] using hbefore

lemma holdsAt_textEnd (text : List Char) (i : Nat) :
    Check.HoldsAt ⟨.textEnd, true⟩ text i ↔ text.length ≤ i := by
  simp [Check.HoldsAt, Check.holds]

/-- **Between the checks** an expression matches where it matches the whole text. -/
theorem matches_framed_iff (r : Regex) (text : List Char) :
    (∃ i j, i ≤ text.length ∧ Matches text r.framed i j) ↔ Spans r text := by
  constructor
  · rintro ⟨i, j, hi, k, ⟨rfl, hstart⟩, l, hmatches, rfl, hend⟩
    obtain rfl := (holdsAt_textStart hi).mp hstart
    have hl := (holdsAt_textEnd text l).mp hend
    obtain rfl : l = text.length := le_antisymm (Matches.le hi hmatches).2 hl
    exact hmatches
  · intro hspans
    exact ⟨0, text.length, Nat.zero_le _, 0, ⟨rfl, (holdsAt_textStart (Nat.zero_le _)).mpr rfl⟩,
      text.length, hspans, rfl, (holdsAt_textEnd text _).mpr le_rfl⟩

/-- **A text is found** by the framed expression if the expression spans it. -/
lemma isFound_framed_iff (r : Regex) (reach : Nat) (text : List Char) :
    isFound reach r.framed text = true ↔ Spans r text := by
  have hinside : matchesInside r.framed = false := rfl
  rw [isFound, hinside, ← matches_framed_iff, ← matchesSomewhere_iff]
  rfl

end Regex

/-! ## Patterns -/

namespace Pattern

open Regex

variable {limits : Limits} {mode : Mode} {source : String}

lemma isSome_ofSource? : (limits.ofSource? mode source).isSome = true ↔
    ∃ e, read? (mode.frame source) = some e ∧ limits.allows e = true := by
  rw [Limits.ofSource?, Option.isSome_map, Option.isSome_filter, Option.any_eq_true]

/-- A pattern has the expression that was read. -/
lemma exists_read?_of_ofSource? {p : Pattern} (h : limits.ofSource? mode source = some p) :
    ∃ e, read? (mode.frame source) = some e ∧ p.regex = e.item := by
  obtain ⟨e, he, rfl⟩ := Option.map_eq_some_iff.mp h
  exact ⟨e, (Option.filter_eq_some_iff.mp he).1, rfl⟩

/-- **Patterns of whole texts** and patterns that search, of the same source, whatever the limits.
If the source can be read, each is a pattern if its expression is within the limits, but for sources
that end in a comment, which are no patterns of whole texts.  If it cannot be read there is no
pattern that searches, and none of whole texts unless the source closes a group that it did not
open.  Where there are both, the pattern of whole texts matches the texts that the expression of the
other one spans. -/
theorem ofSource?_whole (limits : Limits) (source : String) :
    (∀ e, read? source = some e →
      ((limits.ofSource? .search source).isSome = true ↔ limits.allows e = true) ∧
      ((limits.ofSource? .whole source).isSome = true ↔
        ¬ EndsInComment source ∧ limits.allows e.framed = true)) ∧
    (read? source = none → limits.ofSource? .search source = none ∧
      ((limits.ofSource? .whole source).isSome = true → ClosesUnopened source)) ∧
    ∀ p q, limits.ofSource? .search source = some p → limits.ofSource? .whole source = some q →
      ∀ text, q.isMatch text = true ↔ p.regex.Spans text.toList := by
  have hsearch : Mode.search.frame source = source := rfl
  refine ⟨fun e he => ⟨?_, ?_⟩, fun hnone => ⟨?_, ?_⟩, fun p q hp hq text => ?_⟩
  · rw [isSome_ofSource?, hsearch, he]
    simp
  · rw [isSome_ofSource?]
    by_cases hcomment : EndsInComment source
    · rw [(read?_frame_of_some he).1 hcomment]
      simp [hcomment]
    · rw [(read?_frame_of_some he).2 hcomment]
      simp [hcomment]
  · rw [← Option.not_isSome_iff_eq_none, isSome_ofSource?, hsearch, hnone]
    simp
  · rw [isSome_ofSource?]
    rintro ⟨e, he, -⟩
    by_contra hopen
    cases (read?_frame_of_none hopen hnone).symm.trans he
  · obtain ⟨e, hread, hpregex⟩ := exists_read?_of_ofSource? hp
    obtain ⟨f, hframe, hqregex⟩ := exists_read?_of_ofSource? hq
    rw [hsearch] at hread
    have hcomment : ¬ EndsInComment source := fun hcomment => by
      cases ((read?_frame_of_some hread).1 hcomment).symm.trans hframe
    obtain rfl := Option.some.inj (((read?_frame_of_some hread).2 hcomment).symm.trans hframe)
    rw [isMatch, hqregex, hpregex]
    exact isFound_framed_iff e.item q.reach text.toList

/-- Alternatives, which are kept together by the group of the frame, and a source that closes that
group. -/
theorem ofSource?_whole_of_alternatives :
    (∃ e, read? "a|bc" = some e ∧ ¬ EndsInComment "a|bc" ∧
      Limits.usual.allows e.framed = true) ∧
    (∃ p q, ofSource? .search "a|bc" = some p ∧ ofSource? .whole "a|bc" = some q ∧
      p.regex.Spans "bc".toList ∧ p.isMatch "abc" = true ∧ ¬ p.regex.Spans "abc".toList) ∧
    ofSource? .search "a)|(?:b" = none ∧ ClosesUnopened "a)|(?:b" := by
  obtain ⟨e, he⟩ : ∃ e, read? "a|bc" = some e :=
    Option.isSome_iff_exists.mp (by decide +kernel)
  obtain ⟨p, hp⟩ : ∃ p, ofSource? .search "a|bc" = some p :=
    Option.isSome_iff_exists.mp (by decide +kernel)
  obtain ⟨q, hq⟩ : ∃ q, ofSource? .whole "a|bc" = some q :=
    Option.isSome_iff_exists.mp (by decide +kernel)
  have hfound : (ofSource? .search "a|bc").map (isMatch · "abc") = some true := by decide +kernel
  have hwhole : (ofSource? .whole "a|bc").map (isMatch · "bc") = some true := by decide +kernel
  have hpart : (ofSource? .whole "a|bc").map (isMatch · "abc") = some false := by decide +kernel
  rw [hp, Option.map_some, Option.some.injEq] at hfound
  rw [hq, Option.map_some, Option.some.injEq] at hwhole hpart
  have h := ofSource?_whole .usual "a|bc"
  have hunread := (ofSource?_whole .usual "a)|(?:b").2.1 (by decide +kernel)
  refine ⟨⟨e, he, (h.1 e he).2.mp (congrArg Option.isSome hq)⟩,
    ⟨p, q, hp, hq, (h.2.2 p q hp hq "bc").mp hwhole, hfound, fun hspans => ?_⟩,
    hunread.1, hunread.2 (by decide +kernel)⟩
  cases hpart.symm.trans ((h.2.2 p q hp hq "abc").mpr hspans)

/-- A source that ends in a comment, which is no pattern of whole texts, and one that closes a group
that it did not open, which is. -/
theorem not_isSome_ofSource?_whole_iff :
    ((ofSource? .search "(?x)a#b").isSome = true ∧
      (ofSource? .whole "(?x)a#b").isSome = false) ∧
    (ofSource? .search "a)|(?:b").isSome = false ∧
      (ofSource? .whole "a)|(?:b").isSome = true := by
  refine ⟨⟨?_, ?_⟩, ?_, ?_⟩
  all_goals decide +kernel

end Pattern

end DataShape
