import DataShape.Proofs.Regex.Groups

/-!
# Reading inside a frame

The frame of a whole match puts a source into a group.  Reading goes on inside that group as it
would without it, as long as the source does not close more groups than it opens.  At the end of the
source there are three cases.  The frame is reached, and closes its group.  The source ends in a
comment, which takes the frame along.  Or the source cannot be read, and then what it takes from the
frame costs the frame its closing parenthesis, so the group stays open.

* `outer_readSteps?_of_not_mem`, `readSteps?_brace` — what comes of reading beyond the source.
* `Reading.inside`, `step?_inside` — a reading with further groups around it, and its steps.
* `ComesTo` — the places where reading gets.
* `ClosesUnopenedFrom` — a source that closes a group that it did not open.
* `FrameOutlook` — how reading with the frame compares to reading without it.
* `frameOutlook_readSteps?` — **reading inside a frame.**
-/

namespace DataShape

namespace Regex

/-! ## Reading on -/

lemma readSteps?_succ (steps : Nat) (r : Reading) (cs : List Char) :
    readSteps? (steps + 1) r cs = match skip r.level.flags cs with
      | [] => some r
      | c :: rest => (step? r c rest).bind fun found => readSteps? steps found.1 found.2 := rfl

lemma readSteps?_nil (steps : Nat) (r : Reading) : readSteps? (steps + 1) r [] = some r := by
  rw [readSteps?_succ, skip_nil]

/-- More steps than characters are enough, however many there are. -/
lemma readSteps?_of_length_lt {steps more : Nat} {r : Reading} {cs : List Char}
    (hsteps : cs.length < steps) (hmore : cs.length < more) :
    readSteps? steps r cs = readSteps? more r cs := by
  induction steps generalizing more r cs with
  | zero => cases hsteps
  | succ steps ih =>
      obtain ⟨more, rfl⟩ := Nat.exists_eq_succ_of_ne_zero (Nat.ne_zero_of_lt hmore)
      have hskip := (skip_suffix r.level.flags cs).length_le
      rw [readSteps?_succ, readSteps?_succ]
      cases hnext : skip r.level.flags cs with
      | nil => rfl
      | cons c rest =>
          rw [hnext, List.length_cons] at hskip
          refine Option.bind_congr fun found hfound => ?_
          have hbehind := ((steady_step? r c).shortens hfound).length_le
          exact ih (by omega) (by omega)

/-- **Groups stay open** while there is no closing parenthesis. -/
lemma outer_readSteps?_of_not_mem {steps : Nat} {r last : Reading} {cs : List Char}
    (hcs : ')' ∉ cs) (h : readSteps? steps r cs = some last) :
    r.outer.length ≤ last.outer.length := by
  induction steps generalizing r cs with
  | zero => cases h
  | succ steps ih =>
      rw [readSteps?_succ] at h
      have hskip := (skip_suffix r.level.flags cs).subset
      cases hnext : skip r.level.flags cs with
      | nil =>
          rw [hnext] at h
          cases h
          exact le_rfl
      | cons c rest =>
          rw [hnext] at h hskip
          obtain ⟨⟨next, behind⟩, hstep, hlast⟩ := Option.bind_eq_some_iff.mp h
          have hc : c ≠ ')' := by
            rintro rfl
            exact hcs (hskip List.mem_cons_self)
          have hbehind : ')' ∉ behind := fun hmem => hcs (hskip (List.mem_cons_of_mem c
            (((steady_step? r c).shortens hstep).subset hmem)))
          exact ((moves_step? hstep).2 hc).trans (ih hbehind hlast)

lemma skip_brace (flags : Flags) (rest : List Char) : skip flags ('{' :: rest) = '{' :: rest := by
  have hblank : Text.isBlank '{' = false := by decide
  have hmark : '{' ≠ '#' := by decide
  simp [skip, skipBlanks, hblank, hmark]

lemma countNumber?_frameEnd (flags : Flags) :
    countNumber? flags frameEnd = some (none, frameEnd) := rfl

/-- **A brace in front of the frame** is no repetition. -/
lemma readSteps?_brace {steps : Nat} {r : Reading} {more : List Char}
    (h : skip r.level.flags more = frameEnd) : readSteps? steps r ('{' :: more) = none := by
  cases steps with
  | zero => rfl
  | succ steps =>
      have hstep : step? r '{' more = none := by
        rw [step?_eq, if_neg (by decide), if_neg (by decide), if_neg (by decide),
          if_neg (by decide), if_pos (by decide), repeatLast?, repetition?, counted?_eq, h,
          countNumber?_frameEnd]
        rfl
      rw [readSteps?_succ, skip_brace]
      dsimp only
      rw [hstep, Option.bind_none]

/-! ## The whole expression -/

/-- Which of the open groups capture, innermost first; the last is the whole expression. -/
def Reading.captures (r : Reading) : List Bool := (r.level :: r.outer).map (·.captures)

lemma Reading.Moves.captures {r next : Reading} (h : r.Moves next) (hr : [false] <:+ r.captures) :
    [false] <:+ next.captures := by
  cases h with
  | stays houter hlevel => rwa [Reading.captures, List.map_cons, houter, hlevel]
  | opens houter =>
      rw [Reading.captures, List.map_cons, houter]
      exact hr.trans (List.suffix_cons _ _)
  | closes houter hlevel =>
      rw [Reading.captures, List.map_cons, hlevel]
      rw [Reading.captures, List.map_cons, houter, List.map_cons, List.suffix_cons_iff] at hr
      refine hr.resolve_left fun h => ?_
      exact absurd (congrArg List.length h) (by simp)

lemma captures_readSteps? {steps : Nat} {r last : Reading} {cs : List Char}
    (hr : [false] <:+ r.captures) (h : readSteps? steps r cs = some last) :
    [false] <:+ last.captures := by
  induction steps generalizing r cs with
  | zero => cases h
  | succ steps ih =>
      rw [readSteps?_succ] at h
      split at h
      · cases h
        exact hr
      · obtain ⟨found, hstep, hlast⟩ := Option.bind_eq_some_iff.mp h
        exact ih ((moves_step? hstep).1.captures hr) hlast

/-- The whole expression is no group that captures. -/
lemma captures_eq_false {steps : Nat} {last : Reading} {cs : List Char}
    (h : readSteps? steps .start cs = some last) (houter : last.outer = []) :
    last.level.captures = false := by
  have hcaptures := captures_readSteps? (r := .start) List.suffix_rfl h
  rw [Reading.captures, houter, List.map_singleton] at hcaptures
  exact (List.cons.inj (hcaptures.eq_of_length rfl)).1.symm

/-! ## Groups around a reading -/

/-- The reading with further groups around it. -/
def Reading.inside (r : Reading) (around : List Level) : Reading :=
  { r with outer := r.outer ++ around }

variable {around : List Level}

lemma Reading.open?_inside (r : Reading) (opening : Opening) :
    (r.inside around).open? opening = (r.open? opening).map fun next => next.inside around := by
  cases opening with
  | change flags => rfl
  | group captures flags => rfl
  | named name =>
      rw [Reading.open?, Reading.open?]
      change (if r.names.contains name then none else _) = _
      split_ifs <;> rfl

/-- **A step inside groups** does not learn of them unless it closes one of them. -/
lemma step?_inside {r : Reading} {c : Char} (h : ¬ (c = ')' ∧ r.outer = [])) (rest : List Char) :
    step? (r.inside around) c rest =
      (step? r c rest).map fun found => (found.1.inside around, found.2) := by
  rw [step?_eq, step?_eq]
  split_ifs with hopen hclose hbar hbracket hoperator
  · rw [openGroup?, openGroup?]
    change (opening? r.level.flags rest).bind _ = _
    cases opening? r.level.flags rest with
    | none => rfl
    | some found =>
        simp only [Option.bind_some, Reading.open?_inside]
        cases r.open? found.1 <;> rfl
  · cases houter : r.outer with
    | nil => exact absurd ⟨hclose, houter⟩ h
    | cons next outer => simp [Reading.close?, Reading.inside, houter]
  · rfl
  · rw [pushBracket?, pushBracket?]
    change (bracket? r.level.flags rest).bind _ = _
    cases bracket? r.level.flags rest <;> rfl
  · rw [repeatLast?, repeatLast?]
    change (repetition? r.level.flags c rest).bind _ = _
    cases repetition? r.level.flags c rest with
    | none => rfl
    | some found =>
        have hrepeat : (r.inside around).repeat? found.1 =
            (r.repeat? found.1).map fun next => next.inside around := by
          simp only [Reading.repeat?, Reading.inside]
          cases r.level.items with
          | nil => rfl
          | cons item items => cases item <;> rfl
        simp only [Option.bind_some, hrepeat]
        cases r.repeat? found.1 <;> rfl
  · rw [pushPiece?, pushPiece?]
    change (outerPiece? r.level.flags c rest).bind _ = _
    cases outerPiece? r.level.flags c rest with
    | none => rfl
    | some found =>
        change (found.1.toRegex? r.level.flags).bind _ =
          Option.map _ ((found.1.toRegex? r.level.flags).bind _)
        cases found.1.toRegex? r.level.flags <;> rfl

/-! ## Closing what was not opened -/

/-- Reading comes from one place to another one. -/
inductive ComesTo : Reading → List Char → Reading → List Char → Prop
  | here (r : Reading) (cs : List Char) : ComesTo r cs r cs
  | step {r next last : Reading} {c : Char} {cs rest behind final : List Char} :
    skip r.level.flags cs = c :: rest → step? r c rest = some (next, behind) →
      ComesTo next behind last final → ComesTo r cs last final

/-- Reading comes to a closing parenthesis where no group is open. -/
def ClosesUnopenedFrom (r : Reading) (cs : List Char) : Prop :=
  ∃ last final rest, ComesTo r cs last final ∧ skip last.level.flags final = ')' :: rest ∧
    last.outer = []

/-- A closing parenthesis without a group is not read. -/
lemma ClosesUnopenedFrom.readSteps?_eq_none {r : Reading} {cs : List Char}
    (h : ClosesUnopenedFrom r cs) (steps : Nat) : readSteps? steps r cs = none := by
  obtain ⟨last, final, rest, hcomes, hfinal, houter⟩ := h
  induction hcomes generalizing steps with
  | here r cs =>
      cases steps with
      | zero => rfl
      | succ steps =>
          have hclose : step? r ')' rest = none := by
            rw [step?_eq, if_neg (by decide), if_pos rfl, Reading.close?, houter]
            rfl
          rw [readSteps?_succ, hfinal]
          dsimp only
          rw [hclose, Option.bind_none]
  | step hskip hstep _ ih =>
      cases steps with
      | zero => rfl
      | succ steps =>
          rw [readSteps?_succ, hskip]
          dsimp only
          rw [hstep, Option.bind_some]
          exact ih steps hfinal houter

/-! ## Reading inside a frame -/

/-- **How reading inside a frame compares** to reading alone, for any groups of the frame. -/
inductive FrameOutlook : Option Reading → (List Level → Option Reading) → Prop
  /-- The end of the frame is read in the groups of the frame. -/
  | reached (r : Reading) {steps : Nat} : frameEnd.length < steps →
    FrameOutlook (some r) fun around => readSteps? steps (r.inside around) frameEnd
  /-- The end of the frame was passed over. -/
  | passed (r : Reading) : FrameOutlook (some r) fun around => some (r.inside around)
  /-- The source is not read, and the groups of the frame stay open. -/
  | refused {framed : List Level → Option Reading} :
    (∀ around last, framed around = some last → around.length ≤ last.outer.length) →
    FrameOutlook none framed

/-- What a step takes from the frame leaves its groups open. -/
lemma Adrift.outer_le {r : Reading} {rest : List Char} (h : Adrift r rest) {steps : Nat}
    {last : Reading} (hlast : readSteps? steps (r.inside around) rest = some last) :
    around.length ≤ last.outer.length := by
  rcases h with hpast | ⟨more, rfl, hmore⟩
  · have hrest : ')' ∉ rest := fun hmem => absurd (List.IsSuffix.subset hpast hmem) (by decide)
    refine le_trans ?_ (outer_readSteps?_of_not_mem hrest hlast)
    rw [Reading.inside, List.length_append]
    exact Nat.le_add_left _ _
  · rw [readSteps?_brace (r := r.inside around) hmore] at hlast
    cases hlast

/-- **Reading inside a frame**, of a source that closes no group that it did not open. -/
theorem frameOutlook_readSteps? {steps more : Nat} {r : Reading} {cs : List Char}
    (hopen : ¬ ClosesUnopenedFrom r cs) (hsteps : cs.length < steps)
    (hmore : (cs ++ frameEnd).length < more) :
    FrameOutlook (readSteps? steps r cs)
      fun around => readSteps? more (r.inside around) (cs ++ frameEnd) := by
  induction steps generalizing more r cs with
  | zero => cases hsteps
  | succ steps ih =>
      obtain ⟨more, rfl⟩ := Nat.exists_eq_succ_of_ne_zero (Nat.ne_zero_of_lt hmore)
      have hskip := (skip_suffix r.level.flags cs).length_le
      have hlevel : ∀ around, (r.inside around).level = r.level := fun _ => rfl
      rw [List.length_append] at hmore
      rcases skip_append r.level.flags cs with hframed | ⟨hcs, hframed⟩
      · cases hnext : skip r.level.flags cs with
        | nil =>
            have hend : ∀ around, readSteps? (more + 1) (r.inside around) (cs ++ frameEnd) =
                readSteps? (more + 1) (r.inside around) frameEnd := by
              intro around
              rw [readSteps?_succ, readSteps?_succ, hlevel, hframed, hnext, skip_frameEnd,
                List.nil_append]
            rw [funext hend, readSteps?_succ, hnext]
            exact .reached r (by omega)
        | cons c rest =>
            have hcloses : ¬ (c = ')' ∧ r.outer = []) := by
              rintro ⟨rfl, houter⟩
              exact hopen ⟨r, cs, rest, .here r cs, hnext, houter⟩
            have hstep := (steady_step? r c).outlook rest
            have hlater : ∀ next behind, step? r c rest = some (next, behind) →
                ¬ ClosesUnopenedFrom next behind ∧ behind.length ≤ rest.length := by
              intro next behind hfound
              refine ⟨?_, ((steady_step? r c).shortens hfound).length_le⟩
              rintro ⟨last, final, closed, hcomes, hfinal, houter⟩
              exact hopen ⟨last, final, closed, .step hnext hfound hcomes, hfinal, houter⟩
            have hinside : ∀ around, readSteps? (more + 1) (r.inside around) (cs ++ frameEnd) =
                (step? r c (rest ++ frameEnd)).bind fun found =>
                  readSteps? more (found.1.inside around) found.2 := by
              intro around
              rw [readSteps?_succ, hlevel, hframed, hnext, List.cons_append]
              dsimp only
              rw [step?_inside hcloses, Option.bind_map]
              rfl
            rw [hnext, List.length_cons] at hskip
            rw [funext hinside, readSteps?_succ, hnext]
            dsimp only
            generalize step? r c rest = res at hstep hlater ⊢
            generalize step? r c (rest ++ frameEnd) = framed at hstep ⊢
            cases hstep with
            | same next behind =>
                obtain ⟨hopen, hbehind⟩ := hlater next behind rfl
                have hshort : behind.length < steps := by omega
                have hlong : (behind ++ frameEnd).length < more := by
                  rw [List.length_append]
                  omega
                exact ih hopen hshort hlong
            | passed next =>
                obtain ⟨steps, rfl⟩ : ∃ fewer, steps = fewer + 1 := ⟨steps - 1, by omega⟩
                obtain ⟨more, rfl⟩ : ∃ fewer, more = fewer + 1 := ⟨more - 1, by omega⟩
                simp only [Option.bind_some, readSteps?_nil]
                exact .passed next
            | refused => exact .refused nofun
            | broken hadrift => exact .refused fun around last hlast => hadrift.outer_le hlast
      · have hend : ∀ around, readSteps? (more + 1) (r.inside around) (cs ++ frameEnd) =
            some (r.inside around) := by
          intro around
          rw [readSteps?_succ, hlevel, hframed]
        rw [funext hend, readSteps?_succ, hcs]
        exact .passed r

end Regex

end DataShape
