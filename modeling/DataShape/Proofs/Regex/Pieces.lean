import DataShape.Proofs.Regex.Counts

/-!
# Pieces in front of the frame

A name in braces wants a closing brace, which the frame does not have.  But a backslash at the end
of the source is content with the closing parenthesis of the frame, and then the two are a
character.

There is one more way for an escape to go wrong.  A brace behind the sign of a word boundary begins
a name or a repetition, and at the end of the source it is neither.  The frame makes it a
repetition, in which no count can be read.

* `Astray` — the two ways for an escape to go wrong.
* `steady_wordBoundary?`, `steady_property?` — the escapes with names.
* `steady_escape?` — **any escape**.
-/

namespace DataShape

namespace Regex

/-! ## Word boundaries -/

lemma boundaryName?_suffix {flags : Flags} {steps : Nat} {cs name rest : List Char}
    (h : boundaryName? flags steps cs = some (name, rest)) : rest <:+ cs := by
  induction steps generalizing cs name with
  | zero => cases h
  | succ steps ih =>
      cases cs with
      | nil => cases h
      | cons c more =>
          refine List.IsSuffix.trans ?_ (List.suffix_cons c more)
          rw [boundaryName?] at h
          split_ifs at h
          · cases h
            exact List.suffix_rfl
          · obtain ⟨⟨name, rest⟩, hfound, hmap⟩ := Option.map_eq_some_iff.mp h
            cases hmap
            exact (ih hfound).trans (skip_suffix flags more)

lemma boundaryName?_nil (flags : Flags) (steps : Nat) : boundaryName? flags steps [] = none := by
  cases steps <;> rfl

lemma outlook_boundaryName? (flags : Flags) {steps more : Nat} {cs : List Char}
    (hsteps : cs.length < steps) (hmore : (cs ++ frameEnd).length < more) :
    Outlook Past (boundaryName? flags steps cs) (boundaryName? flags more (cs ++ frameEnd)) := by
  induction steps generalizing more cs with
  | zero => cases hsteps
  | succ steps ih =>
      obtain ⟨more, rfl⟩ := Nat.exists_eq_succ_of_ne_zero (Nat.ne_zero_of_lt hmore)
      cases cs with
      | nil => exact .refused
      | cons c rest =>
          rw [List.cons_append, boundaryName?, boundaryName?]
          split_ifs
          · exact .same [] rest
          · have hskip := (skip_suffix flags rest).length_le
            simp only [List.length_append, List.length_cons] at hsteps hmore ih
            rcases skip_append flags rest with h | ⟨hrest, h⟩
            · rw [h]
              exact (ih (by omega) (by omega)).map fun name => c :: name
            · rw [h, hrest, boundaryName?_nil, boundaryName?_nil]
              exact .refused
          · exact .refused

/-- Beyond the text, or in front of a brace that could have begun a name if the text went on; the
frame makes it the brace of a repetition. -/
def Astray {α : Type} (flags : Flags) (boundary x : α) (rest : List Char) : Prop :=
  Past x rest ∨ x = boundary ∧ ∃ more, rest = '{' :: more ∧ skip flags more = frameEnd

/-- A name behind its brace, or the brace of a repetition. -/
def boundarySign? (flags : Flags) (behind : List Char) : Reader CheckSign
  | [] => none
  | c :: more =>
    if isBoundaryNameChar c then
      (boundaryName? flags (behind.length + 1) (c :: more)).bind fun found =>
        (namedBoundary? (String.ofList found.1)).bind fun sign => some (sign, found.2)
    else some (.wordBoundary, '{' :: behind)

lemma wordBoundary?_brace (flags : Flags) (rest : List Char) :
    wordBoundary? flags ('{' :: rest) = boundarySign? flags rest (skip flags rest) := rfl

lemma wordBoundary?_of_not_brace (flags : Flags) {cs : List Char} (h : ¬ ['{'] <+: cs) :
    wordBoundary? flags cs = some (.wordBoundary, cs) := by
  rw [wordBoundary?]
  rintro rest rfl
  exact h ⟨rest, rfl⟩

lemma wordBoundary?_suffix {flags : Flags} {cs rest : List Char} {sign : CheckSign}
    (h : wordBoundary? flags cs = some (sign, rest)) : rest <:+ cs := by
  by_cases hbrace : ['{'] <+: cs
  · obtain ⟨behind, rfl⟩ := hbrace
    rw [List.singleton_append, wordBoundary?_brace] at h
    have hskip := skip_suffix flags behind
    cases hnext : skip flags behind with
    | nil => rw [hnext] at h; cases h
    | cons c more =>
        rw [hnext] at h hskip
        rw [boundarySign?] at h
        split_ifs at h
        · obtain ⟨found, hfound, hsign⟩ := Option.bind_eq_some_iff.mp h
          obtain ⟨sign, -, hrest⟩ := Option.bind_eq_some_iff.mp hsign
          cases hrest
          exact ((boundaryName?_suffix hfound).trans hskip).trans (List.suffix_cons '{' behind)
        · cases h
          exact List.suffix_rfl
  · rw [wordBoundary?_of_not_brace flags hbrace] at h
    cases h
    exact List.suffix_rfl

lemma outlook_wordBoundary?_brace (flags : Flags) (rest : List Char) :
    Outlook (Astray flags .wordBoundary) (wordBoundary? flags ('{' :: rest))
      (wordBoundary? flags ('{' :: (rest ++ frameEnd))) := by
  rw [wordBoundary?_brace, wordBoundary?_brace]
  rcases skip_append flags rest with h | ⟨hrest, h⟩
  · rw [h]
    have hskip := (skip_suffix flags rest).length_le
    cases hnext : skip flags rest with
    | nil => exact .broken (.inr ⟨rfl, rest ++ frameEnd, rfl, by rw [h, hnext, List.nil_append]⟩)
    | cons c more =>
        rw [hnext] at hskip
        rw [List.cons_append, boundarySign?, boundarySign?]
        split_ifs
        · have hname : Outlook Past (boundaryName? flags (rest.length + 1) (c :: more))
              (boundaryName? flags ((rest ++ frameEnd).length + 1) (c :: (more ++ frameEnd))) := by
            refine outlook_boundaryName? flags (by omega) ?_
            simp only [List.length_append, List.length_cons] at hskip ⊢
            omega
          exact (hname.bindPast fun name => .given (namedBoundary? (String.ofList name)) fun sign =>
            .pure sign).mono fun _ _ => .inl
        · exact .same _ ('{' :: rest)
  · rw [h, hrest]
    exact .refused

/-- **A word boundary.** -/
lemma steady_wordBoundary? (flags : Flags) :
    Steady (Astray flags .wordBoundary) (wordBoundary? flags) where
  shortens := wordBoundary?_suffix
  outlook cs := by
    by_cases hbrace : ['{'] <+: cs
    · obtain ⟨rest, rfl⟩ := hbrace
      exact outlook_wordBoundary?_brace flags rest
    · rw [wordBoundary?_of_not_brace flags hbrace, wordBoundary?_of_not_brace flags
        (mt (Steady.prefix_append_iff (by decide) cs).mp hbrace)]
      exact .same CheckSign.wordBoundary cs

/-! ## Properties -/

lemma bracedName?_suffix {flags : Flags} {steps : Nat} {cs name rest : List Char}
    (h : bracedName? flags steps cs = some (name, rest)) : rest <:+ cs := by
  induction steps generalizing cs name with
  | zero => cases h
  | succ steps ih =>
      refine List.IsSuffix.trans ?_ (skip_suffix flags cs)
      rw [bracedName?] at h
      generalize skip flags cs = next at h ⊢
      cases next with
      | nil => cases h
      | cons c more =>
          refine List.IsSuffix.trans ?_ (List.suffix_cons c more)
          dsimp only at h
          split_ifs at h
          · cases h
            exact List.suffix_rfl
          · obtain ⟨⟨name, rest⟩, hfound, hmap⟩ := Option.map_eq_some_iff.mp h
            cases hmap
            exact ih hfound

/-- A name in braces wants a closing brace. -/
lemma bracedName?_eq_none {flags : Flags} {steps : Nat} {cs : List Char} (h : '}' ∉ cs) :
    bracedName? flags steps cs = none := by
  induction steps generalizing cs with
  | zero => rfl
  | succ steps ih =>
      have hskip := (skip_suffix flags cs).subset
      rw [bracedName?]
      cases hnext : skip flags cs with
      | nil => rfl
      | cons c rest =>
          rw [hnext] at hskip
          have hc : c ≠ '}' := by
            rintro rfl
            exact h (hskip List.mem_cons_self)
          dsimp only
          rw [if_neg hc, ih fun hmem => h (hskip (List.mem_cons_of_mem c hmem)), Option.map_none]

lemma outlook_bracedName? (flags : Flags) {steps more : Nat} {cs : List Char}
    (hsteps : cs.length < steps) (hmore : (cs ++ frameEnd).length < more) :
    Outlook Past (bracedName? flags steps cs) (bracedName? flags more (cs ++ frameEnd)) := by
  induction steps generalizing more cs with
  | zero => cases hsteps
  | succ steps ih =>
      obtain ⟨more, rfl⟩ := Nat.exists_eq_succ_of_ne_zero (Nat.ne_zero_of_lt hmore)
      have hskip := (skip_suffix flags cs).length_le
      rw [bracedName?, bracedName?]
      rcases skip_append flags cs with h | ⟨hcs, h⟩
      · rw [h]
        cases hnext : skip flags cs with
        | nil =>
            have hend : bracedName? flags more ['\\', 'z'] = none :=
              bracedName?_eq_none (by decide)
            simp only [List.nil_append, frameEnd]
            rw [if_neg (by decide), hend]
            exact .refused
        | cons c rest =>
            simp only [hnext, List.length_append, List.length_cons] at hskip hmore ih
            simp only [List.cons_append]
            split_ifs
            · exact .same [] rest
            · exact (ih (by omega) (by omega)).map fun name => c :: name
      · rw [h, hcs]
        exact .refused

/-- A property in braces. -/
def bracedProperty? (flags : Flags) (negated : Bool) : Reader Piece := fun rest =>
  (bracedName? flags (rest.length + 1) rest).bind fun found =>
    (propertyRanges? found.1).bind fun ranges =>
      some (.property ranges.1 (negated != ranges.2), found.2)

lemma steady_bracedProperty? (flags : Flags) (negated : Bool) :
    Steady Past (bracedProperty? flags negated) := by
  have hname : Steady Past fun rest => bracedName? flags (rest.length + 1) rest :=
    ⟨bracedName?_suffix,
      fun _ => outlook_bracedName? flags (Nat.lt_succ_self _) (Nat.lt_succ_self _)⟩
  exact hname.bind fun name => .given (propertyRanges? name) fun ranges =>
    .pure (Piece.property ranges.1 (negated != ranges.2))

/-- A property with a name of one character. -/
def shortProperty? (negated : Bool) : Reader Piece
  | [] => none
  | c :: rest => (Text.Property.ofName? [c]).map fun ranges => (.property ranges negated, rest)

lemma steady_shortProperty? (negated : Bool) : Steady Past (shortProperty? negated) :=
  .cons rfl .refused fun c => .known (Text.Property.ofName? [c]) fun ranges =>
    Piece.property ranges negated

/-- A property behind its letter. -/
def propertyName? (flags : Flags) (negated : Bool) : Reader Piece
  | [] => none
  | '{' :: rest => bracedProperty? flags negated rest
  | c :: rest => shortProperty? negated (c :: rest)

lemma steady_property? (flags : Flags) (negated : Bool) :
    Steady Past (property? flags negated) := by
  have hname : Steady Past (propertyName? flags negated) := by
    refine .prefixed ['{'] (by decide) (fun cs => rfl) (fun cs hcs => ?_)
      (steady_bracedProperty? flags negated) (steady_shortProperty? negated)
    cases cs with
    | nil => rfl
    | cons c rest =>
        rw [propertyName?]
        rintro rfl
        exact hcs ⟨rest, rfl⟩
  exact (hname.skipping flags).of_eq fun _ => rfl

/-! ## Escapes -/

/-- **An escape.** -/
lemma steady_escape? (flags : Flags) :
    Steady (Astray flags (.check .wordBoundary)) (escape? flags) := by
  refine .cons rfl (.broken (.inl List.suffix_rfl)) fun c => ?_
  have hpast : ∀ {f : Reader Piece}, Steady Past f →
      Steady (Astray flags (.check .wordBoundary)) f :=
    fun hf => hf.mono fun _ _ => .inl
  have hboundary : Steady (Astray flags (Piece.check .wordBoundary)) fun rest =>
      (wordBoundary? flags rest).map fun found => (Piece.check found.1, found.2) :=
    (steady_wordBoundary? flags).mapOf Piece.check fun _ _ hlost =>
      hlost.imp id fun ⟨hsign, hrest⟩ => ⟨congrArg Piece.check hsign, hrest⟩
  by_cases hb : c = 'b'
  · subst hb
    exact hboundary.of_eq fun _ => rfl
  cases hhex : hexCount? c with
  | some count =>
      exact (hpast (steady_hexEscape? flags count)).of_eq fun rest => by simp [escape?, hhex]
  | none =>
  by_cases hproperty : c = 'p' ∨ c = 'P'
  · exact (hpast (steady_property? flags (c == 'P'))).of_eq fun rest => by
      simp [escape?, hhex, hproperty]
  cases hletter : letterClass? c with
  | some found =>
      exact (Steady.pure (Piece.letterClass found.1 found.2)).of_eq fun rest => by
        simp [escape?, hhex, hproperty, hletter]
  | none =>
  by_cases hplain : isPlainWhenEscaped c = true
  · exact (Steady.pure (Piece.char c false)).of_eq fun rest => by
      simp [escape?, hhex, hproperty, hletter, hplain]
  cases hcontrol : controlEscape? c with
  | some shown =>
      exact (Steady.pure (Piece.char shown false)).of_eq fun rest => by
        simp [escape?, hhex, hproperty, hletter, hplain, hcontrol]
  | none =>
  cases hcheck : checkEscape? c with
  | some sign =>
      exact (Steady.pure (Piece.check sign)).of_eq fun rest => by
        simp [escape?, hhex, hproperty, hletter, hplain, hcontrol, hcheck]
  | none =>
  exact Steady.none.of_eq fun rest => by
    simp [escape?, hhex, hproperty, hletter, hplain, hcontrol, hcheck, hb]

end Regex

end DataShape
