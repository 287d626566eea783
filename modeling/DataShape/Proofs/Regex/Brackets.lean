import DataShape.Proofs.Regex.Items

/-!
# Classes in front of the frame

What begins a class and what a step inside brackets does may take from the frame, but then no
bracket is left that could close the class.  So a class that is not closed in the source is not read
with the frame either.

* `steady_openBracket?` — the start of a class.
* `Open`, `steady_bracketStep?` — a step, and what it may leave behind.
* `steady_bracket?` — **a class**, which takes nothing from the frame.
-/

namespace DataShape

namespace Regex

/-! ## Opening a class -/

/-- Where a class cannot be closed any more, it cannot be closed later. -/
lemma Steady.bindUnclosed {α β : Type} {f : Reader α} (hf : Steady Unclosed f) {g : α → Reader β}
    (hg : ∀ x, Steady Unclosed (g x)) :
    Steady Unclosed fun cs => (f cs).bind fun found => g found.1 found.2 :=
  hf.bindOf hg fun x _ hunclosed _ _ hfound hmem => hunclosed (((hg x).shortens hfound).subset hmem)

lemma leadingMinuses_nil (flags : Flags) (steps : Nat) (b : Bracket) :
    leadingMinuses flags steps b [] = (b, []) := by
  cases steps <;> rfl

lemma leadingMinuses_of_not_minus (flags : Flags) (steps : Nat) (b : Bracket) {cs : List Char}
    (h : ¬ ['-'] <+: cs) : leadingMinuses flags steps b cs = (b, cs) := by
  cases steps with
  | zero => rfl
  | succ steps =>
      rw [leadingMinuses]
      rintro rest rfl
      exact h ⟨rest, rfl⟩

lemma leadingMinuses_suffix (flags : Flags) (steps : Nat) (b : Bracket) (cs : List Char) :
    (leadingMinuses flags steps b cs).2 <:+ cs := by
  induction steps generalizing b cs with
  | zero => exact List.suffix_rfl
  | succ steps ih =>
      by_cases hminus : ['-'] <+: cs
      · obtain ⟨rest, rfl⟩ := hminus
        exact ((ih _ _).trans (skip_suffix flags rest)).trans (List.suffix_cons '-' rest)
      · rw [leadingMinuses_of_not_minus flags _ b hminus]

lemma outlook_leadingMinuses (flags : Flags) {steps more : Nat} (b : Bracket) {cs : List Char}
    (hsteps : cs.length ≤ steps) (hmore : (cs ++ frameEnd).length ≤ more) :
    Outlook Unclosed (some (leadingMinuses flags steps b cs))
      (some (leadingMinuses flags more b (cs ++ frameEnd))) := by
  induction steps generalizing more b cs with
  | zero =>
      obtain rfl := List.length_eq_zero_iff.mp (Nat.le_zero.mp hsteps)
      rw [leadingMinuses_nil, List.nil_append, leadingMinuses_of_not_minus flags more b (by decide)]
      exact .same b []
  | succ steps ih =>
      by_cases hminus : ['-'] <+: cs
      · obtain ⟨rest, rfl⟩ := hminus
        cases more with
        | zero => simp at hmore
        | succ more =>
            have hskip := (skip_suffix flags rest).length_le
            simp only [List.cons_append, List.length_cons, List.length_append] at hsteps hmore ih
            rw [List.append_assoc, List.singleton_append, List.singleton_append, leadingMinuses,
              leadingMinuses]
            rcases skip_append flags rest with h | ⟨hrest, h⟩
            · rw [h]
              exact ih _ (by omega) (by omega)
            · rw [h, hrest, leadingMinuses_nil, leadingMinuses_nil]
              exact .passed _
      · rw [leadingMinuses_of_not_minus flags _ b hminus, leadingMinuses_of_not_minus flags _ b
          (mt (Steady.prefix_append_iff (by decide) cs).mp hminus)]
        exact .same b cs

lemma steady_leadingMinuses (flags : Flags) (b : Bracket) :
    Steady Unclosed fun cs => some (leadingMinuses flags cs.length b cs) where
  shortens {cs x rest} h := by
    have hsuffix := leadingMinuses_suffix flags cs.length b cs
    rw [Option.some.inj h] at hsuffix
    exact hsuffix
  outlook _ := outlook_leadingMinuses flags b le_rfl le_rfl

/-- A closing bracket that comes first, or nothing. -/
def firstListed? (flags : Flags) (b : Bracket) : Reader Bracket := fun cs =>
  match b.listed, cs with
  | _, [] => none
  | [], ']' :: rest => some (b.push ⟨.single ']', 0⟩, skip flags rest)
  | _, _ => some (b, cs)

lemma firstListed?_nil (flags : Flags) (b : Bracket) : firstListed? flags b [] = none := by
  rw [firstListed?]

lemma firstListed?_bracket (flags : Flags) {b : Bracket} (h : b.listed = []) (rest : List Char) :
    firstListed? flags b (']' :: rest) = some (b.push ⟨.single ']', 0⟩, skip flags rest) := by
  rw [firstListed?]
  exact h

lemma firstListed?_cons (flags : Flags) {b : Bracket} {c : Char} (h : ¬ (b.listed = [] ∧ c = ']'))
    (rest : List Char) : firstListed? flags b (c :: rest) = some (b, c :: rest) := by
  rw [firstListed?]
  · exact List.cons_ne_nil c rest
  · exact fun _ hlisted hcons => h ⟨hlisted, (List.cons.inj hcons).1⟩

lemma steady_firstListed? (flags : Flags) (b : Bracket) :
    Steady Unclosed (firstListed? flags b) := by
  have hend : firstListed? flags b frameEnd = some (b, frameEnd) :=
    firstListed?_cons flags (fun h => absurd h.2 (by decide)) _
  constructor
  · intro cs x rest h
    cases cs with
    | nil => rw [firstListed?_nil] at h; cases h
    | cons c more =>
        by_cases hfirst : b.listed = [] ∧ c = ']'
        · rw [hfirst.2, firstListed?_bracket flags hfirst.1] at h
          cases h
          exact (skip_suffix flags more).trans (List.suffix_cons c more)
        · rw [firstListed?_cons flags hfirst] at h
          cases h
          exact List.suffix_rfl
  · intro cs
    cases cs with
    | nil =>
        rw [List.nil_append, firstListed?_nil, hend]
        exact .broken (show ']' ∉ frameEnd by decide)
    | cons c more =>
        by_cases hfirst : b.listed = [] ∧ c = ']'
        · rw [List.cons_append, hfirst.2, firstListed?_bracket flags hfirst.1,
            firstListed?_bracket flags hfirst.1]
          have hpush : Steady Unclosed fun rest => some (b.push ⟨.single ']', 0⟩, rest) := .pure _
          have hskip := hpush.skipping flags
          exact hskip.outlook more
        · rw [List.cons_append, firstListed?_cons flags hfirst, firstListed?_cons flags hfirst]
          exact .same b (c :: more)

/-- A class behind its accent, up to what is listed first. -/
def beginBracket? (flags : Flags) (negated : Bool) : Reader Bracket := fun cs =>
  (some (leadingMinuses flags cs.length ⟨negated, none, []⟩ cs)).bind fun found =>
    firstListed? flags found.1 found.2

lemma steady_beginBracket? (flags : Flags) (negated : Bool) :
    Steady Unclosed (beginBracket? flags negated) :=
  (steady_leadingMinuses flags ⟨negated, none, []⟩).bindUnclosed (steady_firstListed? flags)

/-- Whether an accent negates a class, and the text behind it and the blanks that follow it. -/
def accentSkipped (flags : Flags) (cs : List Char) : Bool × List Char :=
  match cs with
  | '^' :: rest => (true, skip flags rest)
  | _ => (false, cs)

/-- A class behind its bracket, up to what is listed first. -/
def accented? (flags : Flags) : Reader Bracket := fun cs =>
  beginBracket? flags (accentSkipped flags cs).1 (accentSkipped flags cs).2

/-- **The start of a class.** -/
lemma steady_openBracket? (flags : Flags) : Steady Unclosed (openBracket? flags) := by
  have haccent : Steady Unclosed (accented? flags) := by
    refine .prefixed ['^'] (by decide) (fun cs => rfl) (fun cs hcs => ?_)
      ((steady_beginBracket? flags true).skipping flags) (steady_beginBracket? flags false)
    have hplain : accentSkipped flags cs = (false, cs) := by
      rw [accentSkipped]
      rintro rest rfl
      exact hcs ⟨rest, rfl⟩
    rw [accented?, hplain]
  exact (haccent.skipping flags).of_eq fun _ => rfl

/-! ## Steps -/

/-- What a step leads to: the brackets that are open, or the class. -/
abbrev Next := List Bracket ⊕ Nested CharSet

/-- A class cannot be closed any more, and was not closed. -/
def Open (next : Next) (rest : List Char) : Prop := next.isLeft = true ∧ ']' ∉ rest

/-- A bracket, which begins a named class or a class of its own. -/
def inner? (flags : Flags) (b : Bracket) (outer : List Bracket) : Reader Next := fun rest =>
  match named? rest with
  | some (negated, ranges, rest) => (closeSet? flags negated (.table ranges)).bind fun set =>
    some (.inl (b.push ⟨set, 0⟩ :: outer), rest)
  | none => (openBracket? flags rest).bind fun found => some (.inl (found.1 :: b :: outer), found.2)

/-- The class that was closed becomes an item of the one around it, or is the whole class. -/
def closed? (outer : List Bracket) (set : Nested CharSet) : Reader Next := fun rest =>
  match outer with
  | [] => some (.inr set, rest)
  | next :: more => some (.inl (next.push set :: more), rest)

/-- An item that is listed. -/
def listed? (flags : Flags) (b : Bracket) (outer : List Bracket) : Reader Next := fun rest =>
  (bracketItem? flags rest).bind fun found => some (.inl (b.push ⟨found.1, 0⟩ :: outer), found.2)

/-- A step, from the first character that counts. -/
def stepBody? (flags : Flags) (b : Bracket) (outer : List Bracket) : Reader Next
  | [] => none
  | '[' :: rest => inner? flags b outer rest
  | ']' :: rest => (b.close? flags).bind fun set => closed? outer set rest
  | '&' :: '&' :: rest => some (.inl (b.operate flags .inter :: outer), rest)
  | '-' :: '-' :: rest => some (.inl (b.operate flags .diff :: outer), rest)
  | '~' :: '~' :: rest => some (.inl (b.operate flags .symmDiff :: outer), rest)
  | rest => listed? flags b outer rest

lemma bracketStep?_eq (flags : Flags) (b : Bracket) (outer : List Bracket) (cs : List Char) :
    bracketStep? flags b outer cs = stepBody? flags b outer (skip flags cs) := rfl

lemma steady_inner? (flags : Flags) (b : Bracket) (outer : List Bracket) :
    Steady Open (inner? flags b outer) := by
  have hnamed : ∀ negated ranges, Steady Open fun rest : List Char =>
      (closeSet? flags negated (.table ranges)).bind fun set =>
        some (Sum.inl (b.push ⟨set, 0⟩ :: outer), rest) :=
    fun negated ranges => .given _ fun set => .pure _
  have hopened : Steady Open fun rest : List Char => (openBracket? flags rest).bind fun found =>
      some (Sum.inl (found.1 :: b :: outer), found.2) := by
    refine (steady_openBracket? flags).bindOf
      (fun inner => .pure (Sum.inl (inner :: b :: outer))) fun set rest hunclosed next more h => ?_
    cases h
    exact ⟨rfl, hunclosed⟩
  constructor
  · intro cs x rest h
    rw [inner?] at h
    split at h
    next negated ranges behind hfound =>
      exact ((hnamed negated ranges).shortens h).trans (named?_suffix hfound)
    next => exact hopened.shortens h
  · intro cs
    rw [inner?, inner?, named?_append]
    cases named? cs with
    | none => exact hopened.outlook cs
    | some found => exact (hnamed found.1 found.2.1).outlook found.2.2

lemma steady_closed? (outer : List Bracket) (set : Nested CharSet) :
    Steady Open (closed? outer set) := by
  cases outer with
  | nil => exact .pure (Sum.inr set)
  | cons next more => exact .pure (Sum.inl (next.push set :: more))

lemma steady_listed? (flags : Flags) (b : Bracket) (outer : List Bracket) :
    Steady Open (listed? flags b outer) := by
  refine (steady_bracketItem? flags).bindOf
    (fun set => .pure (Sum.inl (b.push ⟨set, 0⟩ :: outer))) fun set rest hunclosed next more h => ?_
  cases h
  exact ⟨rfl, hunclosed⟩

lemma steady_stepBody? (flags : Flags) (b : Bracket) (outer : List Bracket) :
    Steady Open (stepBody? flags b outer) := by
  have hoperate : ∀ op, Steady Open fun rest : List Char =>
      some (Sum.inl (b.operate flags op :: outer), rest) := fun op => .pure _
  refine .of_but (.mark ['['] (fun _ _ => rfl) (by simp) (steady_inner? flags b outer) ?_)
  refine .mark [']'] (fun _ _ => rfl) (by simp) (.given (b.close? flags) (steady_closed? outer)) ?_
  refine .mark ['&', '&'] (fun _ _ => rfl) (by simp) (hoperate .inter) ?_
  refine .mark ['-', '-'] (fun _ _ => rfl) (by simp) (hoperate .diff) ?_
  refine .mark ['~', '~'] (fun _ _ => rfl) (by simp) (hoperate .symmDiff) ?_
  refine .rest (by simp) (fun cs hcs => ?_) (steady_listed? flags b outer)
  simp only [List.forall_mem_cons] at hcs
  cases cs with
  | nil => rfl
  | cons c rest =>
      obtain ⟨htilde, hminus, hand, hclose, hopen, -⟩ := hcs
      rw [stepBody?]
      · exact List.cons_ne_nil c rest
      · exact fun more h => hopen ⟨more, h.symm⟩
      · exact fun more h => hclose ⟨more, h.symm⟩
      · exact fun more h => hand ⟨more, h.symm⟩
      · exact fun more h => hminus ⟨more, h.symm⟩
      · exact fun more h => htilde ⟨more, h.symm⟩

/-- **A step** inside brackets. -/
lemma steady_bracketStep? (flags : Flags) (b : Bracket) (outer : List Bracket) :
    Steady Open (bracketStep? flags b outer) :=
  ((steady_stepBody? flags b outer).skipping flags).of_eq (bracketStep?_eq flags b outer)

lemma stepBody?_length {flags : Flags} {b : Bracket} {outer : List Bracket} {cs rest : List Char}
    {next : Next} (h : stepBody? flags b outer cs = some (next, rest)) :
    rest.length < cs.length := by
  rw [stepBody?.eq_def] at h
  split at h
  · cases h
  · exact Nat.lt_succ_of_le ((steady_inner? flags b outer).shortens h).length_le
  · have hclosed : Steady Open _ := .given (b.close? flags) (steady_closed? outer)
    exact Nat.lt_succ_of_le (hclosed.shortens h).length_le
  iterate 3
    · cases h
      simp only [List.length_cons]
      omega
  · obtain ⟨found, hfound, hnext⟩ := Option.bind_eq_some_iff.mp h
    cases hnext
    exact bracketItem?_length hfound

lemma bracketStep?_length {flags : Flags} {b : Bracket} {outer : List Bracket}
    {cs rest : List Char} {next : Next} (h : bracketStep? flags b outer cs = some (next, rest)) :
    rest.length < cs.length :=
  (stepBody?_length h).trans_le (skip_suffix flags cs).length_le

/-- Only a closing bracket ends a class. -/
lemma stepBody?_inr {flags : Flags} {b : Bracket} {outer : List Bracket} {cs rest : List Char}
    {set : Nested CharSet} (h : stepBody? flags b outer cs = some (.inr set, rest)) : ']' ∈ cs := by
  rw [stepBody?.eq_def] at h
  split at h
  · cases h
  · rw [inner?] at h
    split at h
    all_goals
      obtain ⟨found, -, hnext⟩ := Option.bind_eq_some_iff.mp h
      cases hnext
  · exact List.mem_cons_self
  iterate 3
    · cases h
  · obtain ⟨found, -, hnext⟩ := Option.bind_eq_some_iff.mp h
    cases hnext

/-! ## Classes -/

/-- What follows a step. -/
def goOn? (flags : Flags) (steps : Nat) : Next → Reader (Nested CharSet)
  | .inl brackets, rest => bracketSteps? flags steps brackets rest
  | .inr set, rest => some (set, rest)

lemma bracketSteps?_succ (flags : Flags) (steps : Nat) (b : Bracket) (outer : List Bracket)
    (cs : List Char) :
    bracketSteps? flags (steps + 1) (b :: outer) cs =
      (bracketStep? flags b outer cs).bind fun found => goOn? flags steps found.1 found.2 := by
  rw [bracketSteps?]
  refine Option.bind_congr fun found _ => ?_
  obtain ⟨next, rest⟩ := found
  cases next <;> rfl

lemma bracketSteps?_suffix {flags : Flags} {steps : Nat} {brackets : List Bracket}
    {cs rest : List Char} {set : Nested CharSet}
    (h : bracketSteps? flags steps brackets cs = some (set, rest)) : rest <:+ cs := by
  induction steps generalizing brackets cs with
  | zero => cases h
  | succ steps ih =>
      cases brackets with
      | nil => cases h
      | cons b outer =>
          rw [bracketSteps?_succ] at h
          obtain ⟨⟨next, behind⟩, hstep, hrest⟩ := Option.bind_eq_some_iff.mp h
          refine List.IsSuffix.trans ?_ ((steady_bracketStep? flags b outer).shortens hstep)
          cases next with
          | inl brackets => exact ih hrest
          | inr set =>
              cases hrest
              exact List.suffix_rfl

/-- A class wants its closing bracket. -/
lemma bracketSteps?_eq_none {flags : Flags} {steps : Nat} {brackets : List Bracket}
    {cs : List Char} (h : ']' ∉ cs) : bracketSteps? flags steps brackets cs = none := by
  induction steps generalizing brackets cs with
  | zero => rfl
  | succ steps ih =>
      cases brackets with
      | nil => rfl
      | cons b outer =>
          rw [bracketSteps?_succ, Option.bind_eq_none_iff]
          rintro ⟨next, rest⟩ hstep
          have hrest := ((steady_bracketStep? flags b outer).shortens hstep).subset
          cases next with
          | inl brackets => exact ih fun hmem => h (hrest hmem)
          | inr set => exact absurd ((skip_suffix flags cs).subset (stepBody?_inr hstep)) h

lemma outlook_bracketSteps? (flags : Flags) {steps more : Nat} {brackets : List Bracket}
    {cs : List Char} (hsteps : cs.length < steps) (hmore : (cs ++ frameEnd).length < more) :
    Outlook Past (bracketSteps? flags steps brackets cs)
      (bracketSteps? flags more brackets (cs ++ frameEnd)) := by
  induction steps generalizing more brackets cs with
  | zero => cases hsteps
  | succ steps ih =>
      obtain ⟨more, rfl⟩ := Nat.exists_eq_succ_of_ne_zero (Nat.ne_zero_of_lt hmore)
      cases brackets with
      | nil => exact .refused
      | cons b outer =>
          have hshorter : ∀ next rest, bracketStep? flags b outer cs = some (next, rest) →
              rest.length < cs.length := fun _ _ => bracketStep?_length
          have hstep := (steady_bracketStep? flags b outer).outlook cs
          rw [bracketSteps?_succ, bracketSteps?_succ]
          generalize bracketStep? flags b outer cs = res at hstep hshorter ⊢
          generalize bracketStep? flags b outer (cs ++ frameEnd) = framed at hstep ⊢
          cases hstep with
          | same next rest =>
              have hlength := hshorter next rest rfl
              cases next with
              | inl brackets =>
                  have hframed : (rest ++ frameEnd).length < more := by
                    rw [List.length_append] at hmore ⊢
                    omega
                  have hrest : rest.length < steps := by omega
                  exact ih hrest hframed
              | inr set => exact .same set rest
          | passed next =>
              cases next with
              | inl brackets =>
                  change Outlook Past (bracketSteps? flags steps brackets [])
                    (bracketSteps? flags more brackets [])
                  rw [bracketSteps?_eq_none List.not_mem_nil,
                    bracketSteps?_eq_none List.not_mem_nil]
                  exact .refused
              | inr set => exact .passed set
          | refused => exact .refused
          | broken hopen =>
              rename_i next rest
              cases next with
              | inl brackets =>
                  change Outlook Past none (bracketSteps? flags more brackets rest)
                  rw [bracketSteps?_eq_none hopen.2]
                  exact .refused
              | inr set => cases hopen.1

/-- **A class in brackets.** -/
lemma steady_bracket? (flags : Flags) : Steady Past (bracket? flags) := by
  have hsteps : ∀ b : Bracket, Steady Past fun rest : List Char =>
      bracketSteps? flags (rest.length + 1) [b] rest := fun b =>
    ⟨bracketSteps?_suffix,
      fun _ => outlook_bracketSteps? flags (Nat.lt_succ_self _) (Nat.lt_succ_self _)⟩
  refine (steady_openBracket? flags).bindOf hsteps fun b rest hunclosed set more h => ?_
  rw [bracketSteps?_eq_none hunclosed] at h
  cases h

end Regex

end DataShape
