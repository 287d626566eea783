import DataShape.Proofs.Path.Dotted

/-!
# Paths and their dotted texts

Writing a path and reading the text are not quite inverse to each other.  A path comes back from
its text if each of its steps does, and if the text is not taken for that of the root; a key comes
back unless a point cuts it or it spells a position, and a position comes back unless it is too
large for 64 bits.  In the other direction, whatever is read is legible, since its keys are pieces
without points that were not read as positions.  So reading twice reads nothing new, and what is
written afterwards differs from the text that was read only where a number was padded, or where
the root was left blank.

* `Path.Positional` — the names that are read as positions.
* `Path.ofDotted_text_iff` — **the paths that come back from their texts.**
* `Path.legible_ofDotted` — what is read is legible.
* `Path.text_ofDotted_iff` — **reading brings a text into a normal form**, and the normal texts.
-/

namespace DataShape

namespace Path

/-! ## Steps that are read back -/

/-- The name is the mark of positions with a number after it, which may be padded. -/
def Positional (name : String) : Prop :=
  ∃ sign zeros position, position < Nat.pow 2 64 ∧
    name.toList = Segment.dottedMark.toList ++ (padding sign zeros ++ Decimal.digitsOf position)

lemma Crooked.positional {name : String} (h : Crooked name) : Positional name := by
  obtain ⟨sign, zeros, position, hlt, -, hname⟩ := h
  exact ⟨sign, zeros, position, hlt, hname⟩

/-- A name is read as a key exactly if it is not positional. -/
lemma segmentOf_eq_key_iff (key : String) : segmentOf key.toList = .key key ↔ ¬ Positional key := by
  constructor
  · rintro hread ⟨sign, zeros, position, hlt, hname⟩
    rw [segmentOf_eq_index_iff.mpr ⟨hlt, sign, zeros, hname⟩] at hread
    cases hread
  · intro hkey
    cases hread : segmentOf key.toList with
    | key other => rw [String.toList_inj.mp (toList_of_segmentOf_eq_key hread)]
    | index position =>
        obtain ⟨hlt, sign, zeros, hname⟩ := segmentOf_eq_index_iff.mp hread
        exact absurd ⟨sign, zeros, position, hlt, hname⟩ hkey

/-- A position is read back exactly if it has 64 bits. -/
lemma segmentOf_text_index_iff (position : Nat) :
    segmentOf (Segment.index position).text.toList = .index position ↔
      position < Nat.pow 2 64 := by
  rw [segmentOf_eq_index_iff, Segment.toList_text_index]
  exact and_iff_left ⟨false, 0, rfl⟩

/-- What is read from a piece is read back. -/
lemma segmentOf_text_segmentOf (piece : List Char) :
    segmentOf (segmentOf piece).text.toList = segmentOf piece := by
  cases hread : segmentOf piece with
  | key key =>
      have hkey : (Segment.key key).text.toList = piece := toList_of_segmentOf_eq_key hread
      rw [hkey, hread]
  | index position =>
      exact (segmentOf_text_index_iff position).mpr (segmentOf_eq_index_iff.mp hread).1

/-! ## Paths that are read back -/

lemma Legible.ofDotted_text_eq_iff {p : Path} (h : p.Legible) :
    ofDotted p.text = p ↔ ∀ step ∈ p, segmentOf step.text.toList = step := by
  have hself : p.map id = p := List.map_id p
  rw [h.ofDotted_text]
  exact (Eq.congr_right hself.symm).trans List.map_inj_left

/-- **The paths that come back from their texts.**  All positions of such a path have 64 bits.  And
it is the root, or no key has a point in it, no key is the mark of positions with a number after it
that may be padded, and the path is neither the empty key alone nor the key that is written like the
root. -/
theorem ofDotted_text_iff (p : Path) :
    ofDotted p.text = p ↔
      (∀ position, .index position ∈ p → position < Nat.pow 2 64) ∧
        (p = root ∨
          (∀ key, .key key ∈ p → '.' ∉ key.toList) ∧ (∀ key, .key key ∈ p → ¬ Positional key) ∧
            p ≠ [.key ""] ∧ p ≠ [.key rootText]) := by
  have hsteps : (∀ step ∈ p, segmentOf step.text.toList = step) ↔
      (∀ position, .index position ∈ p → position < Nat.pow 2 64) ∧
        ∀ key, .key key ∈ p → ¬ Positional key := by
    rw [forall_step_iff]
    exact and_congr (forall₂_congr fun position _ => segmentOf_text_index_iff position)
      (forall₂_congr fun key _ => segmentOf_eq_key_iff key)
  constructor
  · intro hback
    have hlegible : p.Legible := (render_ofDotted_text_iff p).mp (by rw [hback])
    obtain ⟨hpositions, hkeys⟩ := hsteps.mp (hlegible.ofDotted_text_eq_iff.mp hback)
    exact ⟨hpositions, .inr ⟨hlegible.whole, hkeys, hlegible.shown⟩⟩
  · rintro ⟨hpositions, rfl | ⟨hwhole, hkeys, hshown⟩⟩
    · exact if_pos (.inr rfl)
    · have hlegible : p.Legible :=
        ⟨hwhole, fun key hkey hcrooked => hkeys key hkey hcrooked.positional, hshown⟩
      exact hlegible.ofDotted_text_eq_iff.mpr (hsteps.mpr ⟨hpositions, hkeys⟩)

/-! ## What is read from a text -/

variable {s : String}

/-- A text is its pieces with points between them. -/
lemma joinDotted_pieces (s : String) : joinDotted ((pieces s.toList).map String.ofList) = s := by
  have hlists : ((pieces s.toList).map String.ofList).map String.toList = pieces s.toList := by
    simp [Function.comp_def]
  rw [← String.toList_inj, joinDotted, String.toList_intercalate, hlists, pieces_eq_splitOn]
  exact List.intercalate_splitOn '.'

lemma eq_of_ofDotted_eq_key {name : String} (h : ¬ (s = "" ∨ s = rootText))
    (hread : ofDotted s = [.key name]) : s = name := by
  rw [ofDotted_of_ne h] at hread
  obtain ⟨piece, hpieces, hpiece⟩ := List.map_eq_singleton_iff.mp hread
  have hname := toList_of_segmentOf_eq_key hpiece
  rw [← joinDotted_pieces s, hpieces, ← hname, List.map_singleton, String.ofList_toList]
  rfl

/-- **What is read is legible.** -/
lemma legible_ofDotted (s : String) : (ofDotted s).Legible := by
  by_cases hroot : s = "" ∨ s = rootText
  · rw [ofDotted, if_pos hroot]
    exact ⟨by simp [root], by simp [root], by simp [root]⟩
  have hpiece : ∀ key, .key key ∈ ofDotted s →
      key.toList ∈ pieces s.toList ∧ segmentOf key.toList = .key key := by
    intro key hkey
    rw [ofDotted_of_ne hroot] at hkey
    obtain ⟨piece, hpiece, hread⟩ := List.mem_map.mp hkey
    rw [toList_of_segmentOf_eq_key hread]
    exact ⟨hpiece, hread⟩
  refine ⟨fun key hkey => point_not_mem_piece (hpiece key hkey).1, fun key hkey => ?_, ?_, ?_⟩
  · exact mt Crooked.positional ((segmentOf_eq_key_iff key).mp (hpiece key hkey).2)
  · exact fun hblank => hroot (.inl (eq_of_ofDotted_eq_key hroot hblank))
  · exact fun hshown => hroot (.inr (eq_of_ofDotted_eq_key hroot hshown))

/-- Reading twice reads nothing new. -/
lemma ofDotted_text_ofDotted (s : String) : ofDotted (ofDotted s).text = ofDotted s := by
  refine (legible_ofDotted s).ofDotted_text_eq_iff.mpr fun step hstep => ?_
  by_cases hroot : s = "" ∨ s = rootText
  · rw [ofDotted, if_pos hroot] at hstep
    exact absurd hstep List.not_mem_nil
  · rw [ofDotted_of_ne hroot] at hstep
    obtain ⟨piece, -, rfl⟩ := List.mem_map.mp hstep
    exact segmentOf_text_segmentOf piece

/-- What is written after reading is the text itself if every piece is. -/
lemma text_ofDotted_eq_iff (h : ¬ (s = "" ∨ s = rootText)) :
    (ofDotted s).text = s ↔
      ∀ piece ∈ pieces s.toList, (segmentOf piece).text = String.ofList piece := by
  have hsome : ofDotted s ≠ [] := by
    rw [ofDotted_of_ne h]
    exact mt List.map_eq_nil_iff.mp (pieces_ne_nil _)
  have hnames : (ofDotted s).map Segment.text =
      (pieces s.toList).map fun piece => (segmentOf piece).text := by
    rw [ofDotted_of_ne h, List.map_map]
    rfl
  constructor
  · intro hsame
    have hpoints := (forall_text_iff point_not_mem_index _).mpr (legible_ofDotted s).whole
    have hpieces := pieces_text hsome hpoints
    rw [hsame] at hpieces
    have hlists : (pieces s.toList).map String.ofList = (ofDotted s).map Segment.text := by
      rw [hpieces, List.map_map]
      exact List.map_congr_left fun step _ => String.ofList_toList
    rw [hnames, List.map_inj_left] at hlists
    exact fun piece hpiece => (hlists piece hpiece).symm
  · intro hpieces
    have htext : (ofDotted s).text = joinDotted ((ofDotted s).map Segment.text) :=
      if_neg (by simpa using hsome)
    rw [htext, hnames, List.map_congr_left hpieces, joinDotted_pieces]

/-- **Reading brings a text into a normal form.**  A text that was written after reading another
one is read as the same path; and it is the text that was read exactly if this was not empty and no
piece of it between points is crooked, that is, the mark of positions with a padded number after
it. -/
theorem text_ofDotted_iff (s : String) :
    ofDotted (ofDotted s).text = ofDotted s ∧
      ((ofDotted s).text = s ↔
        s ≠ "" ∧ ∀ piece ∈ s.toList.splitOn '.', ¬ Crooked (String.ofList piece)) := by
  refine ⟨ofDotted_text_ofDotted s, ?_⟩
  have hpieces : (∀ piece ∈ s.toList.splitOn '.', ¬ Crooked (String.ofList piece)) ↔
      ∀ piece ∈ pieces s.toList, (segmentOf piece).text = String.ofList piece := by
    rw [← pieces_eq_splitOn]
    refine forall₂_congr fun piece _ => ?_
    rw [← text_segmentOf_iff, String.toList_ofList]
  rw [hpieces]
  by_cases hblank : s = ""
  · subst hblank
    exact iff_of_false (by decide) fun h => h.1 rfl
  by_cases hroot : s = rootText
  · subst hroot
    exact iff_of_true rfl ⟨hblank, by decide⟩
  · rw [text_ofDotted_eq_iff (not_or.mpr ⟨hblank, hroot⟩), and_iff_right hblank]

/-- Blank pieces and what stands for the root are kept inside a longer text. -/
example : (ofDotted ".(root).idx_+07.").text = ".(root).idx_7." := by decide

end Path

end DataShape
