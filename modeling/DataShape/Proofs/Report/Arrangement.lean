import Mathlib.Data.List.Perm.Basic
import DataShape.Proofs.Report.Nodes

/-!
# A log in the order of its report

The list of all messages goes through the places of a report, a place before those below it, and
gives at each the messages that were added there, in the order in which they came.  So it is the log
itself in another order: sorted by places, with the entries of one place left as they were.  The
places below another one follow it without a gap, and so do their messages.

* `Report.Gapless` — what is at a place and below it comes in one piece.
* `Node.Grown.gapless_places` — the places of a report are such a row, whatever place one asks for.
* `Report.arranged` — a log in the order of the places of a report.
* `Report.exists_arrangement` — **a report lists its log, place by place.**
-/

namespace DataShape

namespace Report

/-! ## Rows without gaps -/

section Gapless

variable {α : Type} {placeOf : α → List String} {names : List String} {items : List α}

/-- The items at a place come in one piece, and directly after them those below the place. -/
def Gapless (placeOf : α → List String) (names : List String) (items : List α) : Prop :=
  ∃ before here below after, items = before ++ here ++ below ++ after ∧
    (∀ item ∈ here, placeOf item = names) ∧
    (∀ item ∈ below, names <+: placeOf item ∧ placeOf item ≠ names) ∧
    ∀ item ∈ before ++ after, ¬ names <+: placeOf item

lemma gapless_of_forall_not (h : ∀ item ∈ items, ¬ names <+: placeOf item) :
    Gapless placeOf names items :=
  ⟨items, [], [], [], by simp, by simp, by simp, by simpa using h⟩

/-- Items elsewhere may stand around. -/
lemma Gapless.surround (h : Gapless placeOf names items) {front back : List α}
    (hfront : ∀ item ∈ front, ¬ names <+: placeOf item)
    (hback : ∀ item ∈ back, ¬ names <+: placeOf item) :
    Gapless placeOf names (front ++ items ++ back) := by
  obtain ⟨before, here, below, after, rfl, hhere, hbelow, hother⟩ := h
  refine ⟨front ++ before, here, below, after ++ back, by simp, hhere, hbelow, fun item hitem => ?_⟩
  rw [List.forall_mem_append] at hother
  simp only [List.mem_append] at hitem
  rcases hitem with (hitem | hitem) | hitem | hitem
  · exact hfront item hitem
  · exact hother.1 item hitem
  · exact hother.2 item hitem
  · exact hback item hitem

/-- The same row as seen from one name further out. -/
lemma Gapless.under {places : List (List String)} (h : Gapless id names places) (name : String) :
    Gapless id (name :: names) (places.map (name :: ·)) := by
  obtain ⟨before, here, below, after, rfl, hhere, hbelow, hother⟩ := h
  refine ⟨before.map (name :: ·), here.map (name :: ·), below.map (name :: ·),
    after.map (name :: ·), by simp, ?_, ?_, ?_⟩
  · exact List.forall_mem_map.mpr fun place hplace => congrArg (name :: ·) (hhere place hplace)
  · refine List.forall_mem_map.mpr fun place hplace => ?_
    obtain ⟨hwithin, hne⟩ := hbelow place hplace
    exact ⟨List.cons_prefix_cons.mpr ⟨rfl, hwithin⟩, fun hsame => hne (List.cons.inj hsame).2⟩
  · rw [← List.map_append]
    refine List.forall_mem_map.mpr fun place hplace hwithin => ?_
    exact hother place hplace (List.cons_prefix_cons.mp hwithin).2

/-- A row of items that are given place by place, along a row of places. -/
lemma Gapless.flatMap {places : List (List String)} {itemsAt : List String → List α}
    (h : Gapless id names places) (hitems : ∀ place, ∀ item ∈ itemsAt place, placeOf item = place) :
    Gapless placeOf names (places.flatMap itemsAt) := by
  have hall : ∀ {P : List String → Prop} {row : List (List String)}, (∀ place ∈ row, P place) →
      ∀ item ∈ row.flatMap itemsAt, P (placeOf item) := by
    intro P row hrow item hitem
    obtain ⟨place, hplace, hmem⟩ := List.mem_flatMap.mp hitem
    exact hitems place item hmem ▸ hrow place hplace
  obtain ⟨before, here, below, after, rfl, hhere, hbelow, hother⟩ := h
  refine ⟨before.flatMap itemsAt, here.flatMap itemsAt, below.flatMap itemsAt,
    after.flatMap itemsAt, by simp, hall hhere, hall hbelow, ?_⟩
  rw [← List.flatMap_append]
  exact hall hother

/-- The items at the place are those that a filter finds. -/
lemma Gapless.exists_eq (h : Gapless placeOf names items) :
    ∃ before below after,
      items = before ++ items.filter (fun item => placeOf item = names) ++ below ++ after ∧
        (∀ item ∈ below, names <+: placeOf item ∧ placeOf item ≠ names) ∧
        ∀ item ∈ before ++ after, ¬ names <+: placeOf item := by
  obtain ⟨before, here, below, after, hrow, hhere, hbelow, hother⟩ := h
  have hne : ∀ item ∈ before ++ after, ¬ placeOf item = names :=
    fun item hitem hsame => hother item hitem (hsame ▸ List.prefix_refl names)
  rw [List.forall_mem_append] at hne
  have hfilter : items.filter (fun item => placeOf item = names) = here := by
    rw [hrow, List.filter_append, List.filter_append, List.filter_append,
      List.filter_eq_nil_iff.mpr (by simpa using hne.1),
      List.filter_eq_self.mpr (by simpa using hhere),
      List.filter_eq_nil_iff.mpr (by simpa using fun item hitem => (hbelow item hitem).2),
      List.filter_eq_nil_iff.mpr (by simpa using hne.2)]
    simp
  exact ⟨before, below, after, hfilter.symm ▸ hrow, hbelow, hother⟩

end Gapless

namespace Node

/-! ## Messages by places -/

lemma listChildren_eq (place : Option String) (children : List (String × Node)) :
    listChildren place children =
      children.flatMap fun branch => toListUnder (some (placeBelow place branch.1)) branch.2 := by
  induction children with
  | nil => rw [listChildren, List.flatMap_nil]
  | cons branch rest ih =>
      obtain ⟨name, child⟩ := branch
      rw [listChildren, ih, List.flatMap_cons]

/-- **Messages are listed place by place.** -/
lemma Grown.toListUnder_eq_flatMap {n : Node} (h : n.Grown) (place : Option String) :
    n.toListUnder place = n.places.flatMap fun names => (n.messagesAt names).map fun message =>
      ((placeAt place names).getD Path.rootText, message) := by
  induction h generalizing place with
  | @intro messages children hnames _ _ ih =>
      rw [toListUnder_mk, listChildren_eq, places, placesBelow_eq, List.flatMap_cons,
        messagesAt_nil, List.flatMap_assoc]
      congr 1
      refine List.flatMap_congr fun branch hbranch => ?_
      rw [ih branch hbranch, List.flatMap_map]
      refine List.flatMap_congr fun names _ => ?_
      rw [messagesAt_of_mem hnames hbranch]
      rfl

/-! ## Places in their order -/

/-- Branches of other names have no place below a name. -/
lemma not_prefix_of_mem_placesBelow {children : List (String × Node)} {name : String}
    (h : name ∉ Entries.keys children) (rest : List String) :
    ∀ place ∈ placesBelow children, ¬ name :: rest <+: place := by
  rintro place hplace hwithin
  obtain ⟨branch, hbranch, below, -, rfl⟩ := mem_placesBelow.mp hplace
  obtain ⟨rfl, -⟩ := List.cons_prefix_cons.mp hwithin
  exact h (List.mem_map_of_mem hbranch)

lemma placesBelow_append (children more : List (String × Node)) :
    placesBelow (children ++ more) = placesBelow children ++ placesBelow more := by
  rw [placesBelow_eq, placesBelow_eq, placesBelow_eq, List.flatMap_append]

/-- **The places below another one follow it without a gap.** -/
lemma Grown.gapless_places {n : Node} (h : n.Grown) (names : List String) :
    Gapless id names n.places := by
  induction h generalizing names with
  | @intro messages children hkeys _ _ ih =>
      rw [places]
      cases names with
      | nil =>
          refine ⟨[], [[]], placesBelow children, [], by simp, by simp, fun place hplace => ?_,
            by simp⟩
          obtain ⟨branch, -, below, -, rfl⟩ := mem_placesBelow.mp hplace
          exact ⟨List.nil_prefix, List.cons_ne_nil _ _⟩
      | cons name rest =>
          have hroot : ∀ place ∈ [[]], ¬ name :: rest <+: place := by simp
          by_cases hname : name ∈ Entries.keys children
          · obtain ⟨⟨key, child⟩, hchild, rfl⟩ := List.mem_map.mp hname
            obtain ⟨front, back, rfl⟩ := List.append_of_mem hchild
            -- The branch of the name has such a row, and no other one has a place below the name.
            rw [Entries.keys, List.map_append, List.map_cons, List.nodup_middle, List.nodup_cons,
              List.mem_append, not_or] at hkeys
            have hfront := List.forall_mem_append.mpr
              ⟨hroot, not_prefix_of_mem_placesBelow hkeys.1.1 rest⟩
            have hback := not_prefix_of_mem_placesBelow hkeys.1.2 rest
            have hrow := ((ih _ hchild rest).under key).surround hfront hback
            rwa [List.append_assoc, List.singleton_append, List.cons_append,
              ← placesBelow, ← placesBelow_append] at hrow
          · exact gapless_of_forall_not (List.forall_mem_append.mpr
              ⟨hroot, not_prefix_of_mem_placesBelow hname rest⟩)

end Node

/-! ## Arranged logs -/

section Sorting

variable {ι α : Type} [DecidableEq ι] {key : α → ι} {keys : List ι} {items : List α}

lemma flatMap_ite_eq (h : keys.Nodup) (k : ι) (row : List α) :
    (keys.flatMap fun other => if other = k then row else []) = if k ∈ keys then row else [] := by
  induction keys with
  | nil => rfl
  | cons first rest ih =>
      rw [List.nodup_cons] at h
      rw [List.flatMap_cons, ih h.2]
      by_cases hfirst : first = k
      · subst hfirst
        simp [h.1]
      · simp [hfirst, Ne.symm hfirst]

/-- Sorting by a key leaves the items of one key in their order. -/
lemma filter_flatMap_filter (h : keys.Nodup) (hkeys : ∀ item ∈ items, key item ∈ keys) (k : ι) :
    (keys.flatMap fun other => items.filter fun item => key item = other).filter
      (fun item => key item = k) = items.filter fun item => key item = k := by
  have hrow : ∀ other, (items.filter fun item => key item = other).filter
      (fun item => key item = k) =
        if other = k then items.filter (fun item => key item = k) else [] := by
    intro other
    rw [List.filter_filter]
    split_ifs with hother
    · subst hother
      simp
    · refine List.filter_eq_nil_iff.mpr fun item _ hitem => hother ?_
      rw [Bool.and_eq_true, decide_eq_true_iff, decide_eq_true_iff] at hitem
      exact hitem.2.symm.trans hitem.1
  rw [List.filter_flatMap, List.flatMap_congr fun other _ => hrow other, flatMap_ite_eq h]
  refine ite_eq_left_iff.mpr fun hk => (List.filter_eq_nil_iff.mpr fun item hitem => ?_).symm
  rw [decide_eq_true_iff]
  exact fun hsame => hk (hsame ▸ hkeys item hitem)

/-- Lists with the same items of every key, in the same order, are the same list but for the order
of items. -/
lemma perm_of_filter_eq [DecidableEq α] {row : List α}
    (h : ∀ k, items.filter (fun item => key item = k) = row.filter fun item => key item = k) :
    items.Perm row := by
  refine List.perm_iff_count.mpr fun item => ?_
  have hcount : ∀ other : List α,
      (other.filter fun each => key each = key item).count item = other.count item :=
    fun other => List.count_filter (decide_eq_true rfl)
  rw [← hcount items, h, hcount]

end Sorting

lemma Grown.toList_eq_flatMap {r : Report} (h : r.Grown) :
    r.toList = r.places.flatMap fun names =>
      ((r.top.getD .empty).messagesAt names).map fun message =>
        ((Node.placeAt none names).getD Path.rootText, message) := by
  rw [toList, places]
  cases htop : r.top with
  | none => rfl
  | some node => exact (h node htop).toListUnder_eq_flatMap none

lemma Grown.gapless_places {r : Report} (h : r.Grown) (names : List String) :
    Gapless id names r.places := by
  rw [places]
  cases htop : r.top with
  | none => exact gapless_of_forall_not fun _ hplace => absurd hplace List.not_mem_nil
  | some node => exact (h node htop).gapless_places names

/-- A log in the order of the places of a report. -/
def arranged (r : Report) (log : List (Path × String)) : List (Path × String) :=
  r.places.flatMap fun names => log.filter fun entry => entry.1.render r.indexMark = names

variable (settings : Settings) (log : List (Path × String))

lemma toList_addAll_new_eq_arranged :
    ((new settings).addAll log).toList = (((new settings).addAll log).arranged log).map fun entry =>
      (entry.1.placeText settings.indexMark, entry.2) := by
  have hmark : ((new settings).addAll log).indexMark = settings.indexMark := indexMark_addAll _ _
  rw [((grown_new settings).addAll log).toList_eq_flatMap, arranged, List.map_flatMap, hmark]
  refine List.flatMap_congr fun names _ => ?_
  have hmessages : (((new settings).addAll log).top.getD .empty).messagesAt names =
      (log.filter fun entry => entry.1.render settings.indexMark = names).map (·.2) := by
    have hpath := messagesAt_addAll (new settings) log (names.map .key)
    rw [messagesAt_eq, Path.render_keys, Path.render_keys] at hpath
    exact hpath
  rw [hmessages, List.map_map]
  refine List.map_congr_left fun entry hentry => ?_
  rw [List.mem_filter, decide_eq_true_iff] at hentry
  rw [Function.comp_apply, ← hentry.2, Node.placeAt_render]

/-- The entries of one place are left in their order. -/
lemma filter_arranged_addAll_new (names : List String) :
    (((new settings).addAll log).arranged log).filter
        (fun entry => entry.1.render settings.indexMark = names) =
      log.filter fun entry => entry.1.render settings.indexMark = names := by
  rw [arranged, indexMark_addAll]
  refine filter_flatMap_filter ((grown_new settings).addAll log).nodup_places
    (fun entry hentry => ?_) names
  exact (mem_places_addAll_new settings log _).mpr ⟨entry, hentry, List.prefix_refl _⟩

/-- **A report lists its log, place by place.**  The list of all messages is the log in another
order, each entry with the text of its path.  In this order, whatever place one asks for, the
entries of the place come in one piece, and among themselves as they were added; directly after them
come all entries of the places below. -/
theorem exists_arrangement :
    ∃ arrangement : List (Path × String), arrangement.Perm log ∧
      ((new settings).addAll log).toList =
        arrangement.map (fun entry => (entry.1.placeText settings.indexMark, entry.2)) ∧
      ∀ place : Path, ∃ before below after,
        arrangement = before ++ log.filter (fun entry =>
          entry.1.render settings.indexMark = place.render settings.indexMark) ++ below ++ after ∧
        (∀ entry ∈ below, place.render settings.indexMark <+: entry.1.render settings.indexMark ∧
          entry.1.render settings.indexMark ≠ place.render settings.indexMark) ∧
        ∀ entry ∈ before ++ after,
          ¬ place.render settings.indexMark <+: entry.1.render settings.indexMark := by
  have hfilter := filter_arranged_addAll_new settings log
  refine ⟨((new settings).addAll log).arranged log, perm_of_filter_eq hfilter,
    toList_addAll_new_eq_arranged settings log, fun place => ?_⟩
  have hplaces := ((grown_new settings).addAll log).gapless_places
    (place.render settings.indexMark)
  have hrow : Gapless (fun entry : Path × String => entry.1.render settings.indexMark)
      (place.render settings.indexMark) (((new settings).addAll log).arranged log) := by
    rw [arranged, indexMark_addAll]
    refine hplaces.flatMap fun names entry hentry => ?_
    exact of_decide_eq_true (List.mem_filter.mp hentry).2
  rw [← hfilter]
  exact hrow.exists_eq

/-- Messages about a place come before those below it, also where they were added later. -/
example : ((new .usual).addAll [([.key "a", .index 0], "below"), ([.key "b"], "beside"),
    ([.key "a"], "first"), ([], "top"), ([.key "a"], "second")]).toList =
    [("(root)", "top"), ("a", "first"), ("a", "second"), ("a.idx_0", "below"), ("b", "beside")] := by
  decide

end Report

end DataShape
