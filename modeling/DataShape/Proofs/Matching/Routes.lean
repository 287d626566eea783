import DataShape.Proofs.Matching.Conformance

/-!
# Routes through a shape and a value

A match goes down through a shape and a value together, and at every place it takes a turn: to an
item of an array, to an entry of a map whose key names a declared field, or to an alternative.  The
turns from the top to a place are the *route* to it.  Only turns to items and entries are steps into
the value, so alternatives do not show in the path of a route.

All turns at one place are of one sort and are counted, items and alternatives by position, entries
in the order of the value.  So places are in depth-first order if the numbers of their turns are in
lexicographic order.

* `Route.path`, `Route.Before` — the path of a route, and the depth-first order.
* `Shape.Leads` — where a route leads, in the shape and in the value.
* `Shape.Misused` — a place where the shape cannot be applied to the value.
* `Shape.FirstMisuse` — the first such place in depth-first order.
-/

namespace DataShape

/-! ## Routes -/

/-- A turn on the way down. -/
inductive Turn where
  /-- To an item of an array. -/
  | item (position : Nat)
  /-- To an entry of a map, by its place in the value; its key has the normalized form `name`. -/
  | entry (position : Nat) (name : String)
  /-- To an alternative; the value stays the same. -/
  | alternative (position : Nat)
deriving DecidableEq

namespace Turn

/-- The step into the value, if the turn is one. -/
def step? : Turn → Option Segment
  | .item position => some (.index position)
  | .entry _ name => some (.key name)
  | .alternative _ => none

/-- The number of the turn among those that can be taken where it is taken. -/
def rank : Turn → Nat
  | .item position => position
  | .entry position _ => position
  | .alternative position => position

end Turn

/-- The turns from a place down to another, in order. -/
abbrev Route := List Turn

namespace Route

/-- The steps into the value. -/
def path (route : Route) : Path := route.filterMap Turn.step?

/-- The first route is before the second in depth-first order: it goes less far, or it takes an
earlier turn where the two part. -/
def Before (route other : Route) : Prop :=
  List.Lex (· < ·) (route.map Turn.rank) (other.map Turn.rank)

/-- The route up to the first place with alternatives. -/
def toChoice (route : Route) : Route := route.takeWhile (·.step?.isSome)

lemma path_toChoice_prefix (route : Route) : route.toChoice.path <+: route.path :=
  (List.takeWhile_prefix _).filterMap _

lemma toChoice_eq_self {route : Route} (h : ∀ turn ∈ route, turn.step?.isSome = true) :
    route.toChoice = route := by
  induction route with
  | nil => rfl
  | cons turn rest ih =>
      rw [List.forall_mem_cons] at h
      rw [toChoice, List.takeWhile_cons, if_pos h.1, ← toChoice, ih h.2]

lemma not_before_nil (route : Route) : ¬ route.Before [] := List.not_lex_nil

/-- No route is before another if its first turn is not earlier, and if the rest is not before where
both begin with the same number. -/
lemma not_before_cons {turn other : Turn} {route more : Route} (h : ¬ other.rank < turn.rank)
    (hrest : turn.rank = other.rank → ¬ more.Before route) :
    ¬ Before (other :: more) (turn :: route) := by
  rw [Before, List.map_cons, List.map_cons, List.cons_lex_cons_iff]
  rintro (hlt | ⟨heq, hbefore⟩)
  · exact h hlt
  · exact hrest heq.symm hbefore

end Route

/-! ## Where routes lead -/

/-- The path leads from the value to a part of it. -/
inductive Value.Leads : Value → Path → Value → Prop
  | here {v : Value} : Leads v [] v
  | item {items : List Value} {position : Nat} {item part : Value} {path : Path} :
      items[position]? = some item → Leads item path part →
      Leads (.array items) (.index position :: path) part
  | entry {entries : List (Key × Value)} {key : Key} {v part : Value} {path : Path} :
      (key, v) ∈ entries → Leads v path part →
      Leads (.map entries) (.key key.normalized :: path) part

namespace Shape

/-- The route leads from the shape and the value to another shape and a part of the value, in
step. -/
inductive Leads : Shape → Value → Route → Shape → Value → Prop
  | here {shape : Shape} {v : Value} : Leads shape v [] shape v
  | item {item place : Shape} {parts : List Value} {position : Nat} {v part : Value}
      {route : Route} :
      parts[position]? = some v → Leads item v route place part →
      Leads (.sequence item) (.array parts) (.item position :: route) place part
  | entry {fields : List (String × Shape)} {entries : List (Key × Value)} {position : Nat}
      {key : Key} {field place : Shape} {v part : Value} {route : Route} :
      entries[position]? = some (key, v) → Entries.lookup? key.normalized fields = some field →
      Leads field v route place part →
      Leads (.record fields) (.map entries) (.entry position key.normalized :: route) place part
  | alternative {alternatives : List Shape} {position : Nat} {shape place : Shape} {v part : Value}
      {route : Route} :
      alternatives[position]? = some shape → Leads shape v route place part →
      Leads (.union alternatives) v (.alternative position :: route) place part
  /-- An optional shape is the union of the shape inside and null. -/
  | optional {inner place : Shape} {v part : Value} {route : Route} :
      Leads (.union [inner, .exact .null]) v route place part →
      Leads (.optional inner) v route place part
  | arrayTemplate {item : Value} {rest : List Value} {place : Shape} {v part : Value}
      {route : Route} :
      Leads (.sequence (.literal item)) v route place part →
      Leads (.literal (.array (item :: rest))) v route place part
  | mapTemplate {entries : List (Key × Value)} {place : Shape} {v part : Value} {route : Route} :
      Leads (.record (Value.templateFields entries)) v route place part →
      Leads (.literal (.map entries)) v route place part

/-- The shape itself cannot be applied to the value: it is a pattern and the value is not text, or
it is an empty template. -/
inductive Misused : Shape → Value → Violation.Cause → Prop
  | pattern {p : Pattern} {v : Value} : (∀ text, v ≠ .text text) →
      Misused (.pattern p) v (.nonText p.text v.inspect)
  | emptyTemplate {v : Value} : Misused (.literal (.array [])) v .emptyTemplate

variable {shape place : Shape} {v part : Value} {route : Route} {cause : Violation.Cause}

lemma Leads.value_leads (h : shape.Leads v route place part) : v.Leads route.path part := by
  induction h with
  | here => exact .here
  | item hpart _ ih => exact .item hpart ih
  | entry hentry _ _ ih => exact .entry (List.mem_of_getElem? hentry) ih
  | alternative _ _ ih => exact ih
  | optional _ ih => exact ih
  | arrayTemplate _ ih => exact ih
  | mapTemplate _ ih => exact ih

lemma Misused.violates (h : shape.Misused v cause) : shape.Violates v := by
  cases h with
  | pattern h => exact .pattern h
  | emptyTemplate => exact .emptyTemplate

/-- A violation is also one of every place that a route to it begins at. -/
lemma Leads.violates_of_place (h : shape.Leads v route place part) (hplace : place.Violates part) :
    shape.Violates v := by
  induction h with
  | here => exact hplace
  | item hpart _ ih => exact .sequence (List.mem_of_getElem? hpart) (ih hplace)
  | entry hentry hfield _ ih => exact .record (List.mem_of_getElem? hentry) hfield (ih hplace)
  | alternative hshape _ ih => exact .union (List.mem_of_getElem? hshape) (ih hplace)
  | optional _ ih => exact .optional (ih hplace)
  | arrayTemplate _ ih => exact .arrayTemplate (ih hplace)
  | mapTemplate _ ih => exact .mapTemplate (ih hplace)

/-- Where a route leads to a misuse, the value violates the shape. -/
lemma Leads.violates (h : shape.Leads v route place part) (hmisused : place.Misused part cause) :
    shape.Violates v := h.violates_of_place hmisused.violates

/-! ## The first misuse -/

/-- The route leads to a misuse, and no route that leads to one comes before it. -/
structure FirstMisuse (shape : Shape) (v : Value) (route : Route) (place : Shape) (part : Value)
    (cause : Violation.Cause) : Prop where
  leads : shape.Leads v route place part
  misused : place.Misused part cause
  first : ∀ (other : Route) (place : Shape) (part : Value) (cause : Violation.Cause),
    shape.Leads v other place part → place.Misused part cause → ¬ other.Before route

namespace FirstMisuse

-- The first misuse is in the first item, entry or alternative that has one: no route leads to a
-- misuse in those before it, and the routes into it are compared by the rest of their turns.

lemma here (h : shape.Misused v cause) : FirstMisuse shape v [] shape v cause where
  leads := .here
  misused := h
  first other _ _ _ _ _ := other.not_before_nil

lemma item {item : Shape} {parts : List Value} {position : Nat}
    (hpart : parts[position]? = some v)
    (hbefore : ∀ earlier < position, ∀ other, parts[earlier]? = some other → ¬ item.Violates other)
    (h : FirstMisuse item v route place part cause) :
    FirstMisuse (.sequence item) (.array parts) (.item position :: route) place part cause where
  leads := .item hpart h.leads
  misused := h.misused
  first other place part cause hleads hmisused := by
    cases hleads with
    | here => cases hmisused
    | item hother hleads =>
        refine Route.not_before_cons (fun hlt => ?_) fun heq => ?_
        · exact hbefore _ hlt _ hother (hleads.violates hmisused)
        · cases (heq : position = _)
          cases hpart.symm.trans hother
          exact h.first _ _ _ _ hleads hmisused

lemma entry {fields : List (String × Shape)} {entries : List (Key × Value)} {position : Nat}
    {key : Key} {field : Shape} (hentry : entries[position]? = some (key, v))
    (hfield : Entries.lookup? key.normalized fields = some field)
    (hbefore : ∀ earlier < position, ∀ other, entries[earlier]? = some other →
      ∀ s, Entries.lookup? other.1.normalized fields = some s → ¬ s.Violates other.2)
    (h : FirstMisuse field v route place part cause) :
    FirstMisuse (.record fields) (.map entries) (.entry position key.normalized :: route) place part
      cause where
  leads := .entry hentry hfield h.leads
  misused := h.misused
  first other place part cause hleads hmisused := by
    cases hleads with
    | here => cases hmisused
    | entry hother hdeclared hleads =>
        refine Route.not_before_cons (fun hlt => ?_) fun heq => ?_
        · exact hbefore _ hlt _ hother _ hdeclared (hleads.violates hmisused)
        · cases (heq : position = _)
          cases hentry.symm.trans hother
          cases hfield.symm.trans hdeclared
          exact h.first _ _ _ _ hleads hmisused

lemma alternative {alternatives : List Shape} {position : Nat}
    (hshape : alternatives[position]? = some shape)
    (hbefore : ∀ earlier < position, ∀ other, alternatives[earlier]? = some other →
      ¬ other.Violates v)
    (h : FirstMisuse shape v route place part cause) :
    FirstMisuse (.union alternatives) v (.alternative position :: route) place part cause where
  leads := .alternative hshape h.leads
  misused := h.misused
  first other place part cause hleads hmisused := by
    cases hleads with
    | here => cases hmisused
    | alternative hother hleads =>
        refine Route.not_before_cons (fun hlt => ?_) fun heq => ?_
        · exact hbefore _ hlt _ hother (hleads.violates hmisused)
        · cases (heq : position = _)
          cases hshape.symm.trans hother
          exact h.first _ _ _ _ hleads hmisused

/-- A shape that leads to the same misuses as another has the same first misuse. -/
lemma of_leads {other : Shape}
    (hto : ∀ route place part, other.Leads v route place part → shape.Leads v route place part)
    (hfrom : ∀ route place part cause, shape.Leads v route place part →
      place.Misused part cause → other.Leads v route place part)
    (h : FirstMisuse other v route place part cause) :
    FirstMisuse shape v route place part cause where
  leads := hto _ _ _ h.leads
  misused := h.misused
  first _ _ _ _ hleads hmisused := h.first _ _ _ _ (hfrom _ _ _ _ hleads hmisused) hmisused

lemma optional {inner : Shape}
    (h : FirstMisuse (.union [inner, .exact .null]) v route place part cause) :
    FirstMisuse (.optional inner) v route place part cause := by
  refine h.of_leads (fun _ _ _ => .optional) fun _ _ _ _ hleads hmisused => ?_
  cases hleads with
  | here => cases hmisused
  | optional hleads => exact hleads

lemma arrayTemplate {item : Value} {rest : List Value}
    (h : FirstMisuse (.sequence (.literal item)) v route place part cause) :
    FirstMisuse (.literal (.array (item :: rest))) v route place part cause := by
  refine h.of_leads (fun _ _ _ => .arrayTemplate) fun _ _ _ _ hleads hmisused => ?_
  cases hleads with
  | here => cases hmisused
  | arrayTemplate hleads => exact hleads

lemma mapTemplate {entries : List (Key × Value)}
    (h : FirstMisuse (.record (Value.templateFields entries)) v route place part cause) :
    FirstMisuse (.literal (.map entries)) v route place part cause := by
  refine h.of_leads (fun _ _ _ => .mapTemplate) fun _ _ _ _ hleads hmisused => ?_
  cases hleads with
  | here => cases hmisused
  | mapTemplate hleads => exact hleads

end FirstMisuse

end Shape

end DataShape
