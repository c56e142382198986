import RuleTemplate.Proofs.Json.Removal

/-!
# Members that may be missing

Some members of a value may be missing, and stand for a default then; of others it is told when they
are missing. A `Presence` says which, by their places; it is put together as values are
(`Presence.record`, `Presence.items`).

* `Presence.Allows`: what is gone from a value has its default. For an object, that is a condition
  on each of its members (`Presence.OmitsDefaults`).
* `Presence.Covers`: all that stands in a value may be missing or is required.
-/

namespace RuleTemplate

open Json (Place behind)

/-- Which members of a value may be missing. -/
structure Presence where
  /-- What the member at a place stands for when it is missing. -/
  default? : List Place → Option Json
  /-- The member at the place has to be there. -/
  Required : List Place → Prop

namespace Presence

/-- Nothing is said of any member. -/
def silent : Presence := ⟨fun _ => none, fun _ => False⟩

/-- The items of a list go by `p`. -/
def items (p : Presence) : Presence where
  default?
    | .item _ :: places => p.default? places
    | _ => none
  Required
    | .item _ :: places => p.Required places
    | _ => False

/-- The members of these names are required but for those with a default, and their values go by
`inner`. -/
def record (names : List Text) (defaults : List (Text × Json)) (inner : Text → Presence) :
    Presence where
  default?
    | [.member name] => defaults.lookup name
    | .member name :: places => (inner name).default? places
    | _ => none
  Required
    | [.member name] => name ∈ names ∧ defaults.lookup name = none
    | .member name :: places => name ∈ names ∧ (inner name).Required places
    | _ => False

/-- What is gone from the value has its default. -/
def Allows (p : Presence) (gone : List Place → Bool) (v : Json) : Prop :=
  ∀ places u, gone places = true → v.Contains places u → p.default? places = some u

/-- Among the members of these names, those that are gone have their defaults, and so has what is
gone from the values of the others. -/
structure OmitsDefaults (defaults : List (Text × Json)) (inner : Text → Presence)
    (names : List Text) (gone : List Place → Bool) (members : Json.Members) : Prop where
  omitted : ∀ m ∈ members, m.1 ∈ names → gone [.member m.1] = true → defaults.lookup m.1 = some m.2
  kept : ∀ m ∈ members, m.1 ∈ names → gone [.member m.1] = false →
    (inner m.1).Allows (behind gone (.member m.1)) m.2

variable {p : Presence} {gone : List Place → Bool} {v : Json} {names names' : List Text}
  {defaults : List (Text × Json)} {inner : Text → Presence} {members members' : Json.Members}
  {name : Text} {places : List Place}

/-- Where no member has a default, and nothing is said of the values. -/
lemma default?_record_nil (names : List Text) (places : List Place) :
    (record names [] fun _ => silent).default? places = none := by
  obtain _ | ⟨_ | _, _ | _⟩ := places <;> rfl

lemma record_required_append {field : Text} :
    (record names defaults inner).Required (.member field :: places ++ [.member name]) ↔
      field ∈ names ∧ (inner field).Required (places ++ [.member name]) := by
  cases places <;> rfl

lemma exists_field_of_required (h : (record names defaults inner).Required places) :
    ∃ field rest, places = .member field :: rest ∧ field ∈ names := by
  obtain _ | ⟨field | i, _ | ⟨place, places⟩⟩ := places
  · exact h.elim
  · exact ⟨field, [], rfl, h.1⟩
  · exact ⟨field, place :: places, rfl, h.1⟩
  · exact h.elim
  · exact h.elim

/-- What is required does not depend on the names of other members. -/
lemma Required.of_mem {field : Text}
    (h : (record names defaults inner).Required (.member field :: places)) (hmem : field ∈ names') :
    (record names' defaults inner).Required (.member field :: places) := by
  cases places <;> exact ⟨hmem, h.2⟩

lemma allows_none (p : Presence) (v : Json) : p.Allows (fun _ => false) v :=
  fun _ _ hgone => absurd hgone Bool.false_ne_true

lemma Allows.without_eq_self (h : silent.Allows gone v) : v.without gone = v :=
  Json.without_eq_self fun places u hgone hu => nomatch h places u hgone hu

/-- What is gone from a record is gone from its members. -/
lemma Allows.omitsDefaults (h : (record names defaults inner).Allows gone (.object members))
    (hsub : ∀ m ∈ members', m ∈ members) :
    OmitsDefaults defaults inner names' gone members' where
  omitted m hm _ hgone := h _ _ hgone (.inside (.member (hsub m hm)) (.here m.2))
  kept m hm _ hkept places u hgone hu := by
    have hdefault := h _ u hgone (.inside (.member (hsub m hm)) hu)
    cases places with
    | nil => exact absurd hgone (Bool.eq_false_iff.1 hkept)
    | cons place places => exact hdefault

lemma OmitsDefaults.mono (h : OmitsDefaults defaults inner names gone members)
    (hsub : ∀ name ∈ names', name ∈ names) : OmitsDefaults defaults inner names' gone members where
  omitted m hm hname := h.omitted m hm (hsub m.1 hname)
  kept m hm hname := h.kept m hm (hsub m.1 hname)

/-- Where another member is gone, or something in it, these are all there. -/
lemma omitsDefaults_of_notMem (h : name ∉ names) :
    OmitsDefaults defaults inner names (· = .member name :: places) members where
  omitted m _ hname hgone := by
    obtain ⟨hplace, -⟩ := List.cons.inj (of_decide_eq_true hgone)
    exact absurd (Place.member.inj hplace ▸ hname) h
  kept m _ hname _ := by
    have hne : Place.member m.1 ≠ .member name := fun heq => h (Place.member.inj heq ▸ hname)
    rw [Json.behind_of_ne hne]
    exact allows_none _ _

/-! ### Values of which all is said -/

/-- Each member in the value may be missing or is required. -/
def Covers (p : Presence) (v : Json) : Prop :=
  ∀ places name u, v.Contains (places ++ [.member name]) u →
    p.default? (places ++ [.member name]) = none → p.Required (places ++ [.member name])

lemma covers_of_no_part (p : Presence) (h : ∀ place w, ¬ v.HasPart place w) : p.Covers v := by
  intro places name u hu
  obtain _ | ⟨place, places⟩ := places
  all_goals
    cases hu with
    | inside hpart => exact absurd hpart (h _ _)

@[simp] lemma covers_null (p : Presence) : p.Covers .null :=
  covers_of_no_part p fun _ _ h => by cases h

@[simp] lemma covers_number (p : Presence) (n : Json.Number) : p.Covers (.number n) :=
  covers_of_no_part p fun _ _ h => by cases h

@[simp] lemma covers_string (p : Presence) (t : Text) : p.Covers (.string t) :=
  covers_of_no_part p fun _ _ h => by cases h

lemma covers_list {values : List Json} (h : ∀ v ∈ values, p.Covers v) :
    p.items.Covers (.list values) := by
  intro places name u hu hnone
  obtain _ | ⟨place, places⟩ := places
  · obtain ⟨i, v, -, hplace, -⟩ := Json.contains_list_cons.1 hu
    cases hplace
  · obtain ⟨i, v, hi, rfl, hv⟩ := Json.contains_list_cons.1 hu
    exact h v (List.mem_of_getElem? hi) places name u hv hnone

/-- What is in an object is required when it has no default, if all is said of the value of the
member on the way to it. -/
lemma required_of_contains {u : Json} (hnames : ∀ m ∈ members, m.1 ∈ names)
    (hvalues : ∀ m ∈ members, [.member m.1] <+: places → (inner m.1).Covers m.2)
    (hu : (Json.object members).Contains (places ++ [.member name]) u)
    (hnone : (record names defaults inner).default? (places ++ [.member name]) = none) :
    (record names defaults inner).Required (places ++ [.member name]) := by
  obtain _ | ⟨place, places⟩ := places
  · obtain ⟨m, hm, hplace, -⟩ := Json.contains_object_cons.1 hu
    obtain rfl : name = m.1 := Place.member.inj hplace
    exact ⟨hnames m hm, hnone⟩
  · obtain ⟨m, hm, rfl, hrest⟩ := Json.contains_object_cons.1 hu
    have hinner : (inner m.1).default? (places ++ [.member name]) = none := by
      cases places <;> exact hnone
    have hcovers := hvalues m hm (List.prefix_append [_] places)
    exact record_required_append.2 ⟨hnames m hm, hcovers places name u hrest hinner⟩

lemma covers_object (hnames : ∀ m ∈ members, m.1 ∈ names)
    (hvalues : ∀ m ∈ members, (inner m.1).Covers m.2) :
    (record names defaults inner).Covers (.object members) := fun _ _ _ hu hnone =>
  required_of_contains hnames (fun m hm _ => hvalues m hm) hu hnone

end Presence

end RuleTemplate
