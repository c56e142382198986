import Mathlib.Tactic.Lemma
import RuleTemplate.Json.Sorted
import RuleTemplate.Proofs.Json.Reordering

/-!
# Places in JSON values

A place in a JSON value is named by the names of members and the positions of items on the way to
it: `v.Contains places w` says that `w` stands in `v` behind these places. A name that comes twice
in an object names two parts.
-/

namespace RuleTemplate.Json

/-- Where a part stands in a value. -/
inductive Place where
  | member (name : Text)
  | item (index : Nat)
deriving DecidableEq

/-- The value has the part at that place. -/
inductive HasPart : Json → Place → Json → Prop
  | member {members : Members} {name : Text} {w : Json} (h : (name, w) ∈ members) :
      HasPart (.object members) (.member name) w
  | item {items : List Json} {index : Nat} {w : Json} (h : items[index]? = some w) :
      HasPart (.list items) (.item index) w

/-- The value has the other one inside it, behind these places. -/
inductive Contains : Json → List Place → Json → Prop
  | here (v : Json) : Contains v [] v
  | inside {v u w : Json} {place : Place} {places : List Place} (h : v.HasPart place u)
      (hu : Contains u places w) : Contains v (place :: places) w

variable {v w : Json} {members : Members} {items : List Json} {place : Place}
  {places : List Place}

lemma HasPart.isSorted (h : v.HasPart place w) (hv : v.isSorted = true) : w.isSorted = true := by
  cases h with
  | member h =>
    rw [isSorted, Bool.and_eq_true] at hv
    exact isSortedMembers_iff.1 hv.2 _ h
  | item h =>
    rw [isSorted] at hv
    exact isSortedItems_iff.1 hv _ (List.mem_of_getElem? h)

lemma Contains.isSorted (h : v.Contains places w) (hv : v.isSorted = true) : w.isSorted = true := by
  induction h with
  | here v => exact hv
  | inside hpart _ ih => exact ih (hpart.isSorted hv)

lemma contains_nil : v.Contains [] w ↔ v = w := by
  constructor
  · rintro ⟨⟩
    rfl
  · rintro rfl
    exact .here v

/-- Inside an object stands what is inside its members. -/
lemma contains_object_cons : (object members).Contains (place :: places) w ↔
    ∃ m ∈ members, place = .member m.1 ∧ m.2.Contains places w := by
  constructor
  · intro h
    cases h with
    | inside hpart hw =>
      cases hpart with
      | member hmem => exact ⟨_, hmem, rfl, hw⟩
  · rintro ⟨m, hmem, rfl, hw⟩
    exact .inside (.member hmem) hw

/-- Where names come once, a name leads to the value that stands under it. -/
lemma contains_member_cons (hnodup : (members.map (·.1)).Nodup) {name : Text} :
    (object members).Contains (.member name :: places) w ↔
      ∃ u, members.lookup name = some u ∧ u.Contains places w := by
  rw [contains_object_cons]
  constructor
  · rintro ⟨m, hm, hplace, hw⟩
    obtain rfl : name = m.1 := Place.member.inj hplace
    exact ⟨m.2, lookup_of_nodup hnodup hm, hw⟩
  · rintro ⟨u, hlookup, hw⟩
    exact ⟨_, mem_of_lookup hlookup, rfl, hw⟩

/-- Inside a list stands what is inside its items. -/
lemma contains_list_cons : (list items).Contains (place :: places) w ↔
    ∃ i v, items[i]? = some v ∧ place = .item i ∧ v.Contains places w := by
  constructor
  · intro h
    cases h with
    | inside hpart hw =>
      cases hpart with
      | item hitem => exact ⟨_, _, hitem, rfl, hw⟩
  · rintro ⟨i, v, hitem, rfl, hw⟩
    exact .inside (.item hitem) hw

/-! ## Places in reorderings -/

/-- Lists that are related side by side have related elements at each position. -/
lemma exists_getElem?_of_forall₂ {α β : Type} {R : α → β → Prop} {as : List α} {bs : List β}
    (h : List.Forall₂ R as bs) {i : Nat} {b : β} (hi : bs[i]? = some b) :
    ∃ a, as[i]? = some a ∧ R a b := by
  induction h generalizing i with
  | nil => cases hi
  | @cons a _ _ _ hab _ ih =>
    cases i with
    | zero =>
      cases hi
      exact ⟨a, rfl, hab⟩
    | succ i => exact ih hi

/-- The parts of a reordering are reorderings of the parts. -/
lemma Reordered.exists_part {u : Json} (h : Reordered v w) (hu : w.HasPart place u) :
    ∃ u', v.HasPart place u' ∧ Reordered u' u := by
  cases v with
  | list items =>
    rw [Reordered] at h
    obtain ⟨items', rfl, hitems⟩ := h
    cases hu with
    | item hitem =>
      obtain ⟨u', hu', hreordered⟩ := exists_getElem?_of_forall₂ (reorderedItems_iff.1 hitems) hitem
      exact ⟨u', .item hu', hreordered⟩
  | object members =>
    obtain ⟨ns, members', rfl, hperm, hside⟩ := exists_of_reordered_object h
    cases hu with
    | @member _ name _ hmem =>
      obtain ⟨i, hi⟩ := List.getElem?_of_mem hmem
      obtain ⟨m, hm, hname, hreordered⟩ := exists_getElem?_of_forall₂ hside hi
      obtain rfl : name = m.1 := hname
      exact ⟨m.2, .member (hperm.mem_iff.2 (List.mem_of_getElem? hm)), hreordered⟩
  | _ =>
    rw [Reordered] at h
    · rw [h] at hu
      cases hu
    all_goals simp

/-- What is inside a reordering stands behind the same places before. -/
lemma Reordered.exists_contains {u : Json} (h : Reordered v w) (hu : w.Contains places u) :
    ∃ u', v.Contains places u' ∧ Reordered u' u := by
  induction hu generalizing v with
  | here w => exact ⟨v, .here v, h⟩
  | inside hpart _ ih =>
    obtain ⟨x, hx, hreordered⟩ := h.exists_part hpart
    obtain ⟨u', hu', hlast⟩ := ih hreordered
    exact ⟨u', .inside hx hu', hlast⟩

end RuleTemplate.Json
