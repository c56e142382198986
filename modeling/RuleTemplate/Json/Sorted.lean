import RuleTemplate.KeyMap
import RuleTemplate.Json.Basic

/-!
# JSON values with sorted members

A JSON value that is held, and not only read through, has the members of each object in key order
and each name once. `Json.sorted` brings any value into that form; of members that repeat a name it
keeps the last. Values in that form form the type `Json.Sorted`.
-/

namespace RuleTemplate.Json

mutual

/-- Whether all objects list their members in strictly increasing order of names. -/
def isSorted : Json → Bool
  | .list items => isSortedItems items
  | .object members => decide (Ascending members) && isSortedMembers members
  | _ => true

/-- `isSorted` for all items. -/
def isSortedItems : List Json → Bool
  | [] => true
  | v :: items => isSorted v && isSortedItems items

/-- `isSorted` for the values of all members. -/
def isSortedMembers : List (Text × Json) → Bool
  | [] => true
  | (_, v) :: members => isSorted v && isSortedMembers members

end

theorem isSortedItems_iff {items : List Json} :
    isSortedItems items = true ↔ ∀ v ∈ items, v.isSorted = true := by
  induction items with
  | nil => simp [isSortedItems]
  | cons v items ih => simp [isSortedItems, ih]

theorem isSortedMembers_iff {members : Members} :
    isSortedMembers members = true ↔ ∀ m ∈ members, m.2.isSorted = true := by
  induction members with
  | nil => simp [isSortedMembers]
  | cons m members ih => obtain ⟨k, v⟩ := m; simp [isSortedMembers, ih]

mutual

/-- The value with the members of every object in key order, the last of each name. -/
def sorted : Json → Json
  | .list items => .list (sortedItems items)
  | .object members => .object (sortedMembers [] members)
  | v => v

/-- `sorted` for all items. -/
def sortedItems : List Json → List Json
  | [] => []
  | v :: items => sorted v :: sortedItems items

/-- The given entries, overwritten by the members from left to right. -/
def sortedMembers (entries : List (Text × Json)) : List (Text × Json) → List (Text × Json)
  | [] => entries
  | (k, v) :: members => sortedMembers (put k (sorted v) entries) members

end

mutual

theorem isSorted_sorted : (v : Json) → v.sorted.isSorted = true
  | .null | .bool _ | .number _ | .string _ => by simp [sorted, isSorted]
  | .list items => by simp [sorted, isSorted, isSortedItems_sortedItems items]
  | .object members => by
    have h := isSortedMembers_sortedMembers members [] List.Pairwise.nil rfl
    simp [sorted, isSorted, h.1, h.2]

theorem isSortedItems_sortedItems : (items : List Json) → isSortedItems (sortedItems items) = true
  | [] => by simp [sortedItems, isSortedItems]
  | v :: items => by
    simp [sortedItems, isSortedItems, isSorted_sorted v, isSortedItems_sortedItems items]

theorem isSortedMembers_sortedMembers : (members : List (Text × Json)) →
    (entries : List (Text × Json)) → Ascending entries → isSortedMembers entries = true →
    Ascending (sortedMembers entries members) ∧ isSortedMembers (sortedMembers entries members) = true
  | [], entries, ha, hs => by simp [sortedMembers, ha, hs]
  | (k, v) :: members, entries, ha, hs => by
    rw [sortedMembers]
    refine isSortedMembers_sortedMembers members _ (ascending_put ha) (isSortedMembers_iff.2 ?_)
    intro m hm
    rcases mem_put hm with rfl | hm
    · exact isSorted_sorted v
    · exact isSortedMembers_iff.1 hs m hm

end

/-- A JSON value in which every object lists its members by name, each name once. -/
structure Sorted where
  json : Json
  isSorted : json.isSorted = true
deriving DecidableEq

/-- The sorted form of a value. -/
def toSorted (v : Json) : Sorted := ⟨v.sorted, v.isSorted_sorted⟩

namespace Sorted

instance : Inhabited Sorted := ⟨.null, rfl⟩

/-- The member of an object with the given name. -/
def member? (v : Sorted) (name : Text) : Option Sorted :=
  match v with
  | ⟨.object members, h⟩ =>
    match e : members.find? (·.1 = name) with
    | some m => some ⟨m.2, by
        have := List.mem_of_find?_eq_some e
        rw [Json.isSorted, Bool.and_eq_true] at h
        exact isSortedMembers_iff.1 h.2 m this⟩
    | none => none
  | _ => none

theorem lookup_eq_find? (members : Members) (name : Text) :
    members.lookup name = (members.find? (·.1 = name)).map (·.2) := by
  induction members with
  | nil => rfl
  | cons m members ih =>
    obtain ⟨k, w⟩ := m
    rw [List.lookup_cons, List.find?_cons]
    by_cases h : k = name
    · simp [h]
    · simp [h, beq_false_of_ne (Ne.symm h), ih]

/-- The member of an object is what stands under its name. -/
theorem json_member? {v : Sorted} {members : Members} (h : v.json = .object members)
    (name : Text) : (v.member? name).map (·.json) = members.lookup name := by
  obtain ⟨w, hw⟩ := v
  cases h
  rw [lookup_eq_find?, member?]
  split <;> next e => simp [e]

/-- The item of a list at the given position, from zero. -/
def item? (v : Sorted) (index : Nat) : Option Sorted :=
  match v with
  | ⟨.list items, h⟩ =>
    if inside : index < items.length then
      some ⟨items[index], isSortedItems_iff.1 (by simpa [Json.isSorted] using h) _
        (List.getElem_mem inside)⟩
    else none
  | _ => none

/-- The item of a list is what stands at its position. -/
theorem json_item? {v : Sorted} {items : List Json} (h : v.json = .list items) (index : Nat) :
    (v.item? index).map (·.json) = items[index]? := by
  obtain ⟨w, hw⟩ := v
  cases h
  rw [item?]
  split
  · next inside => simp [inside]
  · next outside => simp [List.getElem?_eq_none (Nat.le_of_not_lt outside)]

/-- Whether the value is `null`. -/
def isNull (v : Sorted) : Bool := v.json.isNull

end Sorted

end RuleTemplate.Json
