import Mathlib.Tactic.Lemma
import RuleTemplate.Json.Basic

/-!
# Induction over JSON values

A property holds of all values when it holds of a list whose items have it, of an object whose
members have it, and of all other values (`Json.induct`). What is defined by going through items and
members is described here by membership.
-/

namespace RuleTemplate.Json

/-- Induction over lists and objects. -/
@[elab_as_elim] theorem induct {motive : Json → Prop} (null : motive .null)
    (bool : ∀ b, motive (.bool b)) (number : ∀ n, motive (.number n))
    (string : ∀ t, motive (.string t))
    (list : ∀ items, (∀ v ∈ items, motive v) → motive (.list items))
    (object : ∀ members, (∀ m ∈ members, motive m.2) → motive (.object members))
    (v : Json) : motive v := by
  have hcons : ∀ v items, motive v → (∀ w ∈ items, motive w) → ∀ w ∈ v :: items, motive w :=
    fun _ _ hv hitems => List.forall_mem_cons.2 ⟨hv, hitems⟩
  have hmember : ∀ (m : Text × Json) members, motive m.2 → (∀ n ∈ members, motive n.2) →
      ∀ n ∈ m :: members, motive n.2 := fun _ _ hm hmembers => List.forall_mem_cons.2 ⟨hm, hmembers⟩
  exact @Json.rec motive (fun items => ∀ v ∈ items, motive v)
    (fun members => ∀ m ∈ members, motive m.2) (fun m => motive m.2) null bool number string list
    object (List.forall_mem_nil _) hcons (List.forall_mem_nil _) hmember (fun _ _ hv => hv) v

variable {v : Json} {items : List Json} {members : Members} {m : Text × Json}

lemma isNull_iff : v.isNull = true ↔ v = .null := by
  cases v <;> simp [isNull]

/-! ## Numbers -/

mutual

/-- The numbers in a value, from left to right. -/
def numbers : Json → List Number
  | .number n => [n]
  | .list items => numbersItems items
  | .object members => numbersMembers members
  | _ => []

/-- The numbers in items. -/
def numbersItems : List Json → List Number
  | [] => []
  | v :: items => numbers v ++ numbersItems items

/-- The numbers in the values of members. -/
def numbersMembers : List (Text × Json) → List Number
  | [] => []
  | (_, v) :: members => numbers v ++ numbersMembers members

end

lemma mem_numbersItems {n : Number} : n ∈ numbersItems items ↔ ∃ v ∈ items, n ∈ v.numbers := by
  induction items with
  | nil => simp [numbersItems]
  | cons v items ih => simp [numbersItems, ih]

lemma mem_numbersMembers {n : Number} :
    n ∈ numbersMembers members ↔ ∃ m ∈ members, n ∈ m.2.numbers := by
  induction members with
  | nil => simp [numbersMembers]
  | cons m members ih => simp [numbersMembers, ih]

end RuleTemplate.Json
