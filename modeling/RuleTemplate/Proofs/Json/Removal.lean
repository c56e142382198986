import RuleTemplate.Proofs.Json.Basic
import RuleTemplate.Proofs.Json.Places

/-!
# Members that are left out

`v.without gone` is the value `v` without the members that stand at places that are gone, at all
depths. What is left stands in the order in which it stood, and what stands under a name is found as
before, if it is there at all (`lookup_withoutMembers`).
-/

namespace RuleTemplate.Json

/-- The places that are gone in the part at a place. -/
def behind (gone : List Place → Bool) (place : Place) : List Place → Bool :=
  fun places => gone (place :: places)

mutual

/-- The value without the members at places that are gone. -/
def without (gone : List Place → Bool) : Json → Json
  | .list items => .list (withoutItems gone 0 items)
  | .object members => .object (withoutMembers gone members)
  | v => v

/-- `without` for all items, the first of which has the given position. -/
def withoutItems (gone : List Place → Bool) (first : Nat) : List Json → List Json
  | [] => []
  | v :: items => without (behind gone (.item first)) v :: withoutItems gone (first + 1) items

/-- The members that are not gone, and `without` for their values. -/
def withoutMembers (gone : List Place → Bool) : List (Text × Json) → List (Text × Json)
  | [] => []
  | (name, v) :: members =>
    if gone [.member name] then withoutMembers gone members
    else (name, without (behind gone (.member name)) v) :: withoutMembers gone members

end

variable {gone : List Place → Bool} {v : Json} {items : List Json} {members : Members}

@[simp] lemma isNull_without : (v.without gone).isNull = v.isNull := by
  cases v <;> rfl

lemma without_object :
    (object members).without gone = .object (withoutMembers gone members) := rfl

lemma withoutMembers_cons_of_gone {name : Text} (h : gone [.member name] = true) :
    withoutMembers gone ((name, v) :: members) = withoutMembers gone members := by
  rw [withoutMembers, if_pos h]

lemma withoutMembers_cons_of_kept {name : Text} (h : gone [.member name] = false) :
    withoutMembers gone ((name, v) :: members) =
      (name, v.without (behind gone (.member name))) :: withoutMembers gone members := by
  rw [withoutMembers, h, if_neg Bool.false_ne_true]

/-- An item stays at its position. -/
lemma getElem?_withoutItems (first i : Nat) : (withoutItems gone first items)[i]? =
    items[i]?.map (without (behind gone (.item (first + i)))) := by
  induction items generalizing first i with
  | nil => rfl
  | cons v items ih =>
    cases i with
    | zero => rfl
    | succ i =>
      rw [withoutItems, List.getElem?_cons_succ, List.getElem?_cons_succ, ih (first + 1) i,
        Nat.add_right_comm, Nat.add_assoc]

/-- What stands under a name, if it is not gone. -/
lemma lookup_withoutMembers (name : Text) : (withoutMembers gone members).lookup name =
    if gone [.member name] then none
    else (members.lookup name).map (without (behind gone (.member name))) := by
  induction members with
  | nil => cases gone [.member name] <;> rfl
  | cons m members ih =>
    obtain ⟨other, v⟩ := m
    rw [List.lookup_cons]
    by_cases heq : name = other
    · subst heq
      rw [beq_self_eq_true]
      cases hgone : gone [.member name] with
      | true => rw [withoutMembers_cons_of_gone hgone, ih, hgone, if_pos rfl, if_pos rfl]
      | false => rw [withoutMembers_cons_of_kept hgone, List.lookup_cons_self]; rfl
    · rw [beq_false_of_ne heq, ← ih]
      cases hgone : gone [.member other] with
      | true => rw [withoutMembers_cons_of_gone hgone]
      | false => rw [withoutMembers_cons_of_kept hgone, List.lookup_cons, beq_false_of_ne heq]

/-- Members can be left out by their names before or after. -/
lemma filter_withoutMembers (gone : List Place → Bool) (members : Members) (p : Text → Bool) :
    (withoutMembers gone members).filter (fun m => p m.1)
      = withoutMembers gone (members.filter fun m => p m.1) := by
  induction members with
  | nil => rfl
  | cons m members ih =>
    obtain ⟨name, v⟩ := m
    cases hgone : gone [.member name] <;> cases hp : p name <;>
      simp [withoutMembers, hgone, hp, ih]

/-! ## Nothing is left out -/

lemma withoutItems_eq_self {first : Nat} (h : ∀ (i : Nat) v, items[i]? = some v →
    without (behind gone (.item (first + i))) v = v) : withoutItems gone first items = items := by
  refine List.ext_getElem? fun i => ?_
  rw [getElem?_withoutItems]
  cases hi : items[i]? with
  | none => rfl
  | some v => rw [Option.map_some, h i v hi]

lemma withoutMembers_eq_self (h : ∀ m ∈ members, gone [.member m.1] = false ∧
    without (behind gone (.member m.1)) m.2 = m.2) : withoutMembers gone members = members := by
  induction members with
  | nil => rfl
  | cons m members ih =>
    obtain ⟨⟨hkept, hvalue⟩, hrest⟩ := List.forall_mem_cons.1 h
    rw [withoutMembers_cons_of_kept hkept, hvalue, ih hrest]

/-- A value stays as it is when none of the places that are gone is in it. -/
lemma without_eq_self (h : ∀ places u, gone places = true → ¬ v.Contains places u) :
    v.without gone = v := by
  induction v using Json.induct generalizing gone with
  | list items ih =>
    refine congrArg list (withoutItems_eq_self fun i v hi => ?_)
    rw [Nat.zero_add]
    exact ih v (List.mem_of_getElem? hi) fun places u hgone hu =>
      h _ u hgone (.inside (.item hi) hu)
  | object members ih =>
    refine congrArg object (withoutMembers_eq_self fun m hm => ⟨?_, ?_⟩)
    · exact Bool.eq_false_iff.2 fun hgone => h _ m.2 hgone (.inside (.member hm) (.here m.2))
    · exact ih m hm fun places u hgone hu => h _ u hgone (.inside (.member hm) hu)
  | _ => rfl

/-! ## One member is left out -/

variable {place other : Place} {places : List Place}

/-- One place is gone, and the way to it leads through this part. -/
lemma behind_self : behind (· = place :: places) place = (decide <| · = places) := by
  funext p
  simp [behind]

/-- One place is gone, and the way to it leads through another part. -/
lemma behind_of_ne (h : other ≠ place) : behind (· = place :: places) other = fun _ => false := by
  funext p
  simp [behind, h]

lemma without_none (v : Json) : v.without (fun _ => false) = v :=
  without_eq_self fun _ _ hgone => absurd hgone Bool.false_ne_true

end RuleTemplate.Json
