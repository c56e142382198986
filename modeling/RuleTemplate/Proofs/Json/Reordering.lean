import Mathlib.Data.List.Perm.Basic
import RuleTemplate.Json.Sorted
import RuleTemplate.Proofs.Json.Basic
import RuleTemplate.Proofs.KeyMap

/-!
# Members in another order

`Reordered v w` says that `w` is `v` with the members of its objects in another order, at all
depths.

* `reordered_sorted`: sorting is such a reordering, where names come once (`Distinct`).
* `sorted_of_reordered`: a value whose members are sorted is found again in each reordering of it.
-/

namespace RuleTemplate.Json

open scoped List

mutual

/-- The second value is the first one with the members of its objects in another order. -/
def Reordered : Json → Json → Prop
  | .list items, w => ∃ items', w = .list items' ∧ ReorderedItems items items'
  | .object members, w => ∃ members' members'', w = .object members''
    ∧ ReorderedMembers members members' ∧ members'.Perm members''
  | v, w => w = v

/-- `Reordered` item by item. -/
def ReorderedItems : List Json → List Json → Prop
  | [], ws => ws = []
  | v :: vs, ws => ∃ w ws', ws = w :: ws' ∧ Reordered v w ∧ ReorderedItems vs ws'

/-- `Reordered` for the values of members, the names as they are. -/
def ReorderedMembers : List (Text × Json) → List (Text × Json) → Prop
  | [], ws => ws = []
  | (k, v) :: vs, ws => ∃ w ws', ws = (k, w) :: ws' ∧ Reordered v w ∧ ReorderedMembers vs ws'

end

mutual

/-- No object names a member twice. -/
def Distinct : Json → Prop
  | .list items => DistinctItems items
  | .object members => (members.map (·.1)).Nodup ∧ DistinctMembers members
  | _ => True

/-- `Distinct` for all items. -/
def DistinctItems : List Json → Prop
  | [] => True
  | v :: items => Distinct v ∧ DistinctItems items

/-- `Distinct` for the values of all members. -/
def DistinctMembers : List (Text × Json) → Prop
  | [] => True
  | (_, v) :: members => Distinct v ∧ DistinctMembers members

end

variable {v w : Json} {items : List Json} {members members' ns : Members}

lemma reorderedItems_iff : ∀ {items items' : List Json},
    ReorderedItems items items' ↔ List.Forall₂ Reordered items items'
  | [], items' => by
    rw [ReorderedItems, List.forall₂_nil_left_iff]
  | v :: items, items' => by
    rw [ReorderedItems, List.forall₂_cons_left_iff]
    constructor
    · rintro ⟨w, ws, rfl, hw, hws⟩
      exact ⟨w, ws, hw, reorderedItems_iff.1 hws, rfl⟩
    · rintro ⟨w, ws, hw, hws, rfl⟩
      exact ⟨w, ws, rfl, hw, reorderedItems_iff.2 hws⟩

lemma reorderedMembers_iff : ∀ {members members' : Members}, ReorderedMembers members members' ↔
    List.Forall₂ (fun m m' => m'.1 = m.1 ∧ Reordered m.2 m'.2) members members'
  | [], members' => by
    rw [ReorderedMembers, List.forall₂_nil_left_iff]
  | (k, v) :: members, members' => by
    rw [ReorderedMembers, List.forall₂_cons_left_iff]
    constructor
    · rintro ⟨w, ws, rfl, hw, hws⟩
      exact ⟨(k, w), ws, ⟨rfl, hw⟩, reorderedMembers_iff.1 hws, rfl⟩
    · rintro ⟨⟨k', w⟩, ws, ⟨hk, hw⟩, hws, rfl⟩
      cases hk
      exact ⟨w, ws, rfl, hw, reorderedMembers_iff.2 hws⟩

lemma distinctItems_iff : DistinctItems items ↔ ∀ v ∈ items, v.Distinct := by
  induction items with
  | nil => simp [DistinctItems]
  | cons v items ih => simp [DistinctItems, ih]

lemma distinctMembers_iff : DistinctMembers members ↔ ∀ m ∈ members, m.2.Distinct := by
  induction members with
  | nil => simp [DistinctMembers]
  | cons m members ih => simp [DistinctMembers, ih]

/-! ## Objects -/

/-- The members of an object and those of a reordering, put side by side. -/
lemma exists_of_reordered_object (h : Reordered (.object members) w) :
    ∃ ns members', w = .object ns ∧ members.Perm members' ∧
      List.Forall₂ (fun m n => n.1 = m.1 ∧ Reordered m.2 n.2) members' ns := by
  rw [Reordered] at h
  obtain ⟨others, ns, rfl, hothers, hperm⟩ := h
  -- the order is changed first and the values afterwards, instead of the other way round
  have hflip := List.Forall₂.flip (reorderedMembers_iff.1 hothers)
  obtain ⟨members', hmembers', hperm'⟩ := List.perm_comp_forall₂ hperm.symm hflip
  exact ⟨ns, members', rfl, hperm'.symm, hmembers'.flip⟩

lemma map_fst_of_forall₂ (h : List.Forall₂ (fun m n => n.1 = m.1 ∧ Reordered m.2 n.2) members ns) :
    ns.map (·.1) = members.map (·.1) := by
  induction h with
  | nil => rfl
  | cons hm _ ih => rw [List.map_cons, List.map_cons, hm.1, ih]

lemma lookup_of_forall₂ (h : List.Forall₂ (fun m n => n.1 = m.1 ∧ Reordered m.2 n.2) members ns)
    {name : Text} (hv : members.lookup name = some v) :
    ∃ w, ns.lookup name = some w ∧ Reordered v w := by
  induction h with
  | nil => cases hv
  | @cons m n members ns hm _ ih =>
    obtain ⟨k, u⟩ := m
    obtain ⟨l, w⟩ := n
    obtain ⟨rfl, hw⟩ := hm
    rw [List.lookup_cons] at hv ⊢
    cases heq : name == l with
    | true =>
      rw [heq] at hv
      cases hv
      exact ⟨w, rfl, hw⟩
    | false =>
      rw [heq] at hv
      exact ih hv

/-- A reordering of an object names its members as often, and has values under the same names. -/
lemma Reordered.object (hnodup : (members.map (·.1)).Nodup) (h : Reordered (.object members) w) :
    ∃ ns, w = .object ns ∧ (ns.map (·.1)).Perm (members.map (·.1)) ∧
      (∀ name v, members.lookup name = some v → ∃ w, ns.lookup name = some w ∧ Reordered v w) := by
  obtain ⟨ns, members', rfl, hperm, hside⟩ := exists_of_reordered_object h
  refine ⟨ns, rfl, ?_, fun name v hv => lookup_of_forall₂ hside ?_⟩
  · rw [map_fst_of_forall₂ hside]
    exact (hperm.map _).symm
  · rw [lookup_eq_of_perm hnodup hperm, hv]

/-! ## No change -/

/-- A value is a reordering of itself. -/
lemma Reordered.refl (v : Json) : Reordered v v := by
  induction v using Json.induct with
  | list items ih =>
    rw [Reordered]
    exact ⟨items, rfl, reorderedItems_iff.2 (List.forall₂_same.2 ih)⟩
  | object members ih =>
    rw [Reordered]
    exact ⟨members, members, rfl, reorderedMembers_iff.2 (List.forall₂_same.2 fun m hm =>
      ⟨rfl, ih m hm⟩), List.Perm.refl _⟩
  | _ => simp [Reordered]

/-! ## Sorting -/

lemma sortedItems_eq_map (items : List Json) : sortedItems items = items.map sorted := by
  induction items with
  | nil => rfl
  | cons v items ih => rw [sortedItems, ih, List.map_cons]

/-- Where names come once, sorting moves the members of an object and loses none of them. -/
lemma sortedMembers_perm {entries : Members}
    (hnodup : (entries.map (·.1) ++ members.map (·.1)).Nodup) :
    (sortedMembers entries members).Perm (entries ++ members.map fun m => (m.1, m.2.sorted)) := by
  induction members generalizing entries with
  | nil => simp [sortedMembers]
  | cons m members ih =>
    obtain ⟨k, v⟩ := m
    rw [List.map_cons] at hnodup
    -- the name is written among the entries, from where it could come again
    have hmiddle := List.nodup_middle.1 hnodup
    obtain ⟨hk, -⟩ := List.nodup_cons.1 hmiddle
    have hput := put_perm (v := v.sorted) fun hmem => hk (List.mem_append_left _ hmem)
    have hnodup' : ((put k v.sorted entries).map (·.1) ++ members.map (·.1)).Nodup :=
      ((hput.map (·.1)).append_right _).nodup_iff.2 hmiddle
    calc sortedMembers entries ((k, v) :: members)
        = sortedMembers (put k v.sorted entries) members := by rw [sortedMembers]
      _ ~ put k v.sorted entries ++ members.map fun m => (m.1, m.2.sorted) := ih hnodup'
      _ ~ (k, v.sorted) :: entries ++ members.map fun m => (m.1, m.2.sorted) := hput.append_right _
      _ ~ entries ++ ((k, v) :: members).map fun m => (m.1, m.2.sorted) := List.perm_middle.symm

/-- Sorting is a reordering, where names come once. -/
theorem reordered_sorted (h : v.Distinct) : Reordered v v.sorted := by
  induction v using Json.induct with
  | list items ih =>
    rw [Distinct, distinctItems_iff] at h
    rw [Reordered, sorted, sortedItems_eq_map]
    exact ⟨_, rfl, reorderedItems_iff.2 (List.forall₂_map_right_iff.2
      (List.forall₂_same.2 fun v hv => ih v hv (h v hv)))⟩
  | object members ih =>
    rw [Distinct, distinctMembers_iff] at h
    rw [Reordered, sorted]
    have hperm : sortedMembers [] members ~ members.map fun m => (m.1, m.2.sorted) :=
      sortedMembers_perm h.1
    refine ⟨members.map fun m => (m.1, m.2.sorted), _, rfl, ?_, hperm.symm⟩
    exact reorderedMembers_iff.2 (List.forall₂_map_right_iff.2
      (List.forall₂_same.2 fun m hm => ⟨rfl, ih m hm (h.2 m hm)⟩))
  | _ => simp [Reordered, sorted]

lemma isSorted_iff_object : (object members).isSorted = true ↔
    Ascending members ∧ ∀ m ∈ members, m.2.isSorted = true := by
  rw [isSorted, Bool.and_eq_true, decide_eq_true_eq, isSortedMembers_iff]

/-- Sorted names come once. -/
lemma distinct_of_isSorted (h : v.isSorted = true) : v.Distinct := by
  induction v using Json.induct with
  | list items ih =>
    rw [isSorted, isSortedItems_iff] at h
    rw [Distinct, distinctItems_iff]
    exact fun v hv => ih v hv (h v hv)
  | object members ih =>
    obtain ⟨hascending, hmembers⟩ := isSorted_iff_object.1 h
    rw [Distinct, distinctMembers_iff]
    exact ⟨hascending.nodup, fun m hm => ih m hm (hmembers m hm)⟩
  | _ => simp [Distinct]

/-- What stands under a name after sorting. -/
lemma lookup_sortedMembers (hnodup : (members.map (·.1)).Nodup) (name : Text) :
    (sortedMembers [] members).lookup name = (members.lookup name).map sorted := by
  have hperm : sortedMembers [] members ~ members.map fun m => (m.1, m.2.sorted) :=
    sortedMembers_perm hnodup
  have hnodup' : ((members.map fun m => (m.1, m.2.sorted)).map (·.1)).Nodup := by
    rwa [List.map_map]
  rw [lookup_eq_of_perm hnodup' hperm.symm, lookup_map_snd]

/-- A value with sorted members is what sorting makes of each of its reorderings. -/
theorem sorted_of_reordered (hv : v.isSorted = true) (h : Reordered v w) : w.sorted = v := by
  induction v using Json.induct generalizing w with
  | list items ih =>
    rw [isSorted, isSortedItems_iff] at hv
    rw [Reordered] at h
    obtain ⟨items', rfl, hitems⟩ := h
    have hall : ∀ v ∈ items, ∀ w, Reordered v w → v = w.sorted :=
      fun v hmem w hw => (ih v hmem (hv v hmem) hw).symm
    have hside := (List.forall₂_and_left _ _).2 ⟨hall, reorderedItems_iff.1 hitems⟩
    have hequal : List.Forall₂ Eq items (items'.map sorted) :=
      List.forall₂_map_right_iff.2 (hside.imp fun v w hvw => hvw.1 w hvw.2)
    rw [List.forall₂_eq_eq_eq] at hequal
    rw [sorted, sortedItems_eq_map, hequal]
  | object members ih =>
    obtain ⟨hascending, hmembers⟩ := isSorted_iff_object.1 hv
    obtain ⟨ns, rfl, hnames, hlookup⟩ := Reordered.object hascending.nodup h
    have hnodup : (ns.map (·.1)).Nodup := hnames.nodup_iff.2 hascending.nodup
    have hsorted : sorted (.object ns) = .object (sortedMembers [] ns) := by rw [sorted]
    have hascending' := (isSorted_iff_object.1 (hsorted ▸ isSorted_sorted (.object ns))).1
    rw [hsorted]
    -- both sides are in key order, so it is enough to look under each name
    refine congrArg object (hascending'.eq_of_lookup_eq hascending fun name => ?_)
    rw [lookup_sortedMembers hnodup]
    cases hname : members.lookup name with
    | some v =>
      have hmem := mem_of_lookup hname
      obtain ⟨w, hw, hvw⟩ := hlookup name v hname
      rw [hw, Option.map_some, ih _ hmem (hmembers _ hmem) hvw]
    | none =>
      have hnot : name ∉ ns.map (·.1) := by
        rw [hnames.mem_iff]
        intro hmem
        obtain ⟨m, hm, rfl⟩ := List.mem_map.1 hmem
        rw [lookup_of_nodup hascending.nodup hm] at hname
        cases hname
      rw [lookup_eq_none_of_notMem hnot, Option.map_none]
  | _ =>
    rw [Reordered] at h
    rw [h, sorted]
    all_goals simp

end RuleTemplate.Json
