import RuleTemplate.Decode.Basic
import RuleTemplate.Event.Encode
import RuleTemplate.Proofs.Calendar.Timestamp
import RuleTemplate.Proofs.Json.Reordering
import RuleTemplate.Proofs.Results
import RuleTemplate.Proofs.Uuid

/-!
# What is encoded is decoded

`Decoder.Accepts decode v a` says that the value `v` is decoded as `a`, in whatever order the
members of its objects stand. So a law proved once serves for the text of a value, which keeps the
order of declaration, and for the value that is held in memory, whose members are sorted.

This module shows the law for the values that are no records; lists and maps pass it on from what
they hold.
-/

namespace RuleTemplate

open Json (Reordered)

namespace Json

/-- A reordering is `null` when the value is. -/
lemma Reordered.isNull_eq {v w : Json} (h : Reordered v w) : w.isNull = v.isNull := by
  cases v with
  | list items =>
    rw [Reordered] at h
    obtain ⟨items', rfl, -⟩ := h
    rfl
  | object members =>
    rw [Reordered] at h
    obtain ⟨others, ns, rfl, -⟩ := h
    rfl
  | _ =>
    rw [Reordered] at h
    · rw [h]
    all_goals simp

lemma Reordered.eq_string {t : Text} {w : Json} (h : Reordered (.string t) w) : w = .string t := by
  rwa [Reordered] at h <;> simp

lemma Reordered.eq_number {n : Json.Number} {w : Json} (h : Reordered (.number n) w) :
    w = .number n := by
  rwa [Reordered] at h <;> simp

end Json

namespace Decoder

variable {α : Type} {decode : Decoder α} {toJson : α → Json}

/-- Every reordering of the value is decoded as `a`. -/
def Accepts (decode : Decoder α) (v : Json) (a : α) : Prop :=
  ∀ scope w, Reordered v w → decode scope w = .ok a

lemma accepts_text (t : Text) : text.Accepts (.string t) t := by
  intro scope w h
  rw [h.eq_string]
  rfl

lemma accepts_uuid (u : Uuid) : uuid.Accepts (.string u.text) u := by
  intro scope w h
  rw [h.eq_string]
  show (Uuid.read u.text).mapError DecodeError.uuid = .ok u
  rw [Uuid.read_text]
  rfl

lemma accepts_timestamp (t : Timestamp) : timestamp.Accepts t.toJson t := by
  intro scope w h
  rw [Timestamp.toJson] at h
  rw [h.eq_string]
  show (Timestamp.read t.text).mapError DecodeError.timestamp = .ok t
  rw [Timestamp.read_text]
  rfl

lemma accepts_int64 (i : Int64) : int64.Accepts (.ofInt64 i) i := by
  intro scope w h
  rw [Json.ofInt64] at h
  have hlt : i.toInt < 0x8000000000000000 := i.toInt_lt
  rw [h.eq_number, int64, if_pos hlt, Int64.ofInt_toInt]

/-- Sorted values come back as they were. -/
lemma accepts_any (v : Json.Sorted) : any.Accepts v.json v := by
  intro scope w h
  have hsorted : w.sorted = v.json := Json.sorted_of_reordered v.isSorted h
  show Except.ok (⟨w.sorted, w.isSorted_sorted⟩ : Json.Sorted) = .ok v
  congr 1
  cases v
  congr 1

/-- A choice is found under its name. -/
lemma accepts_choice {all : List α} {name : α → Text} {a : α}
    (h : named all name (name a) = .ok a) : (choice all name).Accepts (.string (name a)) a := by
  intro scope w hw
  rw [hw.eq_string]
  exact h

/-! ## Values that hold others -/

lemma nullable_of_not_null {scope : Scope} {w : Json} (h : w.isNull = false) :
    nullable decode scope w = some <$> decode scope w := by
  cases w with
  | null => cases h
  | _ => rfl

lemma accepts_some {v : Json} {a : α} (hnull : v.isNull = false) (h : decode.Accepts v a) :
    (nullable decode).Accepts v (some a) := by
  intro scope w hw
  rw [nullable_of_not_null (hw.isNull_eq.trans hnull), h scope w hw]
  rfl

lemma accepts_null (decode : Decoder α) : (nullable decode).Accepts .null none := by
  intro scope w hw
  have hnull : w.isNull = true := hw.isNull_eq
  obtain rfl := Json.isNull_iff.1 hnull
  rfl

/-- A value that may be missing is told from `null`, which no value is written as. -/
lemma accepts_ofOption (value : Option α) (hnull : ∀ a, (toJson a).isNull = false)
    (h : ∀ a, value = some a → decode.Accepts (toJson a) a) :
    (nullable decode).Accepts (.ofOption toJson value) value := by
  cases value with
  | none => exact accepts_null decode
  | some a => exact accepts_some (hnull a) (h a rfl)

lemma accepts_list {as : List α} (h : ∀ a ∈ as, decode.Accepts (toJson a) a) :
    (list decode).Accepts (.list (as.map toJson)) as := by
  intro scope w hw
  rw [Reordered] at hw
  obtain ⟨items, rfl, hitems⟩ := hw
  have hside := Json.reorderedItems_iff.1 hitems
  rw [List.forall₂_map_left_iff] at hside
  show items.mapM (decode scope) = .ok as
  refine Results.mapM_eq_ok_of_forall₂ ?_
  have hall : ∀ a ∈ as, ∀ v, Reordered (toJson a) v → decode scope v = .ok a :=
    fun a ha v hv => h a ha scope v hv
  exact ((List.forall₂_and_left _ _).2 ⟨hall, hside⟩).imp fun a v hav => hav.1 v hav.2

/-- Another order of what a function gives is what it gives in another order. -/
lemma exists_map_of_perm {β γ : Type} {f : β → γ} {bs : List β} {cs : List γ}
    (h : (bs.map f).Perm cs) : ∃ bs', cs = bs'.map f ∧ bs.Perm bs' := by
  have hside : List.Forall₂ (fun c b => c = f b) (bs.map f) bs := by
    rw [List.forall₂_map_left_iff, List.forall₂_same]
    exact fun _ _ => rfl
  obtain ⟨bs', hbs', hperm⟩ := List.perm_comp_forall₂ h.symm hside
  have hequal : List.Forall₂ Eq cs (bs'.map f) := List.forall₂_map_right_iff.2 hbs'
  rw [List.forall₂_eq_eq_eq] at hequal
  exact ⟨bs', hequal, hperm.symm⟩

/-- The members of a map are decoded in any order, as their names come once. -/
lemma accepts_map {m : KeyMap α} (h : ∀ e ∈ m.entries, decode.Accepts (toJson e.2) e.2) :
    (map decode).Accepts (.object (m.entries.map fun e => (e.1, toJson e.2))) m := by
  intro scope w hw
  -- the members that are decoded come from the entries in another order
  obtain ⟨ns, members, rfl, hperm, hside⟩ := Json.exists_of_reordered_object hw
  obtain ⟨entries, rfl, hentries⟩ := exists_map_of_perm hperm
  rw [List.forall₂_map_left_iff] at hside
  have hall : ∀ e ∈ entries, ∀ n : Text × Json, n.1 = e.1 ∧ Reordered (toJson e.2) n.2 →
      (do return (n.1, ← decode scope n.2) : Except DecodeError (Text × α)) = .ok e := by
    intro e he n hn
    rw [h e (hentries.mem_iff.2 he) scope n.2 hn.2, hn.1]
    rfl
  have hmapM : ns.mapM (fun n => do return (n.1, ← decode scope n.2)) = .ok entries :=
    Results.mapM_eq_ok_of_forall₂
      (((List.forall₂_and_left _ _).2 ⟨hall, hside⟩).imp fun e n hen => hen.1 n hen.2)
  show KeyMap.ofList <$> ns.mapM (fun n => do return (n.1, ← decode scope n.2)) = .ok m
  rw [hmapM]
  exact congrArg Except.ok (KeyMap.ofList_eq_of_perm hentries)

end Decoder
end RuleTemplate
