import RuleTemplate.Proofs.Node.Addresses
import RuleTemplate.Proofs.Node.Users
import RuleTemplate.Proofs.Template.Builtins

/-!
# The case of letters on a path

Records and users are asked for their parts ignoring the case of ASCII letters, while content data,
fields and JSON objects compare keys as they are (`Node.isExact`). So the case of a path does not
matter as long as no segment is looked up in one of the latter: two such paths pass the same nodes
and end at the same one, or break off in the same place (`Node.resolve_congr`).
-/

namespace RuleTemplate

open Text (sameLetters)

/-! ## One segment -/

lemma User.claim?_congr (u : User) {a b : Text} (h : sameLetters a b = true) :
    u.claim? a = u.claim? b := by
  have hlower : Text.lower a = Text.lower b := eq_of_beq h
  unfold User.claim? Text.sameLetters
  rw [hlower]

/-- At a user, `name` stands for the name to be shown in any case of its letters. -/
lemma User.child?_congr (u : User) {a b : Text} (h : sameLetters a b = true) :
    u.child? a = u.child? b := by
  have hclaim : u.claim? (Claim.kindFor a) = u.claim? (Claim.kindFor b) := by
    rw [Claim.kindFor, Claim.kindFor, Text.sameLetters_congr h]
    split
    · rfl
    · exact u.claim?_congr h
  exact child?_eq_of_claim?_eq hclaim (Record.field?_congr _ h)

namespace Node

variable {m n : Node} {a b segment : Text} {p q : List Text}

/-- Whether segments are compared with keys as they are. -/
def isExact : Node → Bool
  | .data _ | .field _ | .json _ => true
  | .null | .text _ | .user _ | .record _ => false

/-- Other nodes ignore the case of letters. -/
lemma child?_congr (hn : n.isExact = false) (h : sameLetters a b = true) :
    n.child? a = n.child? b := by
  cases n with
  | null | text => rfl
  | user u => exact u.child?_congr h
  | record r => exact r.field?_congr h
  | data | field | json => cases hn

lemma child?_data {d : ContentData} : (Node.data d).child? segment = some m ↔
    ∃ f, (segment, some f) ∈ d.entries ∧ m = .field f := by
  constructor
  · intro h
    obtain ⟨f, hf, rfl⟩ := Option.map_eq_some_iff.1 h
    exact ⟨f, KeyMap.mem_entries_iff.2 (Option.join_eq_some_iff.1 hf), rfl⟩
  · rintro ⟨f, hf, rfl⟩
    rw [child?, ContentData.field?, KeyMap.mem_entries_iff.1 hf]
    rfl

lemma child?_field {f : FieldData} : (Node.field f).child? segment = some m ↔
    ∃ v, (segment, v) ∈ f.entries ∧ v.isNull = false ∧ m = .json v := by
  constructor
  · intro h
    obtain ⟨v, hv, rfl⟩ := Option.map_eq_some_iff.1 h
    obtain ⟨hget, hnull⟩ := Option.filter_eq_some_iff.1 hv
    exact ⟨v, KeyMap.mem_entries_iff.2 hget, by simpa using hnull, rfl⟩
  · rintro ⟨v, hv, hnull, rfl⟩
    rw [child?, KeyMap.mem_entries_iff.1 hv, Option.filter_some_pos (by simpa using hnull)]
    rfl

lemma child?_object {v : Json.Sorted} {members : Json.Members} (hv : v.json = .object members) :
    (Node.json v).child? segment = some m ↔
      ∃ w : Json.Sorted, (segment, w.json) ∈ members ∧ w.isNull = false ∧ m = .json w := by
  have hnodup : (members.map (·.1)).Nodup := by
    have hsorted := v.isSorted
    rw [hv] at hsorted
    exact (Json.isSorted_iff_object.1 hsorted).1.nodup
  have hpart : ∀ w : Json.Sorted, v.json.part? segment = some w.json ↔
      (segment, w.json) ∈ members ∧ w.isNull = false := by
    intro w
    have hnull : w.isNull = false ↔ w.json ≠ .null := by
      rw [← Bool.not_eq_true, Json.Sorted.isNull, Json.isNull_iff]
    rw [Json.part?_eq_some_iff, hv, hnull, Json.child?]
    exact and_congr_left fun _ => ⟨mem_of_lookup, lookup_of_nodup hnodup⟩
  rcases child?_json v segment with ⟨hnone, hchild⟩ | ⟨x, hsome, hchild⟩
  · rw [hchild]
    constructor
    · intro h
      cases h
    · rintro ⟨w, hmem, hnull, -⟩
      rw [(hpart w).2 ⟨hmem, hnull⟩] at hnone
      cases hnone
  · rw [hchild, Option.some.injEq]
    constructor
    · rintro rfl
      obtain ⟨hmem, hnull⟩ := (hpart x).1 hsome
      exact ⟨x, hmem, hnull, rfl⟩
    · rintro ⟨w, hmem, hnull, rfl⟩
      rw [(hpart w).2 ⟨hmem, hnull⟩, Option.some.injEq, Json.Sorted.json_inj] at hsome
      rw [hsome]

/-! ## Paths -/

/-- The nodes in which the segments of a path are looked up, the one where it breaks off
included. -/
def passed (n : Node) : List Text → List Node
  | [] => []
  | segment :: path => n :: match n.child? segment with
    | some next => next.passed path
    | none => []

lemma passed_cons_of_some (h : n.child? segment = some m) (path : List Text) :
    n.passed (segment :: path) = n :: m.passed path := by
  rw [passed, h]

/-- Paths that are the same but for the case of letters end alike, as long as case does not matter
in any of the nodes on the first one. -/
lemma resolve_congr (hpq : List.Forall₂ (fun a b => sameLetters a b = true) p q)
    (hn : ∀ k ∈ n.passed p, k.isExact = false) :
    (n.resolve p).1 = (n.resolve q).1 ∧ (n.resolve p).2.length = (n.resolve q).2.length := by
  induction hpq generalizing n with
  | nil => exact ⟨rfl, rfl⟩
  | @cons a b p q hab hpq ih =>
    have hsame : n.child? a = n.child? b := child?_congr (hn n (List.mem_cons_self ..)) hab
    cases hchild : n.child? a with
    | none =>
      rw [resolve_cons_of_none hchild, resolve_cons_of_none (hsame.symm.trans hchild)]
      exact ⟨rfl, by rw [List.length_cons, List.length_cons, hpq.length_eq]⟩
    | some next =>
      rw [resolve_cons_of_some hchild, resolve_cons_of_some (hsame.symm.trans hchild)]
      rw [passed_cons_of_some hchild] at hn
      exact ih fun k hk => hn k (List.mem_cons_of_mem _ hk)

/-- Case is ignored where it should be, and nowhere else. Two paths into an event whose segments are
the same but for the case of ASCII letters find the same, or break off with as many segments left
over, as long as no segment of the first is looked up in content data, in a field or in a JSON
value. Texts that are the same but for the case of ASCII letters begin with the same built-in
placeholder, or with none. But the keys of content data, of fields and of JSON objects lead to what
stands under them when they are met exactly. -/
theorem resolve_ignoring_case :
    (∀ (e : Event) (p q : List Text), List.Forall₂ (fun a b => sameLetters a b = true) p q →
      (∀ n ∈ (record (.event e)).passed p, n.isExact = false) →
      ((record (.event e)).resolve p).1 = ((record (.event e)).resolve q).1 ∧
        ((record (.event e)).resolve p).2.length = ((record (.event e)).resolve q).2.length) ∧
    (∀ s t, sameLetters s t = true → Builtin.find? s = Builtin.find? t) ∧
    (∀ (d : ContentData) segment m, (data d).child? segment = some m ↔
      ∃ f, (segment, some f) ∈ d.entries ∧ m = field f) ∧
    (∀ (f : FieldData) segment m, (field f).child? segment = some m ↔
      ∃ v, (segment, v) ∈ f.entries ∧ v.isNull = false ∧ m = json v) ∧
    ∀ (v : Json.Sorted) members segment m, v.json = .object members →
      ((json v).child? segment = some m ↔
        ∃ w : Json.Sorted, (segment, w.json) ∈ members ∧ w.isNull = false ∧ m = json w) :=
  ⟨fun _ _ _ hpq hn => resolve_congr hpq hn, fun _ _ h => Builtin.find?_congr h,
    fun _ _ _ => child?_data, fun _ _ _ => child?_field, fun _ _ _ _ hv => child?_object hv⟩

/-- The name of a user, a built-in placeholder in front of a letter that has no case here, and a key
of content data that is not met exactly. -/
theorem resolve_ignoring_case_sampleContent :
    ((record (.event .sampleContent)).resolve ["User", "NAME"]).1 = some (.text "é") ∧
    Builtin.find? "app_Nameé" = Builtin.find? "APP_NAMEé" ∧
    ∀ d, (record (.event .sampleContent)).child? "DATA" = some (data d) →
      (data d).child? "Price" = none ∧ (data d).child? "price" ≠ none := by
  obtain ⟨hpaths, htexts, hdata, -⟩ := resolve_ignoring_case
  obtain ⟨hfound, -⟩ := hpaths .sampleContent ["User", "NAME"] ["user", "name"]
    (.cons (by decide) (.cons (by decide) .nil)) (by decide)
  refine ⟨hfound.trans rfl, htexts _ _ (by decide), ?_⟩
  rintro d ⟨⟩
  refine ⟨Option.eq_none_iff_forall_ne_some.2 fun m hm => ?_, by decide⟩
  obtain ⟨f, hf, -⟩ := (hdata _ _ _).1 hm
  have hkeys : ("Price" : Text) ∈ [("gone" : Text), "price"] := List.mem_map_of_mem (f := (·.1)) hf
  exact absurd hkeys (by decide)

end Node
end RuleTemplate
