import RuleTemplate.Proofs.Json.Places
import RuleTemplate.Proofs.Node.Paths
import RuleTemplate.Proofs.Node.Walk
import RuleTemplate.Proofs.Text.Decimal

/-!
# Paths to places in JSON values

The names of members and the positions of items on the way to a place in a JSON value are written as
segments of a path: a name as it is, a position in digits, with zeros in front or a plus sign or
neither (`Json.Place.Written`). A path leads to the value at the place that it writes, unless that
is null, and to nothing else (`Node.resolve_json`).
-/

namespace RuleTemplate

/-! ## Positions -/

/-- A position is written in digits, with any zeros in front, behind a plus sign or none. -/
lemma Text.index?_eq_some_iff {t : Text} {i : Nat} : Text.index? t = some i ↔
    i < 0x10000000000000000 ∧ ∃ width, t = padded width i ∨ t = '+' :: padded width i := by
  constructor
  · intro h
    obtain ⟨hnumber, hbound⟩ := Option.filter_eq_some_iff.1 h
    refine ⟨of_decide_eq_true hbound, ?_⟩
    obtain ⟨width, hdigits⟩ := toNat?_eq_some_iff.1 hnumber
    split at hdigits
    · exact ⟨width, .inr (congrArg _ hdigits)⟩
    · exact ⟨width, .inl hdigits⟩
  · rintro ⟨hbound, width, rfl | rfl⟩
    · refine Option.filter_eq_some_iff.2 ⟨?_, decide_eq_true hbound⟩
      split
      · next rest heq =>
        -- a plus sign is no digit
        have hplus : (digit? '+').isSome :=
          isSome_digit?_of_mem_padded (heq ▸ List.mem_cons_self ..)
        cases hplus
      · exact toNat?_padded width i
    · exact Option.filter_eq_some_iff.2 ⟨toNat?_padded width i, decide_eq_true hbound⟩

namespace Json

/-! ## Places -/

namespace Place

/-- A name, or a position in its decimal digits. -/
def segment : Place → Text
  | member name => name
  | item index => Text.ofNat index

/-- A segment of a path that writes the place. -/
inductive Written : Place → Text → Prop
  | member (name : Text) : Written (member name) name
  | item {index : Nat} (h : index < 0x10000000000000000) (width : Nat) :
      Written (item index) (Text.padded width index)
  | signedItem {index : Nat} (h : index < 0x10000000000000000) (width : Nat) :
      Written (item index) ('+' :: Text.padded width index)

lemma written_segment {place : Place} (h : ∀ i, place = item i → i < 0x10000000000000000) :
    place.Written place.segment := by
  cases place with
  | member name => exact .member name
  | item i =>
    have hdigits : Text.padded 0 i = Text.ofNat i := by rw [Text.padded, Nat.zero_sub]; rfl
    have hwritten := Written.item (h i rfl) 0
    rwa [hdigits] at hwritten

end Place

/-- The path writes places behind which the value has the other one inside it. -/
def Addressed (v : Json) (path : List Text) (w : Json) : Prop :=
  ∃ places, v.Contains places w ∧ List.Forall₂ Place.Written places path

/-- The first segment that leads to nothing but null is the one behind `front`. -/
structure BreaksAt (v : Json) (front : List Text) (segment : Text) : Prop where
  goes_on (p : List Text) (hp : p <+: front) (hne : p ≠ []) : ∃ w, w ≠ .null ∧ v.Addressed p w
  ends (w : Json) (h : v.Addressed (front ++ [segment]) w) : w = .null

variable {v u w : Json} {segment : Text} {path : List Text} {places : List Place}

/-- A segment leads to the part at the place that it writes. -/
lemma child?_eq_some_iff (hv : v.isSorted = true) :
    v.child? segment = some w ↔ ∃ place, v.HasPart place w ∧ place.Written segment := by
  constructor
  · intro h
    cases v with
    | object members => exact ⟨_, .member (mem_of_lookup h), .member segment⟩
    | list items =>
      obtain ⟨i, hindex, hitem⟩ := Option.bind_eq_some_iff.1 h
      obtain ⟨hbound, width, rfl | rfl⟩ := Text.index?_eq_some_iff.1 hindex
      · exact ⟨_, .item hitem, .item hbound width⟩
      · exact ⟨_, .item hitem, .signedItem hbound width⟩
    | _ => cases h
  · rintro ⟨place, hpart, hwritten⟩
    cases hpart with
    | member hmem =>
      rw [isSorted, Bool.and_eq_true, decide_eq_true_eq] at hv
      cases hwritten with
      | member => exact lookup_of_nodup hv.1.nodup hmem
    | item hitem =>
      rw [child?]
      cases hwritten with
      | item hbound width =>
        rw [Text.index?_eq_some_iff.2 ⟨hbound, width, .inl rfl⟩]
        exact hitem
      | signedItem hbound width =>
        rw [Text.index?_eq_some_iff.2 ⟨hbound, width, .inr rfl⟩]
        exact hitem

/-! ## Paths -/

lemma addressed_nil_iff : v.Addressed [] w ↔ v = w := by
  constructor
  · rintro ⟨places, hcontains, hwritten⟩
    cases hwritten
    cases hcontains
    rfl
  · rintro rfl
    exact ⟨[], .here v, .nil⟩

lemma addressed_cons_iff (hv : v.isSorted = true) : v.Addressed (segment :: path) w ↔
    ∃ u, v.child? segment = some u ∧ u.Addressed path w := by
  simp only [child?_eq_some_iff hv]
  constructor
  · rintro ⟨places, hcontains, hwritten⟩
    cases hwritten with
    | cons hsegment hpath =>
      cases hcontains with
      | inside hpart hu => exact ⟨_, ⟨_, hpart, hsegment⟩, _, hu, hpath⟩
  · rintro ⟨u, ⟨place, hpart, hsegment⟩, places, hu, hpath⟩
    exact ⟨place :: places, .inside hpart hu, .cons hsegment hpath⟩

/-- Null has nothing inside it. -/
lemma Addressed.eq_null (h : Json.null.Addressed path w) : w = .null := by
  obtain ⟨places, hcontains, -⟩ := h
  cases hcontains with
  | here => rfl
  | inside hpart => cases hpart

/-- On the way to what is not null there is no null. -/
lemma addressed_cons_iff_part? (hv : v.isSorted = true) (hw : w ≠ .null) :
    v.Addressed (segment :: path) w ↔ ∃ u, v.part? segment = some u ∧ u.Addressed path w := by
  simp only [addressed_cons_iff hv, part?_eq_some_iff]
  constructor
  · rintro ⟨u, hchild, hu⟩
    refine ⟨u, ⟨hchild, ?_⟩, hu⟩
    rintro rfl
    exact hw hu.eq_null
  · rintro ⟨u, ⟨hchild, -⟩, hu⟩
    exact ⟨u, hchild, hu⟩

lemma breaksAt_nil (hv : v.isSorted = true) (h : v.part? segment = none) :
    v.BreaksAt [] segment where
  goes_on p hp hne := absurd (List.prefix_nil.1 hp) hne
  ends w hw := by
    by_contra hnull
    obtain ⟨u, hu, -⟩ := (addressed_cons_iff_part? hv hnull).1 hw
    rw [h] at hu
    cases hu

/-- A path that breaks off behind a part breaks off behind the segment that leads to it. -/
lemma BreaksAt.cons {front : List Text} {last : Text} (hv : v.isSorted = true)
    (h : v.part? segment = some u) (hu : u.BreaksAt front last) :
    v.BreaksAt (segment :: front) last where
  goes_on p hp hne := by
    obtain ⟨first, q, rfl⟩ := List.exists_cons_of_ne_nil hne
    obtain ⟨rfl, hq⟩ := List.cons_prefix_cons.1 hp
    by_cases hend : q = []
    · have hnull : u ≠ .null := (part?_eq_some_iff.1 h).2
      rw [hend]
      exact ⟨u, hnull, (addressed_cons_iff_part? hv hnull).2 ⟨u, h, addressed_nil_iff.2 rfl⟩⟩
    · obtain ⟨w, hw, haddressed⟩ := hu.goes_on q hq hend
      exact ⟨w, hw, (addressed_cons_iff_part? hv hw).2 ⟨u, h, haddressed⟩⟩
  ends w hw := by
    by_contra hnull
    obtain ⟨x, hx, haddressed⟩ := (addressed_cons_iff_part? hv hnull).1 hw
    rw [h] at hx
    cases hx
    exact hnull (hu.ends w haddressed)

lemma Sorted.json_inj {v w : Sorted} : v.json = w.json ↔ v = w := by
  obtain ⟨v, hv⟩ := v
  obtain ⟨w, hw⟩ := w
  simp

end Json

namespace Node

variable {v w : Json.Sorted} {segment : Text} {path : List Text}

open Json (Place)

/-! ## Walks -/

/-- A segment leads to the part that it names, as a node, unless that is missing or null. -/
lemma child?_json (v : Json.Sorted) (segment : Text) :
    (v.json.part? segment = none ∧ (Node.json v).child? segment = none) ∨
    ∃ x : Json.Sorted, v.json.part? segment = some x.json ∧
      (Node.json v).child? segment = some (.json x) := by
  rw [← v.json_child?, child?]
  cases v.child? segment with
  | none => exact .inl ⟨rfl, rfl⟩
  | some x => exact .inr ⟨x, rfl, rfl⟩

/-- A path leads to a value exactly when that is not null and stands at a place that the path
writes. -/
lemma resolve_json_eq_some_iff : (Node.json v).resolve path = (some (.json w), []) ↔
    w.json ≠ .null ∧ v.json.Addressed path w.json := by
  induction path generalizing v with
  | nil =>
    rw [Json.addressed_nil_iff, Json.Sorted.json_inj, resolve]
    cases hnull : (Node.json v).isNull with
    | true =>
      have hv : v.json = .null := Json.isNull_iff.1 hnull
      constructor
      · intro h
        cases h
      · rintro ⟨hw, rfl⟩
        exact absurd hv hw
    | false =>
      have hv : v.json ≠ .null := fun h =>
        Bool.false_ne_true (hnull.symm.trans (Json.isNull_iff.2 h))
      constructor
      · rintro ⟨⟩
        exact ⟨hv, rfl⟩
      · rintro ⟨-, rfl⟩
        rfl
  | cons segment path ih =>
    have hcons : w.json ≠ .null → (v.json.Addressed (segment :: path) w.json ↔
        ∃ u, v.json.part? segment = some u ∧ u.Addressed path w.json) :=
      Json.addressed_cons_iff_part? v.isSorted
    rw [and_congr_right_iff.2 hcons]
    rcases child?_json v segment with ⟨hpart, hchild⟩ | ⟨x, hpart, hchild⟩
    · rw [resolve_cons_of_none hchild, hpart]
      constructor
      · intro h
        cases h
      · rintro ⟨-, u, hu, -⟩
        cases hu
    · rw [resolve_cons_of_some hchild, hpart, ih]
      simp only [Option.some.injEq, exists_eq_left']

/-- A path leads to a JSON value, or breaks off at the first segment that leads to nothing but
null. -/
lemma resolve_json_cases (v : Json.Sorted) (hpath : path ≠ []) :
    (∃ w, (Node.json v).resolve path = (some (.json w), [])) ∨
    ∃ front segment behind, path = front ++ segment :: behind ∧
      (Node.json v).resolve path = (none, segment :: behind) ∧ v.json.BreaksAt front segment := by
  induction path generalizing v with
  | nil => exact absurd rfl hpath
  | cons segment path ih =>
    rcases child?_json v segment with ⟨hpart, hchild⟩ | ⟨x, hpart, hchild⟩
    · exact .inr ⟨[], segment, path, rfl, resolve_cons_of_none hchild path,
        Json.breaksAt_nil v.isSorted hpart⟩
    · rw [resolve_cons_of_some hchild]
      by_cases hend : path = []
      · have hx : x.json ≠ .null := (Json.part?_eq_some_iff.1 hpart).2
        rw [hend]
        exact .inl ⟨x, resolve_json_eq_some_iff.2 ⟨hx, Json.addressed_nil_iff.2 rfl⟩⟩
      · rcases ih x hend with hfound | ⟨front, last, behind, rfl, hresolve, hbreaks⟩
        · exact .inl hfound
        · exact .inr ⟨segment :: front, last, behind, rfl, hresolve,
            hbreaks.cons v.isSorted hpart⟩

/-- Paths address what is inside a JSON value. A path leads to a value exactly when that is not null
and stands behind places that the segments write: names as they are, positions below `2 ^ 64` in
decimal digits, with zeros in front or a plus sign or neither. So all that is inside the value and
is not null is found by its names and positions. Any other path breaks off, and what is left over
begins with the first segment that leads to nothing but null. -/
theorem resolve_json (v : Json.Sorted) :
    (∀ path w, (Node.json v).resolve path = (some (.json w), []) ↔
      w.json ≠ .null ∧ v.json.Addressed path w.json) ∧
    (∀ places w, v.json.Contains places w → w ≠ .null →
      (∀ i, .item i ∈ places → i < 0x10000000000000000) →
      ∃ hw, (Node.json v).resolve (places.map Place.segment) = (some (.json ⟨w, hw⟩), [])) ∧
    ∀ path, path ≠ [] → (∀ w, v.json.Addressed path w → w = .null) →
      ∃ front segment behind, path = front ++ segment :: behind ∧
        (Node.json v).resolve path = (none, segment :: behind) ∧
        v.json.BreaksAt front segment := by
  refine ⟨fun path w => resolve_json_eq_some_iff, ?_, ?_⟩
  · intro places w hcontains hw hbounds
    have hwritten : List.Forall₂ Place.Written places (places.map Place.segment) := by
      refine List.forall₂_map_right_iff.2 (List.forall₂_same.2 fun place hplace => ?_)
      exact Place.written_segment fun i hi => hbounds i (hi ▸ hplace)
    exact ⟨hcontains.isSorted v.isSorted,
      resolve_json_eq_some_iff.2 ⟨hw, places, hcontains, hwritten⟩⟩
  · intro path hpath hnull
    rcases resolve_json_cases v hpath with ⟨w, hfound⟩ | hbroken
    · obtain ⟨hw, haddressed⟩ := resolve_json_eq_some_iff.1 hfound
      exact absurd (hnull _ haddressed) hw
    · exact hbroken

/-- Two ways to write the positions of one item, and a path through an item that is null. -/
theorem resolve_json_nested : ∃ v : Json.Sorted,
    v.json = .object [("1", .list [.null, .list [.bool false]])] ∧
    (Node.json v).resolve ["1", "+01", "00"] = (some (.json ⟨.bool false, rfl⟩), []) ∧
    (∃ hw, (Node.json v).resolve ["1", "1", "0"] = (some (.json ⟨.bool false, hw⟩), [])) ∧
    v.json.BreaksAt ["1"] "0" := by
  let v : Json.Sorted := ⟨.object [("1", .list [.null, .list [.bool false]])], by decide⟩
  obtain ⟨hiff, hinside, hbroken⟩ := resolve_json v
  have hcontains : v.json.Contains [.member "1", .item 1, .item 0] (.bool false) :=
    .inside (.member (List.mem_cons_self ..)) (.inside (.item rfl) (.inside (.item rfl) (.here _)))
  refine ⟨v, rfl, (hiff ["1", "+01", "00"] ⟨.bool false, rfl⟩).2 ⟨nofun, _, hcontains, ?_⟩, ?_, ?_⟩
  · exact .cons (.member "1") (.cons (.signedItem (by decide) 2) (.cons (.item (by decide) 2) .nil))
  · exact hinside _ _ hcontains nofun fun i hi => by
      have : i = 1 ∨ i = 0 := by simpa using hi
      omega
  · have hnull : ∀ w, v.json.Addressed ["1", "0", "x"] w → w = .null := by
      rintro w ⟨places, hplaces, hwritten⟩
      by_contra hw
      have hresolve := (hiff ["1", "0", "x"] ⟨w, hplaces.isSorted v.isSorted⟩).2
        ⟨hw, places, hplaces, hwritten⟩
      cases hresolve
    obtain ⟨front, segment, behind, hpath, hresolve, hbreaks⟩ := hbroken ["1", "0", "x"] nofun hnull
    cases hresolve
    have hcut : ([['1']] : List Text) ++ [['0'], ['x']] = front ++ [['0'], ['x']] := hpath
    rw [← List.append_cancel_right hcut] at hbreaks
    exact hbreaks

end Node
end RuleTemplate
