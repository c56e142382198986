import RuleTemplate.Proofs.Node.JsonForm

/-!
# Null and missing

Null can be taken out of content data: the fields that are null, the values of fields that are null,
and at every depth of the values the members that are null (`ContentData.withoutNulls`). Items of
lists stay, as the others would move to other positions. Taking out null and walking commute
(`Json.part?_withoutNulls`), so no path tells the two apart (`Node.resolve_withoutNulls`).
-/

namespace RuleTemplate

/-! ## JSON values -/

namespace Json

mutual

/-- The value without the members that are null, at every depth. -/
def withoutNulls : Json → Json
  | .list items => .list (withoutNullsItems items)
  | .object members => .object (withoutNullsMembers members)
  | v => v

/-- `withoutNulls` for all items, each in its place. -/
def withoutNullsItems : List Json → List Json
  | [] => []
  | v :: items => withoutNulls v :: withoutNullsItems items

/-- `withoutNulls` for the members that are not null; the others are left out. -/
def withoutNullsMembers : List (Text × Json) → List (Text × Json)
  | [] => []
  | (k, v) :: members =>
    if v.isNull then withoutNullsMembers members
    else (k, withoutNulls v) :: withoutNullsMembers members

end

/-- Whether the value is a string, a number or a truth value. -/
def isScalar : Json → Bool
  | .bool _ | .number _ | .string _ => true
  | .null | .list _ | .object _ => false

/-- What becomes of a member of that value, if anything does. -/
def unlessNull (v : Json) : Option Json := if v.isNull then none else some v.withoutNulls

variable {v : Json} {items : List Json} {members : Members}

lemma withoutNullsItems_eq_map (items : List Json) :
    withoutNullsItems items = items.map withoutNulls := by
  induction items with
  | nil => rfl
  | cons v items ih => rw [withoutNullsItems, ih, List.map_cons]

lemma withoutNullsMembers_eq_filterMap (members : Members) : withoutNullsMembers members
    = members.filterMap fun m => (unlessNull m.2).map fun w => (m.1, w) := by
  induction members with
  | nil => rfl
  | cons m members ih =>
    obtain ⟨k, v⟩ := m
    rw [withoutNullsMembers, List.filterMap_cons, ← ih, unlessNull]
    cases v.isNull <;> rfl

@[simp] lemma isNull_withoutNulls (v : Json) : v.withoutNulls.isNull = v.isNull := by
  cases v <;> simp [withoutNulls, isNull]

@[simp] lemma isScalar_withoutNulls (v : Json) : v.withoutNulls.isScalar = v.isScalar := by
  cases v <;> simp [withoutNulls, isScalar]

lemma withoutNulls_eq_self (h : v.isScalar = true) : v.withoutNulls = v := by
  cases v with
  | list items => cases h
  | object members => cases h
  | _ => simp [withoutNulls]

/-- What is left of a sorted value is sorted. -/
lemma isSorted_withoutNulls (h : v.isSorted = true) : v.withoutNulls.isSorted = true := by
  induction v using Json.induct with
  | list items ih =>
    rw [isSorted, isSortedItems_iff] at h
    rw [withoutNulls, withoutNullsItems_eq_map, isSorted, isSortedItems_iff, List.forall_mem_map]
    exact fun v hv => ih v hv (h v hv)
  | object members ih =>
    obtain ⟨hascending, hmembers⟩ := isSorted_iff_object.1 h
    rw [withoutNulls, withoutNullsMembers_eq_filterMap]
    refine isSorted_iff_object.2 ⟨hascending.filterMap_snd _, fun n hn => ?_⟩
    obtain ⟨m, hm, hkept⟩ := List.mem_filterMap.1 hn
    obtain ⟨w, hw, rfl⟩ := Option.map_eq_some_iff.1 hkept
    obtain ⟨-, hw⟩ := Option.ite_none_left_eq_some.1 hw
    rw [← Option.some.inj hw]
    exact ih m hm (hmembers m hm)
  | _ => simp [withoutNulls, isSorted]

/-- The parts of what is left are what is left of the parts. -/
lemma part?_withoutNulls (h : v.isSorted = true) (segment : Text) :
    v.withoutNulls.part? segment = (v.part? segment).map withoutNulls := by
  cases v with
  | list items =>
    rw [part?, part?, ← filter_map_of_isNull isNull_withoutNulls]
    congr 1
    rw [withoutNulls, withoutNullsItems_eq_map, child?, child?]
    cases Text.index? segment with
    | none => rfl
    | some i => exact List.getElem?_map ..
  | object members =>
    have hnodup := (isSorted_iff_object.1 h).1.nodup
    rw [withoutNulls, withoutNullsMembers_eq_filterMap, part?, part?, child?, child?,
      lookup_filterMap_snd unlessNull hnodup]
    cases members.lookup segment with
    | none => rfl
    | some w =>
      rw [Option.bind_some, unlessNull]
      cases hnull : w.isNull with
      | true =>
        rw [if_pos rfl, Option.filter_some_neg (by simp [hnull])]
        rfl
      | false =>
        rw [if_neg Bool.false_ne_true, Option.filter_some_pos (by simp [hnull]),
          Option.filter_some_pos (by simp [hnull])]
        rfl
  | _ => simp [withoutNulls, part?, child?]

/-- What is left of a sorted value. -/
def Sorted.withoutNulls (v : Sorted) : Sorted :=
  ⟨v.json.withoutNulls, isSorted_withoutNulls v.isSorted⟩

end Json

/-! ## Content data -/

/-- The field without the values that are null, and without null members in the others. -/
def FieldData.withoutNulls (f : FieldData) : FieldData :=
  KeyMap.filterMapValues (fun v => if v.isNull then none else some v.withoutNulls) f

/-- The data without the fields that are null, and without null in the others. -/
def ContentData.withoutNulls (d : ContentData) : ContentData :=
  KeyMap.filterMapValues (Option.map fun f => some (FieldData.withoutNulls f)) d

/-- The JSON form of what is left of the entries of a map. -/
lemma KeyMap.withoutNulls_object {α β : Type} {toJson : α → Json} {toJson' : β → Json}
    {g : α → Option β} (m : KeyMap α) (h : ∀ a, (toJson a).unlessNull = (g a).map toJson') :
    (Json.object (m.entries.map fun e => (e.1, toJson e.2))).withoutNulls
      = .object ((m.filterMapValues g).entries.map fun e => (e.1, toJson' e.2)) := by
  rw [Json.withoutNulls, Json.withoutNullsMembers_eq_filterMap, List.filterMap_map, filterMapValues,
    List.map_filterMap]
  congr 2
  funext e
  show ((toJson e.2).unlessNull).map _ = _
  rw [h, Option.map_map, Option.map_map]
  rfl

lemma FieldData.toJson_withoutNulls (f : FieldData) :
    FieldData.toJson f.withoutNulls = (FieldData.toJson f).withoutNulls := by
  refine (KeyMap.withoutNulls_object f fun v => ?_).symm
  rw [Json.unlessNull, Json.Sorted.isNull]
  cases v.json.isNull <;> rfl

lemma ContentData.toJson_withoutNulls (d : ContentData) :
    d.withoutNulls.toJson = d.toJson.withoutNulls := by
  rw [toJson_eq, toJson_eq]
  refine (KeyMap.withoutNulls_object d fun field? => ?_).symm
  cases field? with
  | none => rfl
  | some f => exact congrArg some (FieldData.toJson_withoutNulls f).symm

/-! ## Walks -/

namespace Node

/-- Whether the node is a JSON string, number or truth value. -/
def isScalar : Node → Bool
  | .json v => v.json.isScalar
  | _ => false

/-- Either node is a JSON string, number or truth value only when both are, with the same text. -/
structure SameScalar (m n : Node) : Prop where
  isScalar_eq : m.isScalar = n.isScalar
  text?_eq (h : m.isScalar = true) : m.text? = n.text?

lemma Shows.isScalar_eq {n : Node} {v : Json} (h : n.Shows v) : n.isScalar = v.isScalar := by
  cases h with
  | json v => rfl
  | data d => rfl
  | field f => rfl

/-- No path tells content data from what is left when null is taken out, at every depth: the same
segments are left over, both find something or neither does, and a string, a number or a truth value
that is found in either is found in both. -/
theorem resolve_withoutNulls (d : ContentData) (path : List Text) :
    EndsAlike SameScalar ((Node.data d).resolve path)
      ((Node.data d.withoutNulls).resolve path) := by
  have hthinned := bisimulation_shows Json.isNull_withoutNulls
    fun v hv segment => Json.part?_withoutNulls hv segment
  have hd : (Node.data d.withoutNulls).Shows d.toJson.withoutNulls := by
    rw [← d.toJson_withoutNulls]
    exact .data _
  refine (hthinned.resolve ⟨d.toJson, .data d, hd⟩ path).mono ?_
  rintro m n ⟨v, hm, hn⟩
  refine ⟨?_, fun hscalar => ?_⟩
  · rw [hm.isScalar_eq, hn.isScalar_eq, Json.isScalar_withoutNulls]
  · rw [hm.isScalar_eq] at hscalar
    rw [hm.text?_eq, hn.text?_eq, Json.withoutNulls_eq_self hscalar]

/-- A list in a field, with null before and in the object behind it. -/
theorem resolve_withoutNulls_items : ∃ d : ContentData,
    d.toJson = .object [("gone", .null), ("title", .object [("de", .null),
      ("iv", .list [.null, .object [("a", .null), ("b", .bool false)]])])] ∧
    d.withoutNulls.toJson = .object [("title", .object
      [("iv", .list [.null, .object [("b", .bool false)]])])] ∧
    EndsAlike SameScalar ((Node.data d).resolve ["title", "iv", "1", "b"])
      ((Node.data d.withoutNulls).resolve ["title", "iv", "1", "b"]) ∧
    ((Node.data d.withoutNulls).resolve ["title", "iv", "1", "b"]).1.bind text? = some "false" := by
  let items := Json.toSorted (.list [.null, .object [("a", .null), ("b", .bool false)]])
  let field : FieldData := (KeyMap.empty.insert "de" default).insert "iv" items
  let d : ContentData := (KeyMap.empty.insert "gone" none).insert "title" (some field)
  exact ⟨d, by decide +kernel, by decide +kernel, resolve_withoutNulls d _, by decide +kernel⟩

end Node
end RuleTemplate
