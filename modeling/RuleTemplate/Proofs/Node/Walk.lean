import RuleTemplate.Node.Resolve
import RuleTemplate.Proofs.Event.Decode

/-!
# Walking data and walking its JSON form

A path can be followed through a JSON value alone, by the names of members and the positions of
items (`Json.follow`). Content data, its fields and the values in them are walked by rules of their
own; what is found at the end has the text of what stands there in the JSON form
(`Node.Shows.text?_resolve`). One step keeps `Node.Shows`, that a node stands for a JSON value
(`Node.Shows.child?`).
-/

namespace RuleTemplate

/-! ## JSON values -/

namespace Json

/-- The part of a value to which a segment leads: the member of that name, or the item at that
position. -/
def child? : Json → Text → Option Json
  | .object members, segment => members.lookup segment
  | .list items, segment => (Text.index? segment).bind (items[·]?)
  | _, _ => none

/-- What stands at the end of a path. -/
def follow (v : Json) : List Text → Option Json
  | [] => some v
  | segment :: path => (v.child? segment).bind fun w => w.follow path

/-- The part of a value to which a segment leads, unless it is null. -/
def part? (v : Json) (segment : Text) : Option Json := (v.child? segment).filter fun w => !w.isNull

lemma part?_eq_some_iff {v w : Json} {segment : Text} :
    v.part? segment = some w ↔ v.child? segment = some w ∧ w ≠ .null := by
  rw [part?, Option.filter_eq_some_iff, Bool.not_eq_true', ← Bool.not_eq_true, isNull_iff]

/-- From null no path leads to a text. -/
lemma follow_null (path : List Text) : (Json.null.follow path).bind Json.text? = none := by
  cases path <;> rfl

/-- A part that is null can be left out on the way to a text. -/
lemma text?_follow_cons (v : Json) (segment : Text) (path : List Text) :
    (v.follow (segment :: path)).bind Json.text?
      = (v.part? segment).bind fun w => (w.follow path).bind Json.text? := by
  rw [follow, part?]
  cases v.child? segment with
  | none => rfl
  | some w =>
    by_cases hnull : w.isNull = true
    · rw [Option.filter_some_neg (by simp [hnull]), isNull_iff.1 hnull]
      exact follow_null path
    · rw [Option.filter_some_pos (by simp [hnull])]
      rfl

/-- A sorted value has the parts of the value. -/
lemma Sorted.json_child? (v : Sorted) (segment : Text) :
    (v.child? segment).map (·.json) = v.json.part? segment := by
  have hfilter : ∀ child : Option Sorted, (child.filter fun w => !w.isNull).map (·.json)
      = (child.map (·.json)).filter fun w => !w.isNull := fun child => by
    rw [Option.filter_map]
    rfl
  unfold Sorted.child? part? Json.child?
  cases hv : v.json with
  | object members => rw [hfilter, json_member? hv]
  | list items =>
    rw [hfilter]
    congr 1
    show ((Text.index? segment).bind v.item?).map (·.json) = (Text.index? segment).bind (items[·]?)
    cases Text.index? segment with
    | none => rfl
    | some i => exact json_item? hv i
  | _ => rfl

end Json

/-! ## Nodes -/

namespace Node

/-- The node stands for a JSON value: itself, or the JSON form of content data or of a field. -/
inductive Shows : Node → Json → Prop
  | json (v : Json.Sorted) : Shows (.json v) v.json
  | data (d : ContentData) : Shows (.data d) d.toJson
  | field (f : FieldData) : Shows (.field f) (FieldData.toJson f)

namespace Shows

variable {n : Node} {v : Json}

/-- It has the text of the value. -/
lemma text?_eq (h : n.Shows v) : n.text? = v.text? := by
  cases h with
  | json v => rfl
  | data d => rfl
  | field f => rfl

/-- It is null when the value is. -/
lemma isNull_eq (h : n.Shows v) : n.isNull = v.isNull := by
  cases h with
  | json v => rfl
  | data d => rfl
  | field f => rfl

/-- At the end of a path, null is left out, which has no text. -/
lemma text?_resolve_nil (h : n.Shows v) : (n.resolve []).1.bind Node.text? = v.text? := by
  rw [resolve]
  cases hnull : n.isNull with
  | false => exact h.text?_eq
  | true =>
    rw [h.isNull_eq] at hnull
    rw [Json.isNull_iff.1 hnull]
    rfl

/-- A segment leads to what stands for the part of the value, unless that is missing or null. -/
lemma child? (h : n.Shows v) (segment : Text) :
    Option.Rel Shows (n.child? segment) (v.part? segment) := by
  have hvalue : ∀ child : Option Json.Sorted,
      Option.Rel Shows (child.map .json) (child.map (·.json)) := by
    intro child
    cases child with
    | none => exact .none
    | some w => exact .some (.json w)
  cases h with
  | json v =>
    rw [← v.json_child?]
    exact hvalue _
  | data d =>
    have hjson : d.toJson.child? segment
        = (d.get? segment).map (Json.ofOption FieldData.toJson) := by
      rw [ContentData.toJson_eq]
      exact lookup_map_snd _ d.entries segment
    rw [Node.child?, ContentData.field?, Json.part?, hjson]
    cases d.get? segment with
    | none => exact .none
    | some field? =>
      cases field? with
      | none => exact .none
      | some f => exact .some (.field f)
  | field f =>
    have hjson : (FieldData.toJson f).child? segment = (f.get? segment).map (·.json) :=
      lookup_map_snd _ f.entries segment
    rw [Node.child?, Json.part?, hjson, Option.filter_map]
    exact hvalue _

/-- What is found at the end of a path has the text of what stands there in the JSON form. -/
theorem text?_resolve (h : n.Shows v) (path : List Text) :
    (n.resolve path).1.bind Node.text? = (v.follow path).bind Json.text? := by
  induction path generalizing n v with
  | nil => exact h.text?_resolve_nil
  | cons segment path ih =>
    have hchild := h.child? segment
    rw [resolve, Json.text?_follow_cons]
    generalize n.child? segment = m? at hchild ⊢
    generalize v.part? segment = w? at hchild ⊢
    cases hchild with
    | some hshows => exact ih hshows
    | none => rfl

end Shows
end Node
end RuleTemplate
