import RuleTemplate.Proofs.Node.Paths

/-!
# What is found has a text

Of all nodes, only null and records without a text of their own, such as events, have none. The
parts of an event are no such records, nor is what lies behind them (`Node.Telling`), and at the end
of a path null is not found; so what a path of at least one segment leads to in an event has a text
(`Node.exists_text?_of_resolve`).
-/

namespace RuleTemplate

namespace Node

/-- A node that has a text unless it is null, and from which paths lead to such nodes only: any but
a record, or a record with a text whose parts are such nodes. -/
inductive Telling : Node → Prop
  | null : Telling .null
  | text (t : Text) : Telling (.text t)
  | json (v : Json.Sorted) : Telling (.json v)
  | data (d : ContentData) : Telling (.data d)
  | field (f : FieldData) : Telling (.field f)
  | user (u : User) : Telling (.user u)
  | record {r : Record Node} {t : Text} (ht : r.text? = some t)
      (hparts : ∀ name n, r.part? name = some n → Telling n) : Telling (.record r)

variable {m n : Node} {segment : Text} {path : List Text}

lemma Telling.exists_text? (h : n.Telling) (hnull : n.isNull = false) : ∃ t, n.text? = some t := by
  cases h with
  | null => cases hnull
  | text t => exact ⟨t, rfl⟩
  | json v =>
    show ∃ t, v.json.text? = some t
    have hjson : v.json.isNull = false := hnull
    cases hv : v.json with
    | null =>
      rw [hv] at hjson
      cases hjson
    | _ => exact ⟨_, rfl⟩
  | data d => exact ⟨d.toJson.print, rfl⟩
  | field f => exact ⟨f.toJson.print, rfl⟩
  | user u => exact ⟨u.id, rfl⟩
  | record ht => exact ⟨_, ht⟩

/-! ## Parts of events -/

lemma telling_ofFields {fields : List (Text × Node)} (h : ∀ f ∈ fields, f.2.Telling)
    {text? : Option Text} {name : Text} (hn : (Record.ofFields fields text?).part? name = some n) :
    n.Telling := by
  obtain ⟨f, hf, rfl⟩ := Option.map_eq_some_iff.1 hn
  exact h f (List.mem_of_find?_eq_some hf)

@[simp] lemma telling_ofNamedId (i : NamedId) : (ofNamedId i).Telling := by
  have hfields : ∀ f ∈ i.fields, f.2.Telling := by simp [NamedId.fields, Telling.text]
  exact .record rfl fun name n hn => telling_ofFields hfields hn

@[simp] lemma telling_ofUser? (u : Option User) : (ofUser? u).Telling := by
  cases u with
  | none => exact .null
  | some u => exact .user u

@[simp] lemma telling_ofText? (t : Option Text) : (ofText? t).Telling := by
  cases t with
  | none => exact .null
  | some t => exact .text t

@[simp] lemma telling_ofData? (d : Option ContentData) : (ofData? d).Telling := by
  cases d with
  | none => exact .null
  | some d => exact .data d

/-- None of the parts of an event is an event or the base of one, which have no text. -/
lemma telling_of_mem_fields (e : Event) : ∀ f ∈ e.fields, f.2.Telling := by
  obtain ⟨base, detail⟩ := e
  have hbase : ∀ f ∈ base.fields, f.2.Telling := by
    simp [Event.Base.fields, ofTimestamp, ofInt64, Telling.text]
  have hdetail : ∀ f ∈ detail.fields, f.2.Telling := by
    cases detail <;>
      simp [Event.Detail.fields, ofTimestamp, ofInt64, Telling.text, Telling.data, Telling.user]
  exact List.forall_mem_append.2 ⟨hdetail, hbase⟩

lemma telling_of_user_field? {u : User} (h : (Record.user u).field? segment = some n) :
    n.Telling := by
  have hfields : ∀ f ∈ u.fields, f.2.Telling := by simp [User.fields, Telling.text]
  exact telling_ofFields hfields h

/-! ## One segment -/

/-- A segment leads from such a node to such a node. -/
lemma Telling.child? (hn : n.Telling) (h : n.child? segment = some m) : m.Telling := by
  cases hn with
  | null | text => cases h
  | json v =>
    obtain ⟨w, -, rfl⟩ := Option.map_eq_some_iff.1 h
    exact .json w
  | data d =>
    obtain ⟨f, -, rfl⟩ := Option.map_eq_some_iff.1 h
    exact .field f
  | field f =>
    obtain ⟨w, -, rfl⟩ := Option.map_eq_some_iff.1 h
    exact .json w
  | user u =>
    have huser : u.child? segment = some m := h
    unfold User.child? at huser
    dsimp only at huser
    split at huser
    · cases huser
      exact .text _
    · exact telling_of_user_field? huser
  | record ht hparts => exact hparts _ m h

/-! ## Paths -/

lemma Telling.resolve (hn : n.Telling) (h : (n.resolve path).1 = some m) : m.Telling := by
  induction path generalizing n with
  | nil =>
    rw [Node.resolve] at h
    split at h
    · cases h
    · cases h
      exact hn
  | cons segment path ih =>
    cases hchild : n.child? segment with
    | none =>
      rw [resolve_cons_of_none hchild] at h
      cases h
    | some k =>
      rw [resolve_cons_of_some hchild] at h
      exact ih (hn.child? hchild) h

/-- What is found in an event behind at least one segment has a text. -/
theorem exists_text?_of_resolve {e : Event} (hpath : path ≠ [])
    (h : ((record (.event e)).resolve path).1 = some m) : ∃ t, m.text? = some t := by
  obtain ⟨-, hnull⟩ := resolve_eq_some h
  obtain ⟨segment, path, rfl⟩ := List.exists_cons_of_ne_nil hpath
  cases hchild : (record (.event e)).child? segment with
  | none =>
    rw [resolve_cons_of_none hchild] at h
    cases h
  | some k =>
    rw [resolve_cons_of_some hchild] at h
    have hk : k.Telling := telling_ofFields (telling_of_mem_fields e) hchild
    exact (hk.resolve h).exists_text? hnull

end Node
end RuleTemplate
