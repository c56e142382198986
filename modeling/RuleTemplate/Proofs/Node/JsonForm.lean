import RuleTemplate.Proofs.Json.Reordering
import RuleTemplate.Proofs.Node.Fields
import RuleTemplate.Proofs.Node.Paths
import RuleTemplate.Proofs.Node.Walk
import RuleTemplate.Template.Render

/-!
# Content data and its JSON form are walked alike

Content data, its fields and JSON values each have their own rule for what a segment leads to. For
the walk it does not matter which of them a value is: what stands for the same JSON value, or for
two values that have parts alike, is walked alike (`Node.bisimulation_shows`). So a path leads to
the same in content data, in its JSON form, and in the event that scripts see
(`Node.resolve_alike_toJson`).
-/

namespace RuleTemplate

/-! ## Sorted values -/

namespace Json

variable {v : Json}

lemma sorted_eq_self (h : v.isSorted = true) : v.sorted = v :=
  sorted_of_reordered h (Reordered.refl v)

@[simp] lemma isNull_sorted (v : Json) : v.sorted.isNull = v.isNull := by
  cases v <;> simp [sorted, isNull]

/-- A change of values that keeps null commutes with leaving out null. -/
lemma filter_map_of_isNull {f : Json → Json} (hnull : ∀ v, (f v).isNull = v.isNull)
    (child : Option Json) : (child.map f).filter (fun w => !w.isNull)
      = (child.filter fun w => !w.isNull).map f := by
  rw [Option.filter_map]
  congr 2
  funext w
  exact congrArg not (hnull w)

/-- Where names come once, sorting changes the parts and nothing else. -/
lemma part?_sorted (h : v.Distinct) (segment : Text) :
    v.sorted.part? segment = (v.part? segment).map sorted := by
  rw [part?, part?, ← filter_map_of_isNull isNull_sorted]
  congr 1
  cases v with
  | list items =>
    rw [sorted, sortedItems_eq_map, child?, child?]
    cases Text.index? segment with
    | none => rfl
    | some i => exact List.getElem?_map ..
  | object members =>
    rw [Distinct] at h
    rw [sorted, child?, child?, lookup_sortedMembers h.1]
  | _ => simp [sorted, child?]

end Json

lemma FieldData.isSorted_toJson (f : FieldData) : (FieldData.toJson f).isSorted = true := by
  refine Json.isSorted_iff_object.2 ⟨f.ascending.map_snd (·.json), fun m hm => ?_⟩
  obtain ⟨e, -, rfl⟩ := List.mem_map.1 hm
  exact e.2.isSorted

lemma ContentData.isSorted_toJson (d : ContentData) : d.toJson.isSorted = true := by
  rw [d.toJson_eq]
  refine Json.isSorted_iff_object.2 ⟨d.ascending.map_snd _, fun m hm => ?_⟩
  obtain ⟨⟨name, field?⟩, -, rfl⟩ := List.mem_map.1 hm
  cases field? with
  | none => rfl
  | some f => exact FieldData.isSorted_toJson f

/-! ## Nodes -/

namespace Node

variable {m n : Node} {v : Json}

lemma Shows.isSorted (h : n.Shows v) : v.isSorted = true := by
  cases h with
  | json v => exact v.isSorted
  | data d => exact d.isSorted_toJson
  | field f => exact FieldData.isSorted_toJson f

lemma shows_sorted (h : v.isSorted = true) : (Node.json v.toSorted).Shows v := by
  have hjson : v.toSorted.json = v := Json.sorted_eq_self h
  have hshows := Shows.json v.toSorted
  rwa [hjson] at hshows

/-- When a change of values keeps null and changes the parts of a value in the same way, what stands
for the value is walked like what stands for the changed one. -/
theorem bisimulation_shows {f : Json → Json} (hnull : ∀ v, (f v).isNull = v.isNull)
    (hpart : ∀ v, v.isSorted = true → ∀ segment, (f v).part? segment = (v.part? segment).map f) :
    Bisimulation fun m n => ∃ v, m.Shows v ∧ n.Shows (f v) where
  isNull_eq := by
    rintro m n ⟨v, hm, hn⟩
    rw [hm.isNull_eq, hn.isNull_eq, hnull]
  child? := by
    rintro m n ⟨v, hm, hn⟩ segment
    have hm' := hm.child? segment
    have hn' := hn.child? segment
    rw [hpart v hm.isSorted] at hn'
    generalize m.child? segment = k? at hm' ⊢
    generalize n.child? segment = l? at hn' ⊢
    generalize v.part? segment = w? at hm' hn'
    cases hm' with
    | none =>
      cases hn'
      exact .none
    | some hk =>
      cases hn' with
      | some hl => exact .some ⟨_, hk, hl⟩

/-- Two nodes have the same text, or neither has one. -/
def SameText (m n : Node) : Prop := m.text? = n.text?

/-- What stands for the same value is walked alike. -/
lemma Shows.endsAlike (hm : m.Shows v) (hn : n.Shows v) (path : List Text) :
    EndsAlike SameText (m.resolve path) (n.resolve path) := by
  have hsame := bisimulation_shows (f := id) (fun _ => rfl) (fun _ _ _ => Option.map_id_apply.symm)
  refine (hsame.resolve ⟨v, hm, hn⟩ path).mono ?_
  rintro k l ⟨w, hk, hl⟩
  exact hk.text?_eq.trans hl.text?_eq.symm

end Node

/-! ## The data of an event -/

namespace Event

variable {e : Event} {change : ContentChange} {name called : Text} {d : ContentData}

lemma detail_eq_of_content? (h : e.content? = some change) : e.detail = .content change := by
  unfold content? at h
  split at h
  · next hdetail =>
    cases h
    exact hdetail
  · cases h

/-- The event has the data as a part of that name, and its JSON form as a member of that name. -/
structure HoldsData (e : Event) (name : Text) (d : ContentData) : Prop where
  field? : (Record.event e).field? name = some (.data d)
  part? : e.toJson.part? name = some d.toJson

lemma holdsData (h : e.content? = some change) : e.HoldsData "data" change.data := by
  obtain ⟨base, detail⟩ := e
  cases detail_eq_of_content? h
  exact ⟨rfl, rfl⟩

lemma holdsData_old (h : e.content? = some change) (hold : change.dataOld = some d) :
    e.HoldsData "dataOld" d := by
  obtain ⟨base, detail⟩ := e
  cases detail_eq_of_content? h
  obtain ⟨user, schemaId, id, action, data, dataOld, status, created, lastModified, createdBy,
    lastModifiedBy⟩ := change
  cases hold
  exact ⟨rfl, rfl⟩

/-- The data in an event are walked like those in the event that scripts see. -/
lemma HoldsData.endsAlike (h : e.HoldsData name d) (hname : Text.sameLetters called name = true)
    (path : List Text) :
    Node.EndsAlike Node.SameText ((Node.record (.event e)).resolve (called :: path))
      ((Node.json e.toJson.toSorted).resolve (name :: path)) := by
  have hrecord : (Node.record (.event e)).child? called = some (.data d) := by
    rw [Node.child?, Record.field?_congr _ hname, h.field?]
  have hpart : e.toJson.toSorted.json.part? name = some d.toJson := by
    rw [Json.toSorted, Json.part?_sorted e.distinct, h.part?, Option.map_some,
      Json.sorted_eq_self d.isSorted_toJson]
  have hrel := (Node.Shows.json e.toJson.toSorted).child? name
  rw [hpart] at hrel
  rw [Node.resolve_cons_of_some hrecord]
  cases hmember : (Node.json e.toJson.toSorted).child? name with
  | none =>
    rw [hmember] at hrel
    cases hrel
  | some n =>
    rw [hmember] at hrel
    cases hrel with
    | some hn =>
      rw [Node.resolve_cons_of_some hmember]
      exact (Node.Shows.data d).endsAlike hn path

end Event

namespace Node

/-- A path leads to the same in content data and in its JSON form: what is left over is the same,
both find something or neither does, and what they find has the same text. So it is with a field and
its JSON form; and what a placeholder finds in the data of an event is what stands at the path in
the event that scripts see. -/
theorem resolve_alike_toJson :
    (∀ (d : ContentData) (path : List Text), EndsAlike SameText ((Node.data d).resolve path)
      ((Node.json d.toJson.toSorted).resolve path)) ∧
    (∀ (f : FieldData) (path : List Text), EndsAlike SameText ((Node.field f).resolve path)
      ((Node.json (FieldData.toJson f).toSorted).resolve path)) ∧
    ∀ (e : Event) (change : ContentChange), e.content? = some change →
      ∃ v, (Formatter.context e).get? Script.eventVariable = some v ∧
        ∀ (name called : Text) (path : List Text),
          name = "data" ∨ name = "dataOld" ∧ change.dataOld.isSome →
          Text.sameLetters called name = true →
          EndsAlike SameText ((Node.record (.event e)).resolve (called :: path))
            ((Node.json v).resolve (name :: path)) := by
  refine ⟨fun d path => (Shows.data d).endsAlike (shows_sorted d.isSorted_toJson) path,
    fun f path => (Shows.field f).endsAlike (shows_sorted (FieldData.isSorted_toJson f)) path, ?_⟩
  intro e change hcontent
  refine ⟨e.toJson.toSorted, KeyMap.get?_insert_self .., ?_⟩
  rintro name called path (rfl | ⟨rfl, hold⟩) hname
  · exact (Event.holdsData hcontent).endsAlike hname path
  · obtain ⟨d, hold⟩ := Option.isSome_iff_exists.1 hold
    exact (Event.holdsData_old hcontent hold).endsAlike hname path

/-- An item of a list, found by a placeholder and by a script. -/
theorem resolve_alike_toJson_sampleContent :
    ∃ v, (Formatter.context .sampleContent).get? Script.eventVariable = some v ∧
      EndsAlike SameText
        ((Node.record (.event .sampleContent)).resolve ["DATA", "price", "iv", "0"])
        ((Node.json v).resolve ["data", "price", "iv", "0"]) ∧
      ((Node.json v).resolve ["data", "price", "iv", "0"]).1.bind text? = some "-1.5" := by
  obtain ⟨-, -, hevent⟩ := resolve_alike_toJson
  obtain ⟨v, hv, hwalk⟩ := hevent .sampleContent _ rfl
  refine ⟨v, hv, hwalk "data" "DATA" ["price", "iv", "0"] (.inl rfl) (by decide), ?_⟩
  cases hv
  decide +kernel

end Node
end RuleTemplate
