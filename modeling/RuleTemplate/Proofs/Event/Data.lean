import RuleTemplate.Node.Resolve
import RuleTemplate.Proofs.Event.Decode
import RuleTemplate.Proofs.Text.Order

/-!
# Building content data

Content data is built step by step: values are written into a field, and fields, or null, into the
data. Whatever the steps, only the last one for each key counts, in the field as in the data
(`FieldData.Keeps`, `ContentData.Keeps`). So two ways of building that end in the same writes make
data that cannot be told apart, by its JSON form or on any path.
-/

namespace RuleTemplate

/-- The values that are written into a field, by partition, from the first to the last. -/
abbrev FieldHistory := List (Text × Json.Sorted)

/-- What is written into content data, by name, from the first to the last: fields, which have
histories of their own, and null. -/
abbrev ContentHistory := List (Text × Option FieldHistory)

/-- The field that is built from nothing by writing values. -/
def FieldData.build (writes : FieldHistory) : FieldData :=
  writes.foldl (fun f w => FieldData.withValue f w.1 w.2) .empty

/-- The data that is built from nothing by writing fields and null. -/
def ContentData.build (writes : ContentHistory) : ContentData :=
  writes.foldl (fun d w => match w.2 with
    | some field => ContentData.withField d w.1 (.build field)
    | none => ContentData.withNull d w.1) .empty

/-- The last write to each partition is the same. -/
def FieldHistory.Agrees (a b : FieldHistory) : Prop :=
  ∀ k v, LastWrite a k v ↔ LastWrite b k v

/-- Each name that is written to in `a` is written to in `b`: the last writes are null in both, or
fields in both whose histories agree. -/
def ContentHistory.Follows (a b : ContentHistory) : Prop :=
  ∀ k w, LastWrite a k w → ∃ w', LastWrite b k w' ∧ Option.Rel FieldHistory.Agrees w w'

/-- The last write to each name is the same. -/
structure ContentHistory.Agrees (a b : ContentHistory) : Prop where
  left : a.Follows b
  right : b.Follows a

/-- The members of an object are the given ones, in the order of the bytes of their names. -/
def Json.Lists (v : Json) (member : Text → Json → Prop) : Prop :=
  ∃ members, v = .object members ∧ members.Pairwise (fun m n => m.1.bytes < n.1.bytes) ∧
    ∀ k w, (k, w) ∈ members ↔ member k w

/-- A field has what was written last, and nothing else. -/
structure FieldData.Keeps (f : FieldData) (writes : FieldHistory) : Prop where
  get?_eq_some_iff : ∀ k v, f.get? k = some v ↔ LastWrite writes k v
  get?_eq_none_iff : ∀ k, f.get? k = none ↔ ∀ w ∈ writes, w.1 ≠ k
  size_eq : f.size = (writes.map (·.1)).toFinset.card
  isEmpty_iff : f.isEmpty = true ↔ writes = []
  toJson_lists : (FieldData.toJson f).Lists fun k v => ∃ w, LastWrite writes k w ∧ w.json = v

/-- Content data has what was written last, and nothing else. A name to which null was written last
has no field, but it counts as a key and comes with null in the JSON form. -/
structure ContentData.Keeps (d : ContentData) (writes : ContentHistory) : Prop where
  field?_eq_some_iff : ∀ k f, ContentData.field? d k = some f ↔
    ∃ field, LastWrite writes k (some field) ∧ FieldData.build field = f
  field?_eq_none_iff : ∀ k, ContentData.field? d k = none ↔
    LastWrite writes k none ∨ ∀ w ∈ writes, w.1 ≠ k
  size_eq : d.size = (writes.map (·.1)).toFinset.card
  isEmpty_iff : d.isEmpty = true ↔ writes = []
  toJson_lists : (ContentData.toJson d).Lists fun k v => LastWrite writes k none ∧ v = .null ∨
    ∃ field, LastWrite writes k (some field) ∧ v = FieldData.toJson (FieldData.build field)

/-! ## JSON forms -/

/-- The JSON form of a map lists what stands under each key, in the order of bytes. -/
lemma KeyMap.lists {α : Type} (m : KeyMap α) (g : α → Json) :
    (Json.object (m.entries.map fun e => (e.1, g e.2))).Lists
      fun k v => ∃ w, m.get? k = some w ∧ g w = v := by
  refine ⟨_, rfl, ?_, fun k v => ?_⟩
  · rw [List.pairwise_map]
    exact m.ascending.imp fun h => Text.before_iff_bytes_lt.1 h
  · rw [List.mem_map]
    constructor
    · rintro ⟨⟨l, w⟩, hmem, heq⟩
      cases heq
      exact ⟨w, KeyMap.mem_entries_iff.1 hmem, rfl⟩
    · rintro ⟨w, hget, rfl⟩
      exact ⟨(k, w), KeyMap.mem_entries_iff.2 hget, rfl⟩

/-- Objects are described by what they list. -/
lemma Json.Lists.congr {v : Json} {p q : Text → Json → Prop} (h : v.Lists p)
    (hpq : ∀ k w, p k w ↔ q k w) : v.Lists q := by
  obtain ⟨members, hv, hsorted, hmem⟩ := h
  exact ⟨members, hv, hsorted, fun k w => (hmem k w).trans (hpq k w)⟩

/-! ## Fields -/

namespace FieldData

variable {a b writes : FieldHistory}

lemma keeps_build (writes : FieldHistory) : (build writes).Keeps writes where
  get?_eq_some_iff _ _ := KeyMap.get?_ofList_eq_some_iff
  get?_eq_none_iff _ := KeyMap.get?_ofList_eq_none_iff
  size_eq := KeyMap.size_ofList writes
  isEmpty_iff := KeyMap.isEmpty_ofList
  toJson_lists := by
    refine (KeyMap.lists (build writes) Json.Sorted.json).congr fun k v => ?_
    exact exists_congr fun w => and_congr_left' KeyMap.get?_ofList_eq_some_iff

/-- Fields are equal when the last writes to each partition are. -/
lemma build_eq_iff : build a = build b ↔ a.Agrees b := KeyMap.ofList_eq_iff

end FieldData

/-! ## Content data -/

namespace ContentData

variable {a b writes : ContentHistory} {k : Text}

lemma build_eq_ofList (writes : ContentHistory) :
    build writes = .ofList (writes.map fun w => (w.1, w.2.map FieldData.build)) := by
  rw [build, KeyMap.ofList, List.foldl_map]
  congr 1
  funext d w
  obtain ⟨name, _ | field⟩ := w <;> rfl

lemma get?_build_eq_some_iff {v : Option FieldData} : (build writes).get? k = some v ↔
    ∃ w, LastWrite writes k w ∧ w.map FieldData.build = v := by
  rw [build_eq_ofList, KeyMap.get?_ofList_eq_some_iff, lastWrite_map_snd]

lemma get?_build_eq_none_iff : (build writes).get? k = none ↔ ∀ w ∈ writes, w.1 ≠ k := by
  rw [build_eq_ofList, KeyMap.get?_ofList_eq_none_iff, List.forall_mem_map]

/-- Null stands where it was written last. -/
lemma get?_build_eq_null_iff : (build writes).get? k = some none ↔ LastWrite writes k none := by
  rw [get?_build_eq_some_iff, Option.exists]
  simp

/-- A field stands where it was written last. -/
lemma get?_build_eq_field_iff {f : FieldData} : (build writes).get? k = some (some f) ↔
    ∃ field, LastWrite writes k (some field) ∧ FieldData.build field = f := by
  rw [get?_build_eq_some_iff, Option.exists]
  simp

lemma keeps_build (writes : ContentHistory) : (build writes).Keeps writes where
  field?_eq_some_iff k f := by
    rw [field?, Option.join_eq_some_iff, get?_build_eq_field_iff]
  field?_eq_none_iff k := by
    rw [field?, Option.join_eq_none_iff, get?_build_eq_none_iff, get?_build_eq_null_iff, or_comm]
  size_eq := by
    rw [build_eq_ofList, KeyMap.size_ofList, List.map_map]
    rfl
  isEmpty_iff := by
    rw [build_eq_ofList, KeyMap.isEmpty_ofList, List.map_eq_nil_iff]
  toJson_lists := by
    rw [toJson_eq]
    refine (KeyMap.lists (build writes) (Json.ofOption FieldData.toJson)).congr fun k v => ?_
    rw [Option.exists, get?_build_eq_null_iff]
    refine or_congr (and_congr_right' eq_comm) ?_
    simp only [get?_build_eq_field_iff]
    constructor
    · rintro ⟨f, ⟨field, hlast, rfl⟩, rfl⟩
      exact ⟨field, hlast, rfl⟩
    · rintro ⟨field, hlast, rfl⟩
      exact ⟨_, ⟨field, hlast, rfl⟩, rfl⟩

/-- What is found in the first data is found in the second as well. -/
lemma follows_iff : a.Follows b ↔
    ∀ k v, (build a).get? k = some v → (build b).get? k = some v := by
  have hrel : ∀ w w' : Option FieldHistory, Option.Rel FieldHistory.Agrees w w' ↔
      w.map FieldData.build = w'.map FieldData.build := by
    intro w w'
    cases w <;> cases w' <;> simp [FieldData.build_eq_iff]
  constructor
  · intro h k v hv
    obtain ⟨w, hw, rfl⟩ := get?_build_eq_some_iff.1 hv
    obtain ⟨w', hw', hagrees⟩ := h k w hw
    exact get?_build_eq_some_iff.2 ⟨w', hw', ((hrel w w').1 hagrees).symm⟩
  · intro h k w hw
    obtain ⟨w', hw', hsame⟩ :=
      get?_build_eq_some_iff.1 (h k _ (get?_build_eq_some_iff.2 ⟨w, hw, rfl⟩))
    exact ⟨w', hw', (hrel w w').2 hsame.symm⟩

/-- Data is equal when the last writes to each name are. -/
lemma build_eq_iff : build a = build b ↔ a.Agrees b := by
  constructor
  · intro h
    exact ⟨follows_iff.2 fun k v hv => h ▸ hv, follows_iff.2 fun k v hv => h ▸ hv⟩
  · rintro ⟨hab, hba⟩
    exact KeyMap.eq_of_get?_eq fun k =>
      Option.ext fun v => ⟨follows_iff.1 hab k v, follows_iff.1 hba k v⟩

/-- Whatever is written and in whatever order, a field and content data keep what was written last
under each key: it can be looked up, it counts, and it comes in the JSON form in the order of bytes.
So they are equal exactly when the last writes to each key are, and then they have the same text and
the same stands at the end of each path. -/
theorem keeps_last_writes :
    (∀ writes : FieldHistory, (FieldData.build writes).Keeps writes) ∧
    (∀ a b : FieldHistory, FieldData.build a = FieldData.build b ↔ a.Agrees b) ∧
    (∀ writes : ContentHistory, (build writes).Keeps writes) ∧
    ∀ a b : ContentHistory, (build a = build b ↔ a.Agrees b) ∧
      (a.Agrees b → (build a).toJson.print = (build b).toJson.print ∧
        ∀ path, (Node.data (build a)).resolve path = (Node.data (build b)).resolve path) := by
  refine ⟨FieldData.keeps_build, fun a b => FieldData.build_eq_iff, keeps_build, fun a b => ?_⟩
  refine ⟨build_eq_iff, fun h => ?_⟩
  rw [build_eq_iff.2 h]
  exact ⟨rfl, fun _ => rfl⟩

/-- A name to which null was written before a field, and one to which it was written after. Within
the field, null was written before a text. -/
def sampleWrites : ContentHistory :=
  [("title", none), ("é", some [("iv", default)]), ("é", none),
    ("title", some [("iv", default), ("de", default), ("iv", Json.toSorted (.string "x"))])]

/-- The same without what does not count, in another order. -/
def sampleLastWrites : ContentHistory :=
  [("title", some [("iv", Json.toSorted (.string "x")), ("de", default)]), ("é", none)]

theorem keeps_last_writes_sampleWrites :
    (build sampleWrites).size = 2 ∧ field? (build sampleWrites) "é" = none ∧
    (build sampleWrites).toJson.print = (build sampleLastWrites).toJson.print := by
  obtain ⟨-, -, hkeeps, hagrees⟩ := keeps_last_writes
  have hnull : LastWrite sampleWrites "é" none :=
    ⟨sampleWrites.take 2, sampleWrites.drop 3, rfl, by decide⟩
  have hsame : build sampleWrites = build sampleLastWrites := by decide +kernel
  obtain ⟨hiff, htext⟩ := hagrees sampleWrites sampleLastWrites
  refine ⟨?_, ((hkeeps sampleWrites).field?_eq_none_iff "é").2 (.inl hnull), ?_⟩
  · rw [(hkeeps sampleWrites).size_eq]
    decide
  · exact (htext (hiff.1 hsame)).1

end ContentData
end RuleTemplate
