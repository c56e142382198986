import RuleTemplate.Proofs.Event.Decode
import RuleTemplate.Proofs.Json.Run

/-!
# Events as they are read

The text of an event is read as an event that differs from it at most in the numbers of its data:
each binary64 there is what its decimal is read as (`Event.reread`). The JSON form of that event is
the one that is read from the text (`Event.toJson_reread`).
-/

namespace RuleTemplate

/-! ## Order -/

/-- Reading keeps what is a reordering. -/
lemma Json.Reordered.reread {v w : Json} (h : Reordered v w) : Reordered v.reread w.reread := by
  induction v using Json.induct generalizing w with
  | list items ih =>
    rw [Reordered] at h
    obtain ⟨items', rfl, hitems⟩ := h
    rw [Json.reread, Json.reread, rereadItems_eq_map, rereadItems_eq_map, Reordered]
    refine ⟨_, rfl, reorderedItems_iff.2 ?_⟩
    rw [List.forall₂_map_left_iff, List.forall₂_map_right_iff]
    exact ((List.forall₂_and_left _ _).2 ⟨fun _ hv => hv, reorderedItems_iff.1 hitems⟩).imp
      fun v w hvw => ih v hvw.1 hvw.2
  | object members ih =>
    rw [Reordered] at h
    obtain ⟨members', ns, rfl, hmembers, hperm⟩ := h
    rw [Json.reread, Json.reread, rereadMembers_eq_map, rereadMembers_eq_map, Reordered]
    refine ⟨_, _, rfl, reorderedMembers_iff.2 ?_, hperm.map _⟩
    rw [List.forall₂_map_left_iff, List.forall₂_map_right_iff]
    exact ((List.forall₂_and_left _ _).2 ⟨fun _ hm => hm, reorderedMembers_iff.1 hmembers⟩).imp
      fun m n hmn => ⟨hmn.2.1, ih m hmn.1 hmn.2.2⟩
  | _ =>
    rw [Reordered] at h
    · rw [h]
      exact Reordered.refl _
    all_goals simp

/-! ## Data -/

/-- Reading does not change the names of members, so they stay in order. -/
lemma Json.isSorted_reread {v : Json} (h : v.isSorted = true) : v.reread.isSorted = true := by
  induction v using Json.induct with
  | list items ih =>
    rw [isSorted, isSortedItems_iff] at h
    rw [reread, rereadItems_eq_map, isSorted, isSortedItems_iff, List.forall_mem_map]
    exact fun v hv => ih v hv (h v hv)
  | object members ih =>
    rw [isSorted_iff_object] at h
    rw [reread, rereadMembers_eq_map, isSorted_iff_object, List.forall_mem_map]
    exact ⟨h.1.map_snd reread, fun m hm => ih m hm (h.2 m hm)⟩
  | _ => rfl

/-- What is read from the text of a value that is held. -/
def Json.Sorted.reread (v : Json.Sorted) : Json.Sorted :=
  ⟨v.json.reread, Json.isSorted_reread v.isSorted⟩

/-- What is read from the text of a field. -/
def FieldData.reread (f : FieldData) : FieldData := f.mapValues Json.Sorted.reread

/-- What is read from the text of the data of a content item. -/
def ContentData.reread (d : ContentData) : ContentData := d.mapValues (Option.map FieldData.reread)

lemma FieldData.toJson_reread (f : FieldData) :
    FieldData.toJson f.reread = (FieldData.toJson f).reread := by
  unfold FieldData.toJson FieldData.reread KeyMap.mapValues
  rw [Json.reread, Json.rereadMembers_eq_map, List.map_map, List.map_map]
  rfl

lemma ContentData.toJson_reread (d : ContentData) : d.reread.toJson = d.toJson.reread := by
  rw [ContentData.toJson_eq, ContentData.toJson_eq]
  unfold ContentData.reread KeyMap.mapValues
  rw [Json.reread, Json.rereadMembers_eq_map, List.map_map, List.map_map]
  refine congrArg Json.object (List.map_congr_left fun e _ => ?_)
  obtain ⟨name, value⟩ := e
  cases value with
  | none => rfl
  | some f => exact Prod.ext rfl f.toJson_reread

/-- What is read from the text of a change of a content item. -/
def ContentChange.reread (change : ContentChange) : ContentChange :=
  { change with data := change.data.reread, dataOld := change.dataOld.map ContentData.reread }

/-! ## Values without data -/

lemma Json.reread_ofInt64 (i : Int64) : (Json.ofInt64 i).reread = .ofInt64 i := by
  rw [ofInt64, reread, Number.reread_integer]

lemma NamedId.reread_toJson (n : NamedId) : n.toJson.reread = n.toJson := rfl

lemma Timestamp.reread_toJson (t : Timestamp) : t.toJson.reread = t.toJson := rfl

lemma User.reread_toJson (u : User) : u.toJson.reread = u.toJson := by
  have hclaims : (u.claims.map Claim.toJson).map Json.reread = u.claims.map Claim.toJson := by
    rw [List.map_map]
    rfl
  simp only [toJson, Json.reread, Json.rereadMembers, Json.rereadItems_eq_map, hclaims]

lemma User.reread_ofOption (user : Option User) :
    (Json.ofOption User.toJson user).reread = .ofOption User.toJson user := by
  cases user with
  | none => rfl
  | some u => exact u.reread_toJson

/-! ## Events -/

namespace Event

/-- What is read from the text of a detail. -/
def Detail.reread : Detail → Detail
  | .content change => .content change.reread
  | detail => detail

/-- What is read from the text of an event. -/
def reread (e : Event) : Event := { e with detail := e.detail.reread }

lemma Base.rereadMembers_members (b : Base) : Json.rereadMembers b.members = b.members := by
  simp only [members, Json.rereadMembers, Json.reread_ofInt64, NamedId.reread_toJson,
    Timestamp.reread_toJson, Json.reread]

lemma Detail.members_reread (d : Detail) : d.reread.members = Json.rereadMembers d.members := by
  cases d with
  | content change =>
    obtain ⟨user, schemaId, id, action, data, dataOld, status, created, lastModified, createdBy,
      lastModifiedBy⟩ := change
    cases dataOld <;> simp only [reread, ContentChange.reread, members, Option.map_none,
      Option.map_some, Json.consOption, Json.rereadMembers, User.reread_ofOption,
      NamedId.reread_toJson, Timestamp.reread_toJson, ContentData.toJson_reread, Json.reread]
  | comment comment =>
    obtain ⟨user, text, url, mentionedUser⟩ := comment
    cases url <;> simp only [reread, members, Json.consOption, Json.rereadMembers,
      User.reread_ofOption, User.reread_toJson, Json.reread]
  | _ => simp only [reread, members, Json.rereadMembers, User.reread_ofOption,
      NamedId.reread_toJson, Json.reread_ofInt64, Json.reread]

lemma kind_reread (e : Event) : e.reread.kind = e.kind := by
  obtain ⟨base, detail⟩ := e
  cases detail <;> rfl

/-- The value that is read from the text of an event is the JSON form of an event. -/
theorem toJson_reread (e : Event) : e.reread.toJson = e.toJson.reread := by
  have hbase := e.base.rereadMembers_members
  rw [Json.rereadMembers_eq_map] at hbase
  have hmembers : Json.rereadMembers e.members = e.reread.members := by
    rw [members, members, e.kind_reread, Json.rereadMembers_eq_map, List.map_cons, List.map_append,
      hbase, ← Json.rereadMembers_eq_map, ← Detail.members_reread]
    rfl
  rw [toJson, toJson, Json.reread, hmembers]

/-- An event whose numbers are read as they are is read as it is. -/
lemma reread_eq_self {e : Event} (h : e.toJson.reread = e.toJson) : e.reread = e := by
  have hdecode : decode e.reread.toJson = .ok e.reread := decode_reordered (Json.Reordered.refl _)
  rw [toJson_reread, h, decode_reordered (Json.Reordered.refl _)] at hdecode
  exact (Except.ok.inj hdecode).symm

end Event
end RuleTemplate
