import RuleTemplate.Event.Decode
import RuleTemplate.Proofs.Decode.Records

/-!
# Events are decoded from their JSON form

The records of an event are decoded from what they are written as, from the inside to the outside.
Two facts carry the event itself: its names are distinct, although the members of the base and those
of the detail are put into one object (`Event.nodup_names`), and none of them but the first is the
tag (`Event.tag_notMem_names`). `Event.decode_reordered` is the result.
-/

namespace RuleTemplate

open Json (Reordered)
open Shape (makes_required makes_optional makes_nullable)

/-! ## Records without a tag -/

lemma NamedId.accepts (n : NamedId) : NamedId.decode.Accepts n.toJson n := by
  have hmakes : NamedId.shape.Makes [("id", .string n.id.text), ("name", .string n.name)] n :=
    ((makes_required rfl (Decoder.accepts_uuid n.id)).map NamedId.mk).seq
      (makes_required rfl (Decoder.accepts_text n.name))
  exact hmakes.accepts (by simp)

lemma Claim.accepts (c : Claim) : Claim.decode.Accepts c.toJson c := by
  have hmakes : Claim.shape.Makes [("type", .string c.kind), ("value", .string c.value)] c :=
    ((makes_required rfl (Decoder.accepts_text c.kind)).map Claim.mk).seq
      (makes_required rfl (Decoder.accepts_text c.value))
  exact hmakes.accepts (by simp)

lemma User.accepts (u : User) : User.decode.Accepts u.toJson u := by
  have hclaims : (Decoder.list Claim.decode).Accepts (.list (u.claims.map Claim.toJson)) u.claims :=
    Decoder.accepts_list fun c _ => c.accepts
  have hmakes : User.shape.Makes [("id", .string u.id), ("email", .string u.email),
      ("claims", .list (u.claims.map Claim.toJson))] u :=
    (((makes_required rfl (Decoder.accepts_text u.id)).map User.mk).seq
      (makes_required rfl (Decoder.accepts_text u.email))).seq (makes_optional rfl hclaims)
  exact hmakes.accepts (by simp)

lemma FieldData.accepts (f : FieldData) : FieldData.decode.Accepts (FieldData.toJson f) f :=
  Decoder.accepts_map fun e _ => Decoder.accepts_any e.2

lemma ContentData.toJson_eq (d : ContentData) :
    d.toJson = .object (d.entries.map fun e => (e.1, Json.ofOption FieldData.toJson e.2)) := by
  refine congrArg Json.object (List.map_congr_left fun e _ => ?_)
  cases e.2 <;> rfl

lemma ContentData.accepts (d : ContentData) : ContentData.decode.Accepts d.toJson d := by
  have hentry : ∀ e ∈ d.entries, (Decoder.nullable FieldData.decode).Accepts
      (Json.ofOption FieldData.toJson e.2) e.2 :=
    fun e _ => Decoder.accepts_ofOption e.2 (fun _ => rfl) fun f _ => FieldData.accepts f
  rw [d.toJson_eq]
  exact Decoder.accepts_map hentry

/-! ## Names that come once -/

@[simp] lemma Json.distinct_string (t : Text) : (Json.string t).Distinct := by simp [Json.Distinct]

@[simp] lemma Json.distinct_ofInt64 (i : Int64) : (Json.ofInt64 i).Distinct := by
  simp [Json.ofInt64, Json.Distinct]

@[simp] lemma Timestamp.distinct (t : Timestamp) : t.toJson.Distinct := by simp [Timestamp.toJson]

@[simp] lemma NamedId.distinct (n : NamedId) : n.toJson.Distinct := by
  simp [NamedId.toJson, Json.Distinct, Json.DistinctMembers]

@[simp] lemma User.distinct (u : User) : u.toJson.Distinct := by
  have hclaim : ∀ c : Claim, c.toJson.Distinct := fun c => by
    simp [Claim.toJson, Json.Distinct, Json.DistinctMembers]
  simp [User.toJson, Json.Distinct, Json.DistinctMembers, Json.distinctItems_iff, hclaim]

@[simp] lemma Json.distinct_ofOption {α : Type} {toJson : α → Json} {value : Option α}
    (h : ∀ a, (toJson a).Distinct) : (Json.ofOption toJson value).Distinct := by
  cases value with
  | none => simp [Json.ofOption, Json.Distinct]
  | some a => exact h a

/-- The keys of a map come once. -/
lemma Json.distinct_entries {α : Type} {toJson : α → Json} (m : KeyMap α)
    (h : ∀ a, (toJson a).Distinct) :
    (Json.object (m.entries.map fun e => (e.1, toJson e.2))).Distinct := by
  rw [Json.Distinct, Json.distinctMembers_iff, List.map_map]
  refine ⟨m.ascending.nodup, fun n hn => ?_⟩
  obtain ⟨e, -, rfl⟩ := List.mem_map.1 hn
  exact h e.2

@[simp] lemma ContentData.distinct (d : ContentData) : d.toJson.Distinct := by
  have hfield : ∀ f : FieldData, (FieldData.toJson f).Distinct := fun f =>
    Json.distinct_entries f fun v => Json.distinct_of_isSorted v.isSorted
  rw [ContentData.toJson_eq]
  exact Json.distinct_entries d fun f => Json.distinct_ofOption hfield

/-! ## Choices -/

lemma SchemaAction.accepts (a : SchemaAction) :
    (Decoder.choice SchemaAction.all SchemaAction.name).Accepts (.string a.name) a :=
  Decoder.accepts_choice (by cases a <;> rfl)

lemma ContentAction.accepts (a : ContentAction) :
    (Decoder.choice ContentAction.all ContentAction.name).Accepts (.string a.name) a :=
  Decoder.accepts_choice (by cases a <;> rfl)

lemma AssetAction.accepts (a : AssetAction) :
    (Decoder.choice AssetAction.all AssetAction.name).Accepts (.string a.name) a :=
  Decoder.accepts_choice (by cases a <;> rfl)

lemma AssetType.accepts (t : AssetType) :
    (Decoder.choice AssetType.all AssetType.name).Accepts (.string t.name) t :=
  Decoder.accepts_choice (by cases t <;> rfl)

lemma Event.Kind.decode_name (k : Kind) : Kind.decode (.string k.name) = .ok k := by
  cases k <;> rfl

namespace Event

variable {members : Json.Members}

/-! ## Base and detail -/

/-- The base is made of the members of the whole event. -/
lemma Base.makes (e : Event) : Base.shape.Makes e.members e.base :=
  ((((makes_required rfl e.base.appId.accepts).map Base.mk).seq
    (makes_required rfl (Decoder.accepts_text e.base.name))).seq
    (makes_required rfl (Decoder.accepts_timestamp e.base.timestamp))).seq
    (makes_optional rfl (Decoder.accepts_int64 e.base.version)) |>.seq
    (makes_optional rfl (Decoder.accepts_text e.base.actor))

/-- The user who acted, if any. -/
lemma userShape_makes {user : Option User}
    (h : members.lookup ("user" : Text) = some (Json.ofOption User.toJson user)) :
    userShape.Makes members user :=
  makes_optional h (Decoder.accepts_ofOption user (fun _ => rfl) fun u _ => u.accepts)

/-- A change of a content item is made of its members, with the old data or without. -/
lemma Detail.makes_content (base : Base) (change : ContentChange) :
    (Detail.shape .content).Makes (Event.mk base (.content change)).members (.content change) := by
  obtain ⟨user, schemaId, id, action, data, dataOld, status, created, lastModified, createdBy,
    lastModifiedBy⟩ := change
  -- in the order of declaration; what is behind the old data is found whether they are there or not
  exact (((userShape_makes rfl).map ContentChange.mk).seq (makes_required rfl schemaId.accepts)
    |>.seq (makes_required rfl (Decoder.accepts_uuid id))
    |>.seq (makes_required rfl action.accepts)
    |>.seq (makes_optional rfl data.accepts)
    |>.seq (makes_nullable (f := ContentData.toJson) (by cases dataOld <;> rfl) (fun _ => rfl)
      fun d _ => d.accepts)
    |>.seq (makes_optional (by cases dataOld <;> rfl) (Decoder.accepts_text status))
    |>.seq (makes_required (by cases dataOld <;> rfl) (Decoder.accepts_timestamp created))
    |>.seq (makes_required (by cases dataOld <;> rfl) (Decoder.accepts_timestamp lastModified))
    |>.seq (makes_optional (by cases dataOld <;> rfl) (Decoder.accepts_text createdBy))
    |>.seq (makes_optional (by cases dataOld <;> rfl) (Decoder.accepts_text lastModifiedBy))).map
      Detail.content

/-- A comment is made of its members, with a link or without. -/
lemma Detail.makes_comment (base : Base) (c : Comment) :
    (Detail.shape .comment).Makes (Event.mk base (.comment c)).members (.comment c) := by
  obtain ⟨user, text, url, mentionedUser⟩ := c
  exact (((userShape_makes rfl).map Comment.mk).seq (makes_required rfl (Decoder.accepts_text text))
    |>.seq (makes_nullable (f := Json.string) (by cases url <;> rfl) (fun _ => rfl)
      fun t _ => Decoder.accepts_text t)
    |>.seq (makes_required (by cases url <;> rfl) mentionedUser.accepts)).map Detail.comment

/-- The detail is made of the members of the whole event. -/
lemma Detail.makes (e : Event) : (Detail.shape e.kind).Makes e.members e.detail := by
  obtain ⟨base, detail⟩ := e
  cases detail with
  | usageExceeded usage =>
    exact (((makes_required rfl (Decoder.accepts_int64 usage.callsCurrent)).map
      UsageExceeded.mk).seq
      (makes_required rfl (Decoder.accepts_int64 usage.callsLimit))).map Detail.usageExceeded
  | manual user => exact (userShape_makes rfl).map Detail.manual
  | schema change =>
    exact ((((userShape_makes rfl).map SchemaChange.mk).seq
      (makes_required rfl change.schemaId.accepts)).seq
      (makes_required rfl change.action.accepts)).map Detail.schema
  | content change => exact Detail.makes_content base change
  | asset change =>
    exact ((((userShape_makes rfl).map AssetChange.mk).seq
      (makes_required rfl (Decoder.accepts_uuid change.id)))
      |>.seq (makes_required rfl change.action.accepts)
      |>.seq (makes_required rfl (Decoder.accepts_text change.fileName))
      |>.seq (makes_optional rfl (Decoder.accepts_text change.mimeType))
      |>.seq (makes_optional rfl (Decoder.accepts_int64 change.fileSize))
      |>.seq (makes_optional rfl (Decoder.accepts_int64 change.fileVersion))
      |>.seq (makes_optional rfl change.assetType.accepts)).map Detail.asset
  | comment comment => exact Detail.makes_comment base comment

/-! ## Names -/

/-- No name comes twice, as the base and the detail have none in common. -/
lemma nodup_names (e : Event) : (e.members.map (·.1)).Nodup := by
  obtain ⟨base, detail⟩ := e
  cases detail with
  | content change =>
    obtain ⟨_, _, _, _, _, dataOld, _, _, _, _, _⟩ := change
    cases dataOld <;> simp [members, Base.members, Detail.members, Json.consOption]
  | comment comment =>
    obtain ⟨_, _, url, _⟩ := comment
    cases url <;> simp [members, Base.members, Detail.members, Json.consOption]
  | _ => simp [members, Base.members, Detail.members]

/-- The tag is no member of the base. -/
lemma Base.tag_notMem_names : tag ∉ Base.shape.names := by decide

/-- The tag is no member of a detail. -/
lemma Detail.tag_notMem_names (k : Kind) : tag ∉ (Detail.shape k).names := by
  cases k <;> decide

/-- No object in the JSON form of an event names a member twice. -/
lemma distinct (e : Event) : e.toJson.Distinct := by
  rw [toJson, Json.Distinct, Json.distinctMembers_iff]
  refine ⟨e.nodup_names, ?_⟩
  obtain ⟨base, detail⟩ := e
  cases detail with
  | content change =>
    obtain ⟨user, _, _, _, data, dataOld, _, _, _, _, _⟩ := change
    cases dataOld <;> simp [members, Base.members, Detail.members, Json.consOption, Json.Distinct]
  | comment comment =>
    obtain ⟨_, _, url, _⟩ := comment
    cases url <;> simp [members, Base.members, Detail.members, Json.consOption, Json.Distinct]
  | _ => simp [members, Base.members, Detail.members]

/-! ## Events -/

/-- The tag comes once, wherever it stands. -/
lemma filter_tag_of_reordered {e : Event} {ns : Json.Members}
    (h : Reordered e.toJson (.object ns)) :
    ns.filter (·.1 = tag) = [(tag, .string e.kind.name)] := by
  obtain ⟨_, heq, hnodup, hfinds⟩ := Shape.finds_of_reordered e.nodup_names h
  cases heq
  obtain ⟨v, hv, hreordered⟩ := (hfinds [tag]).exists_lookup (List.mem_singleton.2 rfl)
    (show e.members.lookup tag = some (.string e.kind.name) from rfl)
  rw [hreordered.eq_string] at hv
  exact filter_eq_singleton hnodup (mem_of_lookup hv)

variable {k : Kind} {e : Event}

lemma kindOf_of_filter (h : members.filter (·.1 = tag) = [(tag, .string k.name)]) :
    kindOf members = .ok k := by
  simp only [kindOf, h, Kind.decode_name]

/-- When the tag comes once, the detail and the base are made of the other members. -/
lemma decode_of_filter_tag (htag : members.filter (·.1 = tag) = [(tag, .string k.name)]) :
    decode (.object members) = do
      let detail ← (Detail.shape k).ofMembers .event (members.filter (·.1 ≠ tag))
      let base ← Base.shape.ofMembers .event (members.filter (·.1 ≠ tag))
      return ⟨base, detail⟩ := by
  show ofMembers members = _
  rw [ofMembers, kindOf_of_filter htag, Results.ok_bind]

lemma decode_eq_ok_iff (htag : members.filter (·.1 = tag) = [(tag, .string k.name)]) :
    decode (.object members) = .ok e ↔
      (Detail.shape k).ofMembers .event (members.filter (·.1 ≠ tag)) = .ok e.detail ∧
      Base.shape.ofMembers .event (members.filter (·.1 ≠ tag)) = .ok e.base := by
  rw [decode_of_filter_tag htag]
  constructor
  · intro h
    obtain ⟨detail, hdetail, h⟩ := Results.bind_eq_ok h
    obtain ⟨base, hbase, h⟩ := Results.bind_eq_ok h
    cases h
    exact ⟨hdetail, hbase⟩
  · rintro ⟨hdetail, hbase⟩
    rw [hdetail, hbase]
    rfl

/-- An event is decoded from each reordering of its JSON form. -/
theorem decode_reordered {w : Json} (h : Reordered e.toJson w) : decode w = .ok e := by
  obtain ⟨ns, rfl, hnodup, hfinds⟩ := Shape.finds_of_reordered e.nodup_names h
  have hcount : ∀ name, ((ns.filter (·.1 ≠ tag)).map (·.1)).count name ≤ 1 := by
    intro name
    have hsub : (ns.filter (·.1 ≠ tag)).Sublist ns := List.filter_sublist
    exact List.nodup_iff_count_le_one.1 (hnodup.sublist (hsub.map _)) name
  -- the shapes do not know the tag, so they miss nothing when it is taken out
  have hothers : ∀ names, tag ∉ names → Shape.Finds names e.members (ns.filter (·.1 ≠ tag)) := by
    intro names hnames name hname
    have hne : name ≠ tag := fun heq => hnames (heq ▸ hname)
    rw [lookup_filter_ne hne]
    exact hfinds names name hname
  have hdetail : (Detail.shape e.kind).ofMembers .event (ns.filter (·.1 ≠ tag)) = .ok e.detail :=
    Shape.ofMembers_eq_ok (Detail.makes e) (hothers _ (Detail.tag_notMem_names e.kind))
      fun name _ => hcount name
  have hbase : Base.shape.ofMembers .event (ns.filter (·.1 ≠ tag)) = .ok e.base :=
    Shape.ofMembers_eq_ok (Base.makes e) (hothers _ Base.tag_notMem_names) fun name _ => hcount name
  exact (decode_eq_ok_iff (filter_tag_of_reordered h)).2 ⟨hdetail, hbase⟩

end Event
end RuleTemplate
