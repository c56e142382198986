import RuleTemplate.Event.Decode
import RuleTemplate.Node.Fields
import RuleTemplate.Proofs.Calendar.Parts
import RuleTemplate.Proofs.Event.RoundTrip

/-!
# Parts and members of the same name

An event can be looked into by the names of its parts, in any case of the letters, and it is written
as an object whose members have declared names. `Event.Agrees` says, for each kind of member, what
its part is; `Event.field?_agrees` says that there is such a part for every declared member and no
other, but for the action that can also be named `type`.
-/

namespace RuleTemplate

/-- The case of the letters of a name does not matter. -/
lemma Record.field?_congr {α : Type} (r : Record α) {a b : Text}
    (h : Text.sameLetters a b = true) : r.field? a = r.field? b :=
  congrArg r.part? (eq_of_beq h)

/-- A part of listed ones is the first whose name is the same but for the case of letters. -/
lemma Record.field?_ofFields (fields : List (Text × Node)) (text? : Option Text) (name : Text) :
    (Record.ofFields fields text?).field? name
      = (fields.find? fun f => Text.sameLetters f.1 name).map (·.2) := rfl

namespace Event

/-- The names that are declared for the members of an event of a kind, the tag left out. -/
def Kind.names (k : Kind) : List Text := (Detail.shape k).names ++ Base.shape.names

/-- The members that hold moments. -/
def momentNames : List Text := ["timestamp", "created", "lastModified"]

/-- How the node of a part tells what the member of that name holds, if the member is there. -/
inductive Agrees : (name : Text) → (member : Option Json) → Node → Prop
  | leftOut {name : Text} (hname : name = "dataOld" ∨ name = "url") : Agrees name none .null
  | null {name : Text} : Agrees name (some .null) .null
  | text {name t : Text} {n : Node} (hname : name ∉ momentNames) (hn : n.text? = some t) :
      Agrees name (some (.string t)) n
  | moment {name t : Text} {n : Node} (hname : name ∈ momentNames)
      (hn : n.text? = some t.withoutFraction) : Agrees name (some (.string t)) n
  | integer {name : Text} {i : Int} {hi : -0x8000000000000000 ≤ i ∧ i < 0x10000000000000000}
      {n : Node} (hn : n.text? = some (Text.ofInt i)) :
      Agrees name (some (.number (.integer i hi))) n
  | data {name : Text} {members : Json.Members} {n : Node}
      (hname : name = "data" ∨ name = "dataOld")
      (hn : n.text? = some (Json.object members).print) : Agrees name (some (.object members)) n
  | identity {name id called : Text} {members : Json.Members} {n : Node}
      (hname : name = "appId" ∨ name = "schemaId")
      (hid : members.lookup ("id" : Text) = some (.string id))
      (hcalled : members.lookup ("name" : Text) = some (.string called))
      (hn : n.text? = some (id ++ ',' :: called)) : Agrees name (some (.object members)) n
  | user {name id : Text} {members : Json.Members} {n : Node}
      (hname : name = "user" ∨ name = "mentionedUser")
      (hid : members.lookup ("id" : Text) = some (.string id)) (hn : n.text? = some id) :
      Agrees name (some (.object members)) n

/-- There is a part of that name, and it agrees with the member. -/
def Tells (e : Event) (name : Text) : Prop :=
  ∃ n, (Record.event e).field? name = some n ∧ Agrees name (e.members.lookup name) n

/-! ## Members by what they hold -/

variable {e : Event} {name : Text}

lemma tells_text {t : Text} (hfield : (Record.event e).field? name = some (.text t))
    (hmember : e.members.lookup name = some (.string t)) (hname : name ∉ momentNames) :
    e.Tells name := by
  refine ⟨_, hfield, ?_⟩
  rw [hmember]
  exact .text hname rfl

lemma tells_moment {t : Timestamp} (hfield : (Record.event e).field? name = some (.ofTimestamp t))
    (hmember : e.members.lookup name = some t.toJson) (hname : name ∈ momentNames) :
    e.Tells name := by
  refine ⟨_, hfield, ?_⟩
  rw [hmember]
  apply Agrees.moment hname
  rw [t.withoutFraction_text]
  rfl

lemma tells_integer {i : Int64} (hfield : (Record.event e).field? name = some (.ofInt64 i))
    (hmember : e.members.lookup name = some (.ofInt64 i)) : e.Tells name := by
  refine ⟨_, hfield, ?_⟩
  rw [hmember]
  exact .integer rfl

lemma tells_identity {n : NamedId} (hfield : (Record.event e).field? name = some (.ofNamedId n))
    (hmember : e.members.lookup name = some n.toJson) (hname : name = "appId" ∨ name = "schemaId") :
    e.Tells name := by
  refine ⟨_, hfield, ?_⟩
  rw [hmember]
  exact .identity hname rfl rfl rfl

lemma tells_user {u : Option User} (hfield : (Record.event e).field? name = some (.ofUser? u))
    (hmember : e.members.lookup name = some (.ofOption User.toJson u))
    (hname : name = "user" ∨ name = "mentionedUser") : e.Tells name := by
  refine ⟨_, hfield, ?_⟩
  rw [hmember]
  cases u with
  | none => exact .null
  | some u => exact .user hname rfl rfl

lemma tells_data {d : ContentData} (hfield : (Record.event e).field? name = some (.data d))
    (hmember : e.members.lookup name = some d.toJson) (hname : name = "data" ∨ name = "dataOld") :
    e.Tells name := by
  refine ⟨_, hfield, ?_⟩
  rw [hmember]
  exact .data hname rfl

/-! ## All declared members -/

/-- The base has a part for each of its members. -/
lemma Base.map_fst_fields (b : Base) : b.fields.map (·.1) = Base.shape.names := rfl

/-- A detail has a part for each of its members, and at most one more that is named as the tag. -/
lemma Detail.filter_map_fst_fields (e : Event) :
    (e.detail.fields.map (·.1)).filter (· ≠ tag) = (Detail.shape e.kind).names := by
  obtain ⟨base, detail⟩ := e
  cases detail <;> rfl

lemma Detail.eq_type_or_mem_names {f : Text × Node} (hf : f ∈ e.detail.fields) :
    f.1 = tag ∨ f.1 ∈ (Detail.shape e.kind).names := by
  rw [← Detail.filter_map_fst_fields, List.mem_filter]
  by_cases htag : f.1 = tag
  · exact .inl htag
  · exact .inr ⟨List.mem_map_of_mem hf, decide_eq_true htag⟩

/-- No name of the base can be taken for one of a detail. -/
lemma Kind.sameLetters_eq_false (k : Kind) : ∀ name ∈ Base.shape.names,
    Text.sameLetters tag name = false ∧
      ∀ other ∈ (Detail.shape k).names, Text.sameLetters other name = false := by
  cases k <;> decide

/-- The parts of the base are found, whatever the detail is. -/
lemma field?_base (hname : name ∈ Base.shape.names) :
    (Record.event e).field? name = (Record.base e.base).field? name := by
  obtain ⟨htag, hothers⟩ := e.kind.sameLetters_eq_false name hname
  have hdetail : e.detail.fields.find? (fun f => Text.sameLetters f.1 name) = none := by
    rw [List.find?_eq_none]
    intro f hf
    rcases Detail.eq_type_or_mem_names hf with heq | hmem
    · rw [heq, htag]
      exact Bool.false_ne_true
    · rw [hothers f.1 hmem]
      exact Bool.false_ne_true
  rw [Record.event, Record.field?_ofFields, fields, List.find?_append, hdetail, Option.none_or]
  rfl

lemma tells_base (e : Event) : ∀ name ∈ Base.shape.names, e.Tells name := by
  have hfield : ∀ name ∈ (["appId", "name", "timestamp", "version", "actor"] : List Text),
      (Record.event e).field? name = (Record.base e.base).field? name :=
    fun name hname => field?_base hname
  show ∀ name ∈ (["appId", "name", "timestamp", "version", "actor"] : List Text), _
  simp only [List.forall_mem_cons] at hfield ⊢
  obtain ⟨happ, hname, htimestamp, hversion, hactor, -⟩ := hfield
  exact ⟨tells_identity happ rfl (.inl rfl), tells_text hname rfl (by decide),
    tells_moment htimestamp rfl (by decide), tells_integer hversion rfl,
    tells_text hactor rfl (by decide), List.forall_mem_nil _⟩

lemma tells_content (base : Base) (change : ContentChange) :
    ∀ name ∈ (Detail.shape .content).names, (Event.mk base (.content change)).Tells name := by
  obtain ⟨user, schemaId, id, action, data, dataOld, status, created, lastModified, createdBy,
    lastModifiedBy⟩ := change
  have hold : (Event.mk base (.content ⟨user, schemaId, id, action, data, dataOld, status, created,
      lastModified, createdBy, lastModifiedBy⟩)).Tells "dataOld" := by
    cases dataOld with
    | none => exact ⟨.null, rfl, .leftOut (.inl rfl)⟩
    | some d => exact tells_data rfl rfl (.inr rfl)
  show ∀ name ∈ (["user", "schemaId", "id", "action", "data", "dataOld", "status", "created",
    "lastModified", "createdBy", "lastModifiedBy"] : List Text), _
  simp only [List.forall_mem_cons]
  -- what stands behind the old data is found whether they are there or not
  exact ⟨tells_user rfl rfl (.inl rfl), tells_identity rfl rfl (.inr rfl),
    tells_text rfl rfl (by decide), tells_text rfl rfl (by decide), tells_data rfl rfl (.inl rfl),
    hold, tells_text rfl (by cases dataOld <;> rfl) (by decide),
    tells_moment rfl (by cases dataOld <;> rfl) (by decide),
    tells_moment rfl (by cases dataOld <;> rfl) (by decide),
    tells_text rfl (by cases dataOld <;> rfl) (by decide),
    tells_text rfl (by cases dataOld <;> rfl) (by decide), List.forall_mem_nil _⟩

lemma tells_comment (base : Base) (comment : Comment) :
    ∀ name ∈ (Detail.shape .comment).names, (Event.mk base (.comment comment)).Tells name := by
  obtain ⟨user, text, url, mentionedUser⟩ := comment
  have hurl : (Event.mk base (.comment ⟨user, text, url, mentionedUser⟩)).Tells "url" := by
    cases url with
    | none => exact ⟨.null, rfl, .leftOut (.inr rfl)⟩
    | some t => exact tells_text rfl rfl (by decide)
  show ∀ name ∈ (["user", "text", "url", "mentionedUser"] : List Text), _
  simp only [List.forall_mem_cons]
  exact ⟨tells_user rfl rfl (.inl rfl), tells_text rfl rfl (by decide), hurl,
    tells_user (u := some mentionedUser) rfl (by cases url <;> rfl) (.inr rfl),
    List.forall_mem_nil _⟩

/-- The detail comes first, so its parts are found whatever the base is. -/
lemma tells_detail (e : Event) : ∀ name ∈ (Detail.shape e.kind).names, e.Tells name := by
  obtain ⟨base, detail⟩ := e
  cases detail with
  | usageExceeded usage =>
    show ∀ name ∈ (["callsCurrent", "callsLimit"] : List Text), _
    simp only [List.forall_mem_cons]
    exact ⟨tells_integer rfl rfl, tells_integer rfl rfl, List.forall_mem_nil _⟩
  | manual user =>
    show ∀ name ∈ (["user"] : List Text), _
    simp only [List.forall_mem_cons]
    exact ⟨tells_user rfl rfl (.inl rfl), List.forall_mem_nil _⟩
  | schema change =>
    show ∀ name ∈ (["user", "schemaId", "action"] : List Text), _
    simp only [List.forall_mem_cons]
    exact ⟨tells_user rfl rfl (.inl rfl), tells_identity rfl rfl (.inr rfl),
      tells_text rfl rfl (by decide), List.forall_mem_nil _⟩
  | content change => exact tells_content base change
  | asset change =>
    show ∀ name ∈ (["user", "id", "action", "fileName", "mimeType", "fileSize", "fileVersion",
      "assetType"] : List Text), _
    simp only [List.forall_mem_cons]
    exact ⟨tells_user rfl rfl (.inl rfl), tells_text rfl rfl (by decide),
      tells_text rfl rfl (by decide), tells_text rfl rfl (by decide),
      tells_text rfl rfl (by decide), tells_integer rfl rfl, tells_integer rfl rfl,
      tells_text rfl rfl (by decide), List.forall_mem_nil _⟩
  | comment comment => exact tells_comment base comment

lemma tells_of_mem_names (hname : name ∈ e.kind.names) : e.Tells name := by
  rcases List.mem_append.1 hname with hdetail | hbase
  · exact e.tells_detail name hdetail
  · exact e.tells_base name hbase

/-! ## All other names -/

/-- A name that is none of the declared ones leads to no part, unless it stands for the action. -/
lemma field?_of_forall (hothers : ∀ declared ∈ e.kind.names,
    Text.sameLetters declared name = false) : (Record.event e).field? name
      = if Text.sameLetters tag name then e.action?.map .text else none := by
  split
  · next htag =>
    rw [← Record.field?_congr _ htag]
    obtain ⟨base, detail⟩ := e
    cases detail <;> rfl
  · next htag =>
    have hnone : e.fields.find? (fun f => Text.sameLetters f.1 name) = none := by
      rw [List.find?_eq_none]
      intro f hf
      rcases List.mem_append.1 hf with hdetail | hbase
      · rcases Detail.eq_type_or_mem_names hdetail with heq | hmem
        · rwa [heq]
        · rw [hothers f.1 (List.mem_append_left _ hmem)]
          exact Bool.false_ne_true
      · have hmem : f.1 ∈ Base.shape.names := by
          rw [← Base.map_fst_fields e.base]
          exact List.mem_map_of_mem hbase
        rw [hothers f.1 (List.mem_append_right _ hmem)]
        exact Bool.false_ne_true
    rw [Record.event, Record.field?_ofFields, hnone]
    rfl

/-- A member that may be left out adds its name or none. -/
lemma map_fst_consOption_sublist {α : Type} (toJson : α → Json) (value : Option α)
    (members : Json.Members) : ((Json.consOption name toJson value members).map (·.1)).Sublist
      (name :: members.map (·.1)) := by
  cases value with
  | none => exact List.sublist_cons_self ..
  | some a => exact List.Sublist.refl _

/-- A detail is written with its declared members, some of which may be left out. -/
lemma Detail.sublist_names (e : Event) :
    (e.detail.members.map (·.1)).Sublist (Detail.shape e.kind).names := by
  obtain ⟨base, detail⟩ := e
  cases detail with
  | content change =>
    exact (map_fst_consOption_sublist ..).append_left
      (["user", "schemaId", "id", "action", "data"] : List Text)
  | comment comment =>
    exact (map_fst_consOption_sublist ..).append_left (["user", "text"] : List Text)
  | _ => exact List.Sublist.refl _

/-- The members of an event have declared names, but for the tag. -/
lemma eq_tag_or_mem_names {m : Text × Json} (hm : m ∈ e.members) :
    m.1 = tag ∨ m.1 ∈ e.kind.names := by
  rcases List.mem_cons.1 hm with rfl | hm
  · exact .inl rfl
  refine .inr ?_
  rcases List.mem_append.1 hm with hbase | hdetail
  · exact List.mem_append_right _ (List.mem_map_of_mem (f := (·.1)) hbase)
  · exact List.mem_append_left _
      ((Detail.sublist_names e).subset (List.mem_map_of_mem (f := (·.1)) hdetail))

/-- The parts of an event and the members of its JSON form tell the same. A name that is that of a
declared member, but for the case of its letters, leads to a part that agrees with the member. Any
other name leads to no part, save that `type` leads to the action where there is one. And the
members are no others than the declared ones and the tag. -/
theorem field?_agrees (e : Event) (name : Text) :
    (∀ declared ∈ e.kind.names, Text.sameLetters declared name = true →
      ∃ n, (Record.event e).field? name = some n ∧ Agrees declared (e.members.lookup declared) n) ∧
    ((∀ declared ∈ e.kind.names, Text.sameLetters declared name = false) →
      (Record.event e).field? name
        = if Text.sameLetters tag name then e.action?.map .text else none) ∧
    ∀ m ∈ e.members, m.1 = tag ∨ m.1 ∈ e.kind.names := by
  refine ⟨?_, field?_of_forall, fun m hm => eq_tag_or_mem_names hm⟩
  intro declared hdeclared hsame
  rw [← Record.field?_congr _ hsame]
  exact tells_of_mem_names hdeclared

/-- A moment with a fraction, old data that are not there, the action by its other name, and a name
of no part. -/
theorem field?_agrees_sampleContent :
    (∃ n, (Record.event sampleContent).field? "LASTMODIFIED" = some n ∧ Agrees "lastModified"
      (some (.string "+12024-01-01T00:00:00.000500Z")) n) ∧
    (∃ n, (Record.event sampleContent).field? "dataold" = some n ∧ Agrees "dataOld" none n) ∧
    (Record.event sampleContent).field? "Type" = some (.text "Created") ∧
    (Record.event sampleContent).field? "url" = none := by
  have hmoment := (field?_agrees sampleContent "LASTMODIFIED").1 "lastModified" (by decide)
    (by decide)
  have hold := (field?_agrees sampleContent "dataold").1 "dataOld" (by decide) (by decide)
  have haction := (field?_agrees sampleContent "Type").2.1 (by decide)
  have hurl := (field?_agrees sampleContent "url").2.1 (by decide)
  exact ⟨hmoment, hold, haction, hurl⟩

end Event
end RuleTemplate
