import RuleTemplate.Proofs.Decode.Removal
import RuleTemplate.Proofs.Event.Decode
import RuleTemplate.Proofs.Node.Fields

/-!
# Members that events may lack

Some members of an event and of its users may be left out, and stand for a default then
(`Event.default?`); all other members of the event, of its users and their claims, and of the
identities of the app and the schema are required. `Event.decode_without` is the result.

What may be missing is listed for each record, and `Event.presence` puts it together by places. That
the shapes go by it is shown member by member (`Event.Base.heeds`, `Event.Detail.heeds`); that it
speaks of all that stands in the JSON form of an event, but for the content data, is
`Event.covers_member`.
-/

namespace RuleTemplate

open Json (Place Reordered behind withoutMembers)
open Decoder (heeds_silent)
open Presence (OmitsDefaults)
open Shape (heeds_required heeds_optional)

/-! ## What may be missing -/

/-- The members of a user that may be missing, with their defaults. -/
def User.defaults : List (Text × Json) := [("claims", .list [])]

/-- The members of an event that may be missing, with their defaults. -/
def Event.defaults : List (Text × Json) :=
  [("version", .ofInt64 0), ("actor", .string []), ("user", .null), ("data", .object []),
    ("dataOld", .null), ("status", .string []), ("createdBy", .string []),
    ("lastModifiedBy", .string []), ("mimeType", .string []), ("fileSize", .ofInt64 0),
    ("fileVersion", .ofInt64 0), ("assetType", .string "Unknown"), ("url", .null)]

/-- What the member at a place in a user stands for when it is missing. -/
def User.default? : List Place → Option Json
  | [.member name] => defaults.lookup name
  | _ => none

/-- What the member at a place in an event stands for when it is missing. -/
def Event.default? : List Place → Option Json
  | [.member name] => defaults.lookup name
  | .member name :: places =>
    if name = "user" ∨ name = "mentionedUser" then User.default? places else none
  | _ => none

/-- All members of an identity are required. -/
def NamedId.presence : Presence := .record NamedId.shape.names [] fun _ => .silent

/-- All members of a claim are required. -/
def Claim.presence : Presence := .record Claim.shape.names [] fun _ => .silent

/-- A user may lack what has a default; the claims that are there are complete. -/
def User.presence : Presence :=
  .record User.shape.names User.defaults fun name =>
    if name = "claims" then Claim.presence.items else .silent

lemma User.presence_default? (places : List Place) :
    User.presence.default? places = User.default? places := by
  obtain _ | ⟨name | i, _ | ⟨place, places⟩⟩ := places
  · rfl
  · rfl
  · show Presence.default? (if name = "claims" then Claim.presence.items else .silent) _ = none
    split
    · cases place with
      | member _ => rfl
      | item _ => exact Presence.default?_record_nil Claim.shape.names places
    · rfl
  · rfl
  · rfl

namespace Event

/-- What may be missing from the value of a member. -/
def memberPresence (name : Text) : Presence :=
  if name = "appId" ∨ name = "schemaId" then NamedId.presence
  else if name = "user" ∨ name = "mentionedUser" then User.presence
  else .silent

/-- What may be missing from an event of a kind. -/
def presence (k : Kind) : Presence := .record (tag :: k.names) defaults memberPresence

/-- All kinds have the same defaults. -/
lemma presence_default? (k : Kind) (places : List Place) :
    (presence k).default? places = default? places := by
  obtain _ | ⟨name | i, _ | ⟨place, places⟩⟩ := places
  · rfl
  · rfl
  · show (memberPresence name).default? (place :: places)
      = if name = "user" ∨ name = "mentionedUser" then User.default? (place :: places) else none
    unfold memberPresence
    by_cases hidentity : name = "appId" ∨ name = "schemaId"
    · rw [if_pos hidentity, NamedId.presence, Presence.default?_record_nil]
      rcases hidentity with rfl | rfl <;> rfl
    · rw [if_neg hidentity]
      split
      · exact User.presence_default? _
      · rfl
  · rfl
  · rfl

end Event

/-! ## Records go by it -/

lemma NamedId.heeds : NamedId.decode.Heeds NamedId.presence := by
  have hshape : NamedId.shape.Heeds [] fun _ => .silent :=
    ((heeds_required (heeds_silent _)).map NamedId.mk).seq (heeds_required (heeds_silent _))
  exact hshape.decoder _

lemma Claim.heeds : Claim.decode.Heeds Claim.presence := by
  have hshape : Claim.shape.Heeds [] fun _ => .silent :=
    ((heeds_required (heeds_silent _)).map Claim.mk).seq (heeds_required (heeds_silent _))
  exact hshape.decoder _

lemma User.heeds : User.decode.Heeds User.presence := by
  have hclaims : (Decoder.list Claim.decode).Accepts (.list []) [] :=
    @Decoder.accepts_list Claim Claim.decode Claim.toJson [] fun _ hc => nomatch hc
  have hshape : User.shape.Heeds User.defaults fun name =>
      if name = "claims" then Claim.presence.items else .silent :=
    ((heeds_required (heeds_silent _)).map User.mk).seq (heeds_required (heeds_silent _))
      |>.seq (heeds_optional Claim.heeds.list hclaims)
  exact hshape.decoder _

namespace Event

lemma Base.heeds : Base.shape.Heeds defaults memberPresence :=
  ((heeds_required NamedId.heeds).map Base.mk).seq (heeds_required (heeds_silent _))
    |>.seq (heeds_required (heeds_silent _))
    |>.seq (heeds_optional (heeds_silent _) (Decoder.accepts_int64 0))
    |>.seq (heeds_optional (heeds_silent _) (Decoder.accepts_text []))

lemma userShape_heeds : userShape.Heeds defaults memberPresence :=
  heeds_optional User.heeds.nullable (Decoder.accepts_null _)

lemma Detail.heeds (k : Kind) : (Detail.shape k).Heeds defaults memberPresence := by
  cases k with
  | usageExceeded =>
    exact (((heeds_required (heeds_silent _)).map UsageExceeded.mk).seq
      (heeds_required (heeds_silent _))).map Detail.usageExceeded
  | manual => exact userShape_heeds.map Detail.manual
  | schema =>
    exact ((userShape_heeds.map SchemaChange.mk).seq (heeds_required NamedId.heeds)
      |>.seq (heeds_required (heeds_silent _))).map Detail.schema
  | content =>
    exact ((userShape_heeds.map ContentChange.mk).seq (heeds_required NamedId.heeds)
      |>.seq (heeds_required (heeds_silent _)) |>.seq (heeds_required (heeds_silent _))
      |>.seq (heeds_optional (heeds_silent _) (ContentData.accepts .empty))
      |>.seq (heeds_optional (heeds_silent _) (Decoder.accepts_null _))
      |>.seq (heeds_optional (heeds_silent _) (Decoder.accepts_text []))
      |>.seq (heeds_required (heeds_silent _)) |>.seq (heeds_required (heeds_silent _))
      |>.seq (heeds_optional (heeds_silent _) (Decoder.accepts_text []))
      |>.seq (heeds_optional (heeds_silent _) (Decoder.accepts_text []))).map Detail.content
  | asset =>
    exact ((userShape_heeds.map AssetChange.mk).seq (heeds_required (heeds_silent _))
      |>.seq (heeds_required (heeds_silent _)) |>.seq (heeds_required (heeds_silent _))
      |>.seq (heeds_optional (heeds_silent _) (Decoder.accepts_text []))
      |>.seq (heeds_optional (heeds_silent _) (Decoder.accepts_int64 0))
      |>.seq (heeds_optional (heeds_silent _) (Decoder.accepts_int64 0))
      |>.seq (heeds_optional (heeds_silent _) (AssetType.accepts .unknown))).map Detail.asset
  | comment =>
    exact ((userShape_heeds.map Comment.mk).seq (heeds_required (heeds_silent _))
      |>.seq (heeds_optional (heeds_silent _) (Decoder.accepts_null _))
      |>.seq (heeds_required User.heeds)).map Detail.comment

/-! ## Events go by it -/

variable {members : Json.Members} {gone : List Place → Bool} {k : Kind} {e : Event}
  {places : List Place} {name : Text}

/-- The tag stays as it is when it is not gone. -/
lemma filter_tag_without (htag : members.filter (·.1 = tag) = [(tag, .string k.name)])
    (hkept : gone [.member tag] = false) :
    (withoutMembers gone members).filter (·.1 = tag) = [(tag, .string k.name)] := by
  have hfilter := Json.filter_withoutMembers gone members fun name => name = tag
  rw [hfilter, htag, Json.withoutMembers_cons_of_kept hkept]
  rfl

/-- An event is decoded also without members that have their defaults. -/
lemma decode_without_defaults (htag : members.filter (·.1 = tag) = [(tag, .string k.name)])
    (hgone : (presence k).Allows gone (.object members)) (h : decode (.object members) = .ok e) :
    decode ((Json.object members).without gone) = .ok e := by
  have hkept : gone [.member tag] = false := by
    refine Bool.eq_false_iff.2 fun htrue => ?_
    have hmem : (tag, Json.string k.name) ∈ members.filter (·.1 = tag) := by
      rw [htag]
      exact List.mem_cons_self ..
    exact nomatch hgone _ _ htrue (.inside (.member (List.mem_filter.1 hmem).1) (.here _))
  have hsub : ∀ m ∈ members.filter (·.1 ≠ tag), m ∈ members := fun m hm => (List.mem_filter.1 hm).1
  have hothers := Json.filter_withoutMembers gone members fun name => name ≠ tag
  obtain ⟨hdetail, hbase⟩ := (decode_eq_ok_iff htag).1 h
  refine (decode_eq_ok_iff (filter_tag_without htag hkept)).2 ?_
  rw [hothers]
  exact ⟨(Detail.heeds k).ofMembers_without (hgone.omitsDefaults hsub) hdetail,
    Base.heeds.ofMembers_without (hgone.omitsDefaults hsub) hbase⟩

/-- Without its tag, an event is not decoded. -/
lemma decode_without_tag (htag : members.filter (·.1 = tag) = [(tag, .string k.name)]) :
    decode ((Json.object members).without (· = [.member tag])) = .error (.missingField tag) := by
  have hfilter := Json.filter_withoutMembers (· = [.member tag]) members fun name => name = tag
  have hnone : (withoutMembers (· = [.member tag]) members).filter (·.1 = tag) = [] := by
    rw [hfilter, htag, Json.withoutMembers_cons_of_gone (decide_eq_true rfl)]
    rfl
  show ofMembers (withoutMembers (· = [.member tag]) members) = _
  rw [ofMembers, kindOf, hnone]
  rfl

/-- Without a member that the detail or the base requires, an event is not decoded. -/
lemma decode_without_member (htag : members.filter (·.1 = tag) = [(tag, .string k.name)])
    {field : Text} {rest : List Place} {u : Json} (hfield : field ≠ tag)
    (haddress : places ++ [.member name] = .member field :: rest)
    (hrequired : (presence k).Required (places ++ [.member name]))
    (hu : (Json.object members).Contains (places ++ [.member name]) u)
    (h : decode (.object members) = .ok e) :
    decode ((Json.object members).without (· = places ++ [.member name]))
      = .error (.missingField name) := by
  have hkept : decide ([.member tag] = places ++ [.member name]) = false := by
    rw [haddress]
    simpa using fun heq : tag = field => absurd heq.symm hfield
  have hothers := Json.filter_withoutMembers (· = places ++ [.member name]) members
    fun name => name ≠ tag
  have hu' : (Json.object (members.filter (·.1 ≠ tag))).Contains (places ++ [.member name]) u := by
    rw [haddress] at hu ⊢
    obtain ⟨m, hm, hplace, hrest⟩ := Json.contains_object_cons.1 hu
    have hne : m.1 ≠ tag := fun heq => hfield ((Place.member.inj hplace).trans heq)
    exact Json.contains_object_cons.2 ⟨m, List.mem_filter.2 ⟨hm, decide_eq_true hne⟩, hplace, hrest⟩
  have hof : ∀ names, field ∈ names →
      (Presence.record names defaults memberPresence).Required (places ++ [.member name]) := by
    intro names hmem
    rw [presence, haddress] at hrequired
    rw [haddress]
    exact hrequired.of_mem hmem
  obtain ⟨hdetail, hbase⟩ := (decode_eq_ok_iff htag).1 h
  rw [Json.without_object, decode_of_filter_tag (filter_tag_without htag hkept), hothers]
  by_cases hmem : field ∈ (Detail.shape k).names
  · rw [(Detail.heeds k).ofMembers_eq_error (hof _ hmem) hu' hdetail]
    rfl
  · -- the detail does not know the member, so it is the base that misses it
    have hmem' : field ∈ Base.shape.names := by
      rw [presence, haddress] at hrequired
      obtain ⟨_, _, ⟨⟩, hknown⟩ := Presence.exists_field_of_required hrequired
      have hnames := (List.mem_cons.1 hknown).resolve_left hfield
      exact (List.mem_append.1 hnames).resolve_left hmem
    have hsame : OmitsDefaults defaults memberPresence (Detail.shape k).names
        (· = places ++ [.member name]) (members.filter (·.1 ≠ tag)) := by
      rw [haddress]
      exact Presence.omitsDefaults_of_notMem hmem
    rw [(Detail.heeds k).ofMembers_without hsame hdetail, Results.ok_bind,
      Base.heeds.ofMembers_eq_error (hof _ hmem') hu' hbase]
    rfl

/-- No event is decoded without a member that is required. -/
lemma decode_without_required (htag : members.filter (·.1 = tag) = [(tag, .string k.name)])
    {u : Json} (hrequired : (presence k).Required (places ++ [.member name]))
    (hu : (Json.object members).Contains (places ++ [.member name]) u)
    (h : decode (.object members) = .ok e) :
    decode ((Json.object members).without (· = places ++ [.member name]))
      = .error (.missingField name) := by
  obtain ⟨field, rest, haddress, -⟩ := Presence.exists_field_of_required hrequired
  by_cases hfield : field = tag
  · subst hfield
    obtain _ | ⟨place, places⟩ := places
    · obtain ⟨hplace, -⟩ := List.cons.inj haddress
      obtain rfl : name = tag := Place.member.inj hplace
      exact decode_without_tag htag
    · -- nothing is inside the tag
      obtain ⟨rfl, -⟩ := List.cons.inj haddress
      exact (Presence.record_required_append.1 hrequired).2.elim
  · exact decode_without_member htag hfield haddress hrequired hu h

end Event

/-! ## What is in an event -/

lemma NamedId.covers (n : NamedId) : NamedId.presence.Covers n.toJson := by
  have hnames : NamedId.shape.names = ["id", "name"] := rfl
  exact Presence.covers_object (by simp [hnames]) (by simp)

lemma Claim.covers (c : Claim) : Claim.presence.Covers c.toJson := by
  have hnames : Claim.shape.names = ["type", "value"] := rfl
  exact Presence.covers_object (by simp [hnames]) (by simp)

lemma User.covers (u : User) : User.presence.Covers u.toJson := by
  have hnames : User.shape.names = ["id", "email", "claims"] := rfl
  have hclaims : Claim.presence.items.Covers (.list (u.claims.map Claim.toJson)) :=
    Presence.covers_list (List.forall_mem_map.2 fun c _ => c.covers)
  refine Presence.covers_object (by simp [hnames]) (List.forall_mem_cons.2 ⟨?_, ?_⟩)
  · exact Presence.covers_string _ _
  · exact List.forall_mem_cons.2 ⟨Presence.covers_string _ _, List.forall_mem_singleton.2 hclaims⟩

namespace Event

lemma covers_user (user : Option User) :
    User.presence.Covers (Json.ofOption User.toJson user) := by
  cases user with
  | none => exact Presence.covers_null _
  | some u => exact u.covers

/-- Of all in an event but the content data it is said whether it may be missing. -/
lemma covers_member (e : Event) : ∀ m ∈ e.members, m.1 ≠ "data" → m.1 ≠ "dataOld" →
    (memberPresence m.1).Covers m.2 := by
  have happ : memberPresence "appId" = NamedId.presence := rfl
  have hschema : memberPresence "schemaId" = NamedId.presence := rfl
  have huser : memberPresence "user" = User.presence := rfl
  have hmentioned : memberPresence "mentionedUser" = User.presence := rfl
  obtain ⟨base, detail⟩ := e
  simp only [members, Base.members, List.cons_append, List.nil_append, List.forall_mem_cons, happ,
    NamedId.covers, Timestamp.toJson, Json.ofInt64, Presence.covers_string,
    Presence.covers_number, implies_true, true_and]
  -- the members with other values than numbers, texts and null are these four and the data
  rcases detail with _ | _ | _ | ⟨_, _, _, _, _, _ | _, _, _, _, _, _⟩ | _ | ⟨_, _, _ | _, _⟩
  all_goals
    simp only [Detail.members, Json.consOption, List.forall_mem_cons, hschema, huser, hmentioned,
      NamedId.covers, covers_user, User.covers, Timestamp.toJson, Json.ofInt64,
      Presence.covers_string, Presence.covers_number, implies_true, true_and, ne_eq,
      not_true, false_implies, List.not_mem_nil]

/-! ## The result -/

/-- What is left out where it has its default does not matter, and whatever else is left out is
told. Take the JSON form of an event, with the members of its objects in any order. Without any of
the members of the event and of its users that have their defaults in it, it is decoded as the
event. But without one other member, be it of the event itself, of a user, of a claim or of an
identity, decoding fails with the message that this field is missing. What is inside the content
data belongs to none of these. -/
theorem decode_without {e : Event} {w : Json} (h : Reordered e.toJson w) :
    (∀ gone : List Place → Bool,
      (∀ places u, gone places = true → w.Contains places u → default? places = some u) →
      decode (w.without gone) = .ok e) ∧
    ∀ places name u, w.Contains (places ++ [.member name]) u →
      default? (places ++ [.member name]) = none →
      (∀ field ∈ (["data", "dataOld"] : List Text), ¬ [.member field] <+: places) →
      (decode (w.without (· = places ++ [.member name]))).mapError DecodeError.message
        = .error ("missing field \x60" ++ name ++ "\x60") := by
  have hdecode : decode w = .ok e := decode_reordered h
  obtain ⟨ns, rfl, -⟩ := Shape.finds_of_reordered e.nodup_names h
  have htag : ns.filter (·.1 = tag) = [(tag, .string e.kind.name)] := filter_tag_of_reordered h
  constructor
  · intro gone hgone
    refine decode_without_defaults htag (fun places u hplace hu => ?_) hdecode
    rw [presence_default?]
    exact hgone places u hplace hu
  · intro places name u hu hnone hdata
    have hrequired : (presence e.kind).Required (places ++ [.member name]) := by
      obtain ⟨u', hu', -⟩ := h.exists_contains hu
      refine Presence.required_of_contains (fun m hm => ?_) (fun m hm hplaces => ?_) hu' ?_
      · exact List.mem_cons.2 (eq_tag_or_mem_names hm)
      · refine covers_member e m hm (fun heq => ?_) fun heq => ?_
        · exact hdata "data" (by simp) (heq ▸ hplaces)
        · exact hdata "dataOld" (by simp) (heq ▸ hplaces)
      · exact (presence_default? e.kind _).trans hnone
    rw [decode_without_required htag hrequired hu hdecode]
    rfl

/-- A rule that was started by hand, of which the version and the claims need not be said. -/
def sampleTerse : Event where
  base := ⟨⟨.zero, "app"⟩, "Manual", ⟨⟨2023, 5, 6, by decide⟩, 7, 8, 9, 0, by decide⟩, 0, "me"⟩
  detail := .manual (some ⟨"1", "a@b", []⟩)

/-- Left out are the version and the claims together, and then the address of the user. -/
theorem decode_without_sampleTerse :
    decode (.object [("type", .string "manual"),
      ("appId", .object [("id", .string Uuid.zero.text), ("name", .string "app")]),
      ("name", .string "Manual"), ("timestamp", .string "2023-05-06T07:08:09Z"),
      ("actor", .string "me"),
      ("user", .object [("id", .string "1"), ("email", .string "a@b")])]) = .ok sampleTerse ∧
    (decode (.object [("type", .string "manual"),
      ("appId", .object [("id", .string Uuid.zero.text), ("name", .string "app")]),
      ("name", .string "Manual"), ("timestamp", .string "2023-05-06T07:08:09Z"),
      ("version", .ofInt64 0), ("actor", .string "me"),
      ("user", .object [("id", .string "1"), ("claims", .list [])])])).mapError DecodeError.message
        = .error "missing field \x60email\x60" := by
  obtain ⟨hspared, hmissing⟩ := decode_without (Reordered.refl sampleTerse.toJson)
  have hversion : ∀ u, sampleTerse.toJson.Contains [.member "version"] u → u = .ofInt64 0 := by
    intro u hu
    obtain ⟨v, hv, hu⟩ := (Json.contains_member_cons sampleTerse.nodup_names).1 hu
    cases hv
    exact (Json.contains_nil.1 hu).symm
  have hinside : ∀ name u, sampleTerse.toJson.Contains [.member "user", .member name] u ↔
      (Json.object [("id", .string "1"), ("email", .string "a@b"), ("claims", .list [])]).Contains
        [.member name] u := by
    intro name u
    rw [toJson, Json.contains_member_cons sampleTerse.nodup_names]
    constructor
    · rintro ⟨v, hv, hu⟩
      cases hv
      exact hu
    · exact fun hu => ⟨_, rfl, hu⟩
  constructor
  · refine hspared (fun places => decide (places = [.member "version"]
      ∨ places = [.member "user", .member "claims"])) fun places u hgone hu => ?_
    rcases of_decide_eq_true hgone with rfl | rfl
    · rw [hversion u hu]
      rfl
    · obtain ⟨v, hv, hu⟩ := (Json.contains_member_cons (by decide)).1 ((hinside _ u).1 hu)
      cases hv
      rw [← Json.contains_nil.1 hu]
      rfl
  · refine hmissing [.member "user"] "email" (.string "a@b") ((hinside _ _).2 ?_) rfl (by decide)
    exact (Json.contains_member_cons (by decide)).2 ⟨_, rfl, .here _⟩

end Event
end RuleTemplate
