import RuleTemplate.Proofs.Decode.Widening
import RuleTemplate.Proofs.Event.RoundTrip
import RuleTemplate.Proofs.Node.Fields

/-!
# Members that events do not declare

An event is read from its text also when the members of its objects stand in another order and when
there are members that are not declared: in the event itself, where also a name that only other
kinds declare is not, in users and their claims, and in the identities of the app and the schema
(`Event.Widened`). `Event.read_widened` is the result.

Decoding ignores such members, of whatever kind and number (`Event.decode_widened`); reading ignores
them since it complains about nothing but the tag before the event is complete.
-/

namespace RuleTemplate

open Json (nestingLimit NullOr ListOf Stable Reordered WidenedMembers)
open Decoder (ignores_eq)
open Shape (ignores_required ignores_optional)

/-- An identity with members that are not declared. -/
def NamedId.Widened : Json → Json → Prop := Json.Widened NamedId.shape.names fun _ => Eq

/-- A claim with members that are not declared. -/
def Claim.Widened : Json → Json → Prop := Json.Widened Claim.shape.names fun _ => Eq

/-- What may change in the member of a user. -/
def User.MemberWidened (name : Text) : Json → Json → Prop :=
  if name = "claims" then ListOf Claim.Widened else Eq

/-- A user with members that are not declared, in the claims as well. -/
def User.Widened : Json → Json → Prop := Json.Widened User.shape.names User.MemberWidened

/-- What may change in the member of an event. -/
def Event.MemberWidened (name : Text) : Json → Json → Prop :=
  if name = "appId" ∨ name = "schemaId" then NamedId.Widened
  else if name = "user" ∨ name = "mentionedUser" then NullOr User.Widened
  else Eq

/-- An event of a kind with members that are not declared, at all depths. -/
def Event.Widened (k : Event.Kind) : Json → Json → Prop :=
  Json.Widened (Event.tag :: k.names) Event.MemberWidened

/-! ## Decoding -/

lemma NamedId.ignores : NamedId.decode.Ignores NamedId.Widened :=
  (((ignores_required (ignores_eq _)).map NamedId.mk).seq
    (ignores_required (ignores_eq _))).decoder (fun _ h => h) _

lemma Claim.ignores : Claim.decode.Ignores Claim.Widened :=
  (((ignores_required (ignores_eq _)).map Claim.mk).seq
    (ignores_required (ignores_eq _))).decoder (fun _ h => h) _

lemma User.ignores : User.decode.Ignores User.Widened := by
  have hclaims : (Decoder.list Claim.decode).Ignores (User.MemberWidened "claims") :=
    Claim.ignores.list
  have hshape : User.shape.Ignores User.MemberWidened :=
    (((ignores_required (ignores_eq _)).map User.mk).seq
      (ignores_required (ignores_eq _))).seq (ignores_optional hclaims)
  exact hshape.decoder (fun _ h => h) _

namespace Event

lemma Base.ignores : Base.shape.Ignores MemberWidened :=
  ((ignores_required NamedId.ignores).map Base.mk).seq (ignores_required (ignores_eq _))
    |>.seq (ignores_required (ignores_eq _)) |>.seq (ignores_optional (ignores_eq _))
    |>.seq (ignores_optional (ignores_eq _))

lemma userShape_ignores : userShape.Ignores MemberWidened := ignores_optional User.ignores.nullable

lemma Detail.ignores (k : Kind) : (Detail.shape k).Ignores MemberWidened := by
  cases k with
  | usageExceeded =>
    exact (((ignores_required (ignores_eq _)).map UsageExceeded.mk).seq
      (ignores_required (ignores_eq _))).map Detail.usageExceeded
  | manual => exact userShape_ignores.map Detail.manual
  | schema =>
    exact (((userShape_ignores.map SchemaChange.mk).seq (ignores_required NamedId.ignores)).seq
      (ignores_required (ignores_eq _))).map Detail.schema
  | content =>
    exact ((userShape_ignores.map ContentChange.mk).seq (ignores_required NamedId.ignores)
      |>.seq (ignores_required (ignores_eq _)) |>.seq (ignores_required (ignores_eq _))
      |>.seq (ignores_optional (ignores_eq _)) |>.seq (ignores_optional (ignores_eq _))
      |>.seq (ignores_optional (ignores_eq _)) |>.seq (ignores_required (ignores_eq _))
      |>.seq (ignores_required (ignores_eq _)) |>.seq (ignores_optional (ignores_eq _))
      |>.seq (ignores_optional (ignores_eq _))).map Detail.content
  | asset =>
    exact ((userShape_ignores.map AssetChange.mk).seq (ignores_required (ignores_eq _))
      |>.seq (ignores_required (ignores_eq _)) |>.seq (ignores_required (ignores_eq _))
      |>.seq (ignores_optional (ignores_eq _)) |>.seq (ignores_optional (ignores_eq _))
      |>.seq (ignores_optional (ignores_eq _)) |>.seq (ignores_optional (ignores_eq _))).map
        Detail.asset
  | comment =>
    exact ((userShape_ignores.map Comment.mk).seq (ignores_required (ignores_eq _))
      |>.seq (ignores_optional (ignores_eq _))
      |>.seq (ignores_required User.ignores.nullOr)).map Detail.comment

/-- The tag is a declared member, so no other one can be added. -/
lemma filter_tag_of_widened {names : List Text} {members ns : Json.Members}
    (h : WidenedMembers (tag :: names) MemberWidened members ns) :
    ns.filter (·.1 = tag) = members.filter (·.1 = tag) :=
  h.filter_eq (List.mem_cons_self ..) fun _ _ hvw => hvw

/-- Decoding ignores members that the kind of the event does not declare. -/
theorem decode_widened {k : Kind} {members : Json.Members} {w : Json}
    (htag : members.filter (·.1 = tag) = [(tag, .string k.name)])
    (h : Widened k (.object members) w) : decode w = decode (.object members) := by
  obtain ⟨_, ns, heq, rfl, hmembers⟩ := h
  cases heq
  have htag' : ns.filter (·.1 = tag) = [(tag, .string k.name)] :=
    (filter_tag_of_widened hmembers).trans htag
  -- the tag is taken out, and among the others each shape finds what it declares
  have hothers := hmembers.filter (· ≠ tag)
  have hdetail := (Detail.ignores k).ofMembers_eq
    (fun _ hname => List.mem_cons_of_mem _ (List.mem_append_left _ hname)) hothers .event
  have hbase := Base.ignores.ofMembers_eq
    (fun _ hname => List.mem_cons_of_mem _ (List.mem_append_right _ hname)) hothers .event
  rw [decode_of_filter_tag htag', decode_of_filter_tag htag, hdetail, hbase]

/-! ## Reading -/

lemma MemberWidened.stable (name : Text) : Stable (MemberWidened name) := by
  have hidentity : Stable NamedId.Widened := .widened fun _ => Json.stable_eq
  have hclaim : Stable Claim.Widened := .widened fun _ => Json.stable_eq
  have huser : Stable User.Widened := by
    refine .widened fun other => ?_
    unfold User.MemberWidened
    split
    · exact hclaim.listOf
    · exact Json.stable_eq
  unfold MemberWidened
  split
  · exact hidentity
  · split
    · exact huser.nullOr
    · exact Json.stable_eq

/-- Put the members of all objects in the JSON form of an event into another order, and then add
members that are not declared, anywhere and with any values: the text of that is read as the
event. -/
theorem read_widened {e : Event} {v w : Json} (he : e.Legible) (hv : Reordered e.toJson v)
    (hw : Widened e.kind v w) (hdepth : w.depth ≤ nestingLimit) : read w.print = .ok e := by
  have hvreread : Reordered e.toJson v.reread := by
    have hself : e.toJson.reread = e.toJson := Json.reread_eq_self_of_real he.reads_real
    have hreread := hv.reread
    rwa [hself] at hreread
  have hwreread : Widened e.kind v.reread w.reread := Stable.widened MemberWidened.stable v w hw
  -- the text tells the kind as the original does
  obtain ⟨members, ns, rfl, rfl, hmembers⟩ := hw
  have htag : ns.filter (·.1 = tag) = [(tag, .string e.kind.name)] :=
    (filter_tag_of_widened hmembers).trans (filter_tag_of_reordered hv)
  have hdecode : decode (Json.object ns).reread = .ok e := by
    rw [Json.reread] at hvreread hwreread
    rw [decode_widened (filter_tag_of_reordered hvreread) hwreread, decode_reordered hvreread]
  have hread := (read_object htag hdepth hdecode).2 []
  rw [List.append_nil] at hread
  exact hread

/-- A rule that someone started by hand. -/
def sampleManual : Event where
  base := ⟨⟨.zero, "app"⟩, "Manual", ⟨⟨2024, 2, 29, by decide⟩, 12, 0, 0, 0, by decide⟩, 1, []⟩
  detail := .manual (some ⟨"1", "a@b", [⟨"role", "editor"⟩]⟩)

/-- It is also said by these members, among which those that events do not declare come twice, hold
objects, or are named as members of other kinds. -/
def sampleWidened : Json :=
  .object [("data", .list []), ("actor", .string []), ("data", .null),
    ("appId", .object [("id", .string Uuid.zero.text), ("name", .string "app"),
      ("type", .object [("type", .string "content"), ("type", .null)])]),
    ("name", .string "Manual"), ("timestamp", .string "2024-02-29T12:00:00Z"),
    ("type", .string "manual"), ("url", .number (.real ⟨false, 0x14000000000000, 1022, by decide⟩)),
    ("user", .object [("claims", .list [.object [("type", .string "role"), ("id", .bool true),
      ("value", .string "editor")]]), ("claim", .null), ("email", .string "a@b"),
      ("id", .string "1")]),
    ("version", .ofInt64 1)]

theorem read_widened_sampleManual : read sampleWidened.print = .ok sampleManual := by
  have hlegible : sampleManual.Legible := by
    refine ⟨by decide +kernel, fun x hx => ?_⟩
    have hno : ∀ n ∈ sampleManual.toJson.numbers, n = .integer 1 (by decide) := by decide +kernel
    cases hno _ hx
  have hreordered : Reordered sampleManual.toJson sampleManual.toJson.sorted :=
    Json.reordered_sorted sampleManual.distinct
  have hclaim : Claim.Widened (.object [("type", .string "role"), ("value", .string "editor")])
      (.object [("type", .string "role"), ("id", .bool true), ("value", .string "editor")]) :=
    ⟨_, _, rfl, rfl, .keep rfl <| .add (by decide) <| .keep rfl .nil⟩
  have huser : User.Widened
      (.object [("claims", .list [.object [("type", .string "role"), ("value", .string "editor")]]),
        ("email", .string "a@b"), ("id", .string "1")])
      (.object [("claims", .list [.object [("type", .string "role"), ("id", .bool true),
        ("value", .string "editor")]]), ("claim", .null), ("email", .string "a@b"),
        ("id", .string "1")]) :=
    ⟨_, _, rfl, rfl, .keep ⟨_, _, rfl, rfl, .cons hclaim .nil⟩ <| .add (by decide) <|
      .keep rfl <| .keep rfl .nil⟩
  have hidentity : NamedId.Widened
      (.object [("id", .string Uuid.zero.text), ("name", .string "app")])
      (.object [("id", .string Uuid.zero.text), ("name", .string "app"),
        ("type", .object [("type", .string "content"), ("type", .null)])]) :=
    ⟨_, _, rfl, rfl, .keep rfl <| .keep rfl <| .add (by decide) .nil⟩
  have hsorted : sampleManual.toJson.sorted = .object [("actor", .string []),
      ("appId", .object [("id", .string Uuid.zero.text), ("name", .string "app")]),
      ("name", .string "Manual"), ("timestamp", .string "2024-02-29T12:00:00Z"),
      ("type", .string "manual"),
      ("user", .object [("claims", .list [.object [("type", .string "role"),
        ("value", .string "editor")]]), ("email", .string "a@b"), ("id", .string "1")]),
      ("version", .ofInt64 1)] := by decide +kernel
  rw [hsorted] at hreordered
  have hwidened : Widened .manual _ sampleWidened :=
    ⟨_, _, rfl, rfl, .add (by decide) <| .keep rfl <| .add (by decide) <| .keep hidentity <|
      .keep rfl <| .keep rfl <| .keep rfl <| .add (by decide) <| .keep (.inr huser) <|
      .keep rfl .nil⟩
  exact read_widened hlegible hreordered hwidened (by decide +kernel)

end Event
end RuleTemplate
