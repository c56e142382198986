import RuleTemplate.Decode.Shape
import RuleTemplate.Event.Basic

/-!
# Decoding events

The kind of an event is told by its member `type`, which is looked at first. Then the members of the
detail are decoded, and then those of the base.
-/

namespace RuleTemplate

/-- The members of an identity. -/
def NamedId.shape : Shape NamedId :=
  NamedId.mk <$> .required "id" .uuid <*> .required "name" .text

/-- Decodes an identity. -/
def NamedId.decode : Decoder NamedId := NamedId.shape.decoder "NamedId"

/-- The members of a claim. -/
def Claim.shape : Shape Claim :=
  Claim.mk <$> .required "type" .text <*> .required "value" .text

/-- Decodes a claim. -/
def Claim.decode : Decoder Claim := Claim.shape.decoder "Claim"

/-- The members of a user. -/
def User.shape : Shape User :=
  User.mk <$> .required "id" .text <*> .required "email" .text
    <*> .optional "claims" (.list Claim.decode) []

/-- Decodes a user. -/
def User.decode : Decoder User := User.shape.decoder "User"

/-- Decodes the values of a field. -/
def FieldData.decode : Decoder FieldData := .map .any

/-- Decodes the data of a content item. -/
def ContentData.decode : Decoder ContentData := .map (.nullable FieldData.decode)

namespace Event

/-- The members of the base. -/
def Base.shape : Shape Base :=
  Base.mk <$> .required "appId" NamedId.decode <*> .required "name" .text
    <*> .required "timestamp" .timestamp <*> .optional "version" .int64 0
    <*> .optional "actor" .text []

/-- Decodes a base that stands on its own. -/
def Base.decode : Decoder Base := Base.shape.decoder "EventBase"

/-- The member of a detail that names the user who acted. -/
def userShape : Shape (Option User) := .optional "user" (.nullable User.decode) none

/-- The members of a detail, by kind. -/
def Detail.shape : Kind → Shape Detail
  | .usageExceeded =>
    .usageExceeded <$> (UsageExceeded.mk <$> .required "callsCurrent" .int64
      <*> .required "callsLimit" .int64)
  | .manual => .manual <$> userShape
  | .schema =>
    .schema <$> (SchemaChange.mk <$> userShape <*> .required "schemaId" NamedId.decode
      <*> .required "action" (.choice SchemaAction.all SchemaAction.name))
  | .content =>
    .content <$> (ContentChange.mk <$> userShape <*> .required "schemaId" NamedId.decode
      <*> .required "id" .uuid
      <*> .required "action" (.choice ContentAction.all ContentAction.name)
      <*> .optional "data" ContentData.decode .empty
      <*> .optional "dataOld" (.nullable ContentData.decode) none
      <*> .optional "status" .text []
      <*> .required "created" .timestamp <*> .required "lastModified" .timestamp
      <*> .optional "createdBy" .text [] <*> .optional "lastModifiedBy" .text [])
  | .asset =>
    .asset <$> (AssetChange.mk <$> userShape <*> .required "id" .uuid
      <*> .required "action" (.choice AssetAction.all AssetAction.name)
      <*> .required "fileName" .text <*> .optional "mimeType" .text []
      <*> .optional "fileSize" .int64 0 <*> .optional "fileVersion" .int64 0
      <*> .optional "assetType" (.choice AssetType.all AssetType.name) .unknown)
  | .comment =>
    .comment <$> (Comment.mk <$> userShape <*> .required "text" .text
      <*> .optional "url" (.nullable .text) none
      <*> .required "mentionedUser" User.decode)

/-- The name of the record of a kind. -/
def Kind.record : Kind → Text
  | .usageExceeded => "UsageExceededEvent"
  | .manual => "ManualEvent"
  | .schema => "SchemaEvent"
  | .content => "ContentEvent"
  | .asset => "AssetEvent"
  | .comment => "CommentEvent"

/-- Decodes the kind of an event. -/
def Kind.decode : Json → Except DecodeError Kind
  | .string t => Decoder.named Kind.all Kind.name t
  | v => Decoder.wrongType v .choiceName

/-- The name of the member that tells the kind. -/
def tag : Text := "type"

/-- The kind that members tell. -/
def kindOf (members : Json.Members) : Except DecodeError Kind :=
  match members.filter (·.1 = tag) with
  | [] => .error (.missingField tag)
  | [(_, v)] => Kind.decode v
  | (_, v) :: _ => do
    let _ ← Kind.decode v
    throw (.duplicateField tag)

/-- The event that members make. -/
def ofMembers (members : Json.Members) : Except DecodeError Event := do
  let kind ← kindOf members
  let members := members.filter (·.1 ≠ tag)
  let detail ← (Detail.shape kind).ofMembers .event members
  let base ← Base.shape.ofMembers .event members
  return ⟨base, detail⟩

/-- Decodes an event. A list could tell its kind as well, but none is an event. -/
def decode : Json → Except DecodeError Event
  | .object members => ofMembers members
  | .list [] => .error (.missingField tag)
  | .list (v :: items) => do
    let kind ← Kind.decode v
    Decoder.wrongType (.list items) (.record kind.record)
  | v => Decoder.wrongType v (.tagged "Event")

end Event

end RuleTemplate
