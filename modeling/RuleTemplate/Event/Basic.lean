import RuleTemplate.Calendar.Timestamp
import RuleTemplate.Event.Data
import RuleTemplate.Event.User
import RuleTemplate.Uuid

/-!
# Events

An event has a base, which all events share, and a detail, which depends on its kind. Some details
name the user who acted, some the schema that is concerned.
-/

namespace RuleTemplate

/-- Something with a stable identifier and a name: an app or a schema. -/
structure NamedId where
  id : Uuid
  name : Text
deriving DecidableEq, Repr

/-- The identifier and the name behind a comma. -/
def NamedId.text (n : NamedId) : Text := n.id.text ++ ',' :: n.name

/-- What all events share. -/
structure Event.Base where
  appId : NamedId
  name : Text
  timestamp : Timestamp
  version : Int64
  actor : Text
deriving DecidableEq, Repr

/-! ## Choices -/

/-- What happened to a content item. -/
inductive ContentAction where
  | created | updated | deleted | published | unpublished | statusChanged
deriving DecidableEq, Repr

namespace ContentAction

/-- The actions, in the order in which errors list them. -/
def all : List ContentAction := [created, updated, deleted, published, unpublished, statusChanged]

/-- The name of an action in JSON and in templates. -/
def name : ContentAction → Text
  | created => "Created"
  | updated => "Updated"
  | deleted => "Deleted"
  | published => "Published"
  | unpublished => "Unpublished"
  | statusChanged => "StatusChanged"

end ContentAction

/-- What happened to an asset. -/
inductive AssetAction where
  | created | updated | annotated | deleted
deriving DecidableEq, Repr

namespace AssetAction

/-- The actions, in the order in which errors list them. -/
def all : List AssetAction := [created, updated, annotated, deleted]

/-- The name of an action in JSON and in templates. -/
def name : AssetAction → Text
  | created => "Created"
  | updated => "Updated"
  | annotated => "Annotated"
  | deleted => "Deleted"

end AssetAction

/-- What happened to a schema. -/
inductive SchemaAction where
  | created | updated | deleted | published | unpublished
deriving DecidableEq, Repr

namespace SchemaAction

/-- The actions, in the order in which errors list them. -/
def all : List SchemaAction := [created, updated, deleted, published, unpublished]

/-- The name of an action in JSON and in templates. -/
def name : SchemaAction → Text
  | created => "Created"
  | updated => "Updated"
  | deleted => "Deleted"
  | published => "Published"
  | unpublished => "Unpublished"

end SchemaAction

/-- The medium of an asset. -/
inductive AssetType where
  | unknown | image | audio | video
deriving DecidableEq, Repr

namespace AssetType

/-- The media, in the order in which errors list them. -/
def all : List AssetType := [unknown, image, audio, video]

/-- The name of a medium in JSON and in templates. -/
def name : AssetType → Text
  | unknown => "Unknown"
  | image => "Image"
  | audio => "Audio"
  | video => "Video"

end AssetType

/-! ## Details -/

/-- Calls that went beyond their limit. -/
structure UsageExceeded where
  callsCurrent : Int64
  callsLimit : Int64
deriving DecidableEq, Repr

/-- A change of a schema. -/
structure SchemaChange where
  user : Option User
  schemaId : NamedId
  action : SchemaAction
deriving DecidableEq, Repr

/-- A change of a content item. -/
structure ContentChange where
  user : Option User
  schemaId : NamedId
  id : Uuid
  action : ContentAction
  data : ContentData
  dataOld : Option ContentData
  status : Text
  created : Timestamp
  lastModified : Timestamp
  createdBy : Text
  lastModifiedBy : Text
deriving DecidableEq

/-- A change of an asset. -/
structure AssetChange where
  user : Option User
  id : Uuid
  action : AssetAction
  fileName : Text
  mimeType : Text
  fileSize : Int64
  fileVersion : Int64
  assetType : AssetType
deriving DecidableEq, Repr

/-- A comment that mentions another user. -/
structure Comment where
  user : Option User
  text : Text
  url : Option Text
  mentionedUser : User
deriving DecidableEq, Repr

/-- What sets an event of one kind apart. -/
inductive Event.Detail where
  | usageExceeded (usage : UsageExceeded)
  /-- A rule was started by hand. -/
  | manual (user : Option User)
  | schema (change : SchemaChange)
  | content (change : ContentChange)
  | asset (change : AssetChange)
  | comment (comment : Comment)
deriving DecidableEq

/-- Something that happened. -/
structure Event where
  base : Event.Base
  detail : Event.Detail
deriving DecidableEq

namespace Event

/-- The kinds of events. -/
inductive Kind where
  | usageExceeded | manual | schema | content | asset | comment
deriving DecidableEq, Repr

namespace Kind

/-- The kinds, in the order in which errors list them. -/
def all : List Kind := [usageExceeded, manual, schema, content, asset, comment]

/-- The name that tells a kind in JSON. -/
def name : Kind → Text
  | usageExceeded => "usageExceeded"
  | manual => "manual"
  | schema => "schema"
  | content => "content"
  | asset => "asset"
  | comment => "comment"

end Kind

/-- The kind of an event. -/
def kind (e : Event) : Kind :=
  match e.detail with
  | .usageExceeded _ => .usageExceeded
  | .manual _ => .manual
  | .schema _ => .schema
  | .content _ => .content
  | .asset _ => .asset
  | .comment _ => .comment

/-- The user who acted, if known. -/
def user? (e : Event) : Option User :=
  match e.detail with
  | .usageExceeded _ => none
  | .manual user => user
  | .schema change => change.user
  | .content change => change.user
  | .asset change => change.user
  | .comment comment => comment.user

/-- The schema that is concerned. -/
def schemaId? (e : Event) : Option NamedId :=
  match e.detail with
  | .schema change => some change.schemaId
  | .content change => some change.schemaId
  | _ => none

/-- What happened, by name. -/
def action? (e : Event) : Option Text :=
  match e.detail with
  | .schema change => some change.action.name
  | .content change => some change.action.name
  | .asset change => some change.action.name
  | _ => none

/-- The change of a content item. -/
def content? (e : Event) : Option ContentChange :=
  match e.detail with
  | .content change => some change
  | _ => none

/-- The change of an asset. -/
def asset? (e : Event) : Option AssetChange :=
  match e.detail with
  | .asset change => some change
  | _ => none

/-- The comment. -/
def comment? (e : Event) : Option Comment :=
  match e.detail with
  | .comment comment => some comment
  | _ => none

end Event

end RuleTemplate
