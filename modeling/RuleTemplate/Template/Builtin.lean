import RuleTemplate.Template.Links

/-!
# Built-in placeholders

Each has a name, which begins the text behind the marker in any case of its letters, and a value
that it takes from the event. When several names begin a text the first one in the order of `all`
counts; `TIMESTAMP_DATETIME` comes before `TIMESTAMP_DATE`, with which it begins.
-/

namespace RuleTemplate

/-- The built-in placeholders. -/
inductive Builtin where
  | appId | appName | assetContentUrl | contentAction | contentUrl
  | mentionedId | mentionedName | mentionedEmail | schemaId | schemaName
  | timestampDatetime | timestampDate | userId | userName | userEmail
deriving DecidableEq, Repr

namespace Builtin

/-- The built-in placeholders in the order in which they are tried. -/
def all : List Builtin :=
  [appId, appName, assetContentUrl, contentAction, contentUrl, mentionedId, mentionedName,
    mentionedEmail, schemaId, schemaName, timestampDatetime, timestampDate, userId, userName,
    userEmail]

/-- The name behind the marker. -/
def name : Builtin → Text
  | appId => "APP_ID"
  | appName => "APP_NAME"
  | assetContentUrl => "ASSET_CONTENT_URL"
  | contentAction => "CONTENT_ACTION"
  | contentUrl => "CONTENT_URL"
  | mentionedId => "MENTIONED_ID"
  | mentionedName => "MENTIONED_NAME"
  | mentionedEmail => "MENTIONED_EMAIL"
  | schemaId => "SCHEMA_ID"
  | schemaName => "SCHEMA_NAME"
  | timestampDatetime => "TIMESTAMP_DATETIME"
  | timestampDate => "TIMESTAMP_DATE"
  | userId => "USER_ID"
  | userName => "USER_NAME"
  | userEmail => "USER_EMAIL"

/-- The value for an event; there is none when events of its kind do not have it. -/
def value? (links : Addresses) (e : Event) : Builtin → Option Text
  | appId => some e.base.appId.id.text
  | appName => some e.base.appId.name
  | assetContentUrl => e.asset?.map fun a => links.asset a.id
  | contentAction => e.content?.map fun c => c.action.name
  | contentUrl => e.content?.map fun c => links.content e.base.appId c.schemaId c.id
  | mentionedId => e.comment?.map fun c => c.mentionedUser.id
  | mentionedName => e.comment?.bind fun c => c.mentionedUser.displayName?
  | mentionedEmail => e.comment?.map fun c => c.mentionedUser.email
  | schemaId => e.schemaId?.map fun s => s.id.text
  | schemaName => e.schemaId?.map fun s => s.name
  | timestampDatetime => some e.base.timestamp.clockText
  | timestampDate => some e.base.timestamp.dateText
  | userId => e.user?.map fun u => u.id
  | userName => e.user?.bind fun u => u.displayName?
  | userEmail => e.user?.map fun u => u.email

/-- Whether a text begins with the name. -/
def begins (t : Text) (b : Builtin) : Bool := Text.sameLetters (t.take b.name.length) b.name

/-- The first built-in placeholder with whose name a text begins. -/
def find? (t : Text) : Option Builtin := all.find? (begins t)

end Builtin

end RuleTemplate
