import RuleTemplate.Text.Basic

/-!
# Users

A user has claims: texts under a type, in the order in which they were issued. Types are compared
ignoring the case of ASCII letters, and the first claim of a type counts.
-/

namespace RuleTemplate

/-- A text that is said of a user. -/
structure Claim where
  kind : Text
  value : Text
deriving DecidableEq, Repr

/-- The type of the claim that holds the name to be shown. -/
def Claim.displayName : Text := "urn:squidex:name"

/-- Someone who acts or is mentioned. -/
structure User where
  id : Text
  email : Text
  claims : List Claim
deriving DecidableEq, Repr

namespace User

/-- A user without claims. -/
def new (id email : Text) : User := ⟨id, email, []⟩

/-- Issues a claim. -/
def withClaim (u : User) (kind value : Text) : User :=
  { u with claims := u.claims ++ [⟨kind, value⟩] }

/-- Issues the claim that holds the name to be shown. -/
def withDisplayName (u : User) (name : Text) : User := u.withClaim Claim.displayName name

/-- The value of the first claim of a type. -/
def claim? (u : User) (kind : Text) : Option Text :=
  (u.claims.find? fun c => Text.sameLetters c.kind kind).map (·.value)

/-- The name to be shown. -/
def displayName? (u : User) : Option Text := u.claim? Claim.displayName

end User

end RuleTemplate
