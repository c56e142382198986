import RuleTemplate.Event.Basic

/-!
# Links

The public addresses of assets and content items. `Links` makes them below one base.
-/

namespace RuleTemplate

/-- Where assets can be fetched, and where content items can be edited. -/
structure Addresses where
  asset : Uuid → Text
  content : (app schema : NamedId) → Uuid → Text

/-- Makes addresses below a base. -/
structure Links where
  base : Text
deriving DecidableEq, Repr

namespace Links

/-- A text without the slashes at its end. -/
def trimSlashes (t : Text) : Text := (t.reverse.dropWhile (· = '/')).reverse

/-- Addresses below a base, whose slashes at the end do not count. -/
def below (base : Text) : Links := ⟨trimSlashes base⟩

/-- Where an asset can be fetched. -/
def asset (l : Links) (id : Uuid) : Text := l.base ++ "/api/assets/" ++ id.text

/-- Where a content item can be edited. -/
def content (l : Links) (app schema : NamedId) (id : Uuid) : Text :=
  l.base ++ "/app/" ++ app.name ++ ("/content/" : Text) ++ schema.name ++ ('/' :: id.text)
    ++ ("/history" : Text)

/-- The addresses that are made below a base. -/
def addresses (l : Links) : Addresses := ⟨l.asset, l.content⟩

end Links

/-- The addresses below a base, whose slashes at the end do not count. -/
def Addresses.below (base : Text) : Addresses := (Links.below base).addresses

end RuleTemplate
