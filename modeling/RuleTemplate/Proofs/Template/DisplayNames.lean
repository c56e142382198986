import RuleTemplate.Proofs.Node.Users
import RuleTemplate.Proofs.Template.Synonyms

/-!
# Names to be shown

The name to be shown is that of the first claim of its type, and one that is issued goes behind the
claims that are there. So the name that is issued first is the one that templates show for good, and
a later one is shown only when there was none (`Formatter.showsName_withDisplayName`).
-/

namespace RuleTemplate

open Text (sameLetters)

/-! ## Issuing a name -/

namespace User

/-- A name that is issued counts when there was none. -/
lemma displayName?_withDisplayName (u : User) (name : Text) :
    (u.withDisplayName name).displayName? = some (u.displayName?.getD name) := by
  have hissued : ({ u with claims := [⟨Claim.displayName, name⟩] : User }).claim? Claim.displayName
      = some name := by
    rw [claim?, List.find?_cons_of_pos (by exact beq_self_eq_true _)]
    rfl
  rw [displayName?, withDisplayName, withClaim, claim?_append, hissued, displayName?]
  cases u.claim? Claim.displayName <;> rfl

end User

/-! ## Templates -/

namespace Formatter

/-- The name of the user is `name`: it is read off the user and rendered by the built-in placeholder
and by the path, on every event that the user acted in or is mentioned in. An extension may claim
the path, but not the built-in placeholder. -/
structure ShowsName (f : Formatter) (u : User) (name : Text) : Prop where
  displayName?_eq : u.displayName? = some name
  user : ∀ e, e.user? = some u → f.format e "$USER_NAME" = .ok name ∧
    (f.Leaves e "user.name" → f.format e "$\x7bEVENT_user.name\x7d" = .ok name)
  mentionedUser : ∀ e c, e.comment? = some c → c.mentionedUser = u →
    f.format e "$MENTIONED_NAME" = .ok name ∧
    (f.Leaves e "mentionedUser.name" →
      f.format e "$\x7bEVENT_mentionedUser.name\x7d" = .ok name)

variable {f : Formatter} {e : Event} {b : Builtin} {u : User} {path name : Text}

/-- Both ways to what an event has lead to its text. -/
lemma format_of_value? (hvalue : b.value? f.links e = some name) (hpath : b.path? = some path)
    (hplain : b.Plain e) : f.format e (marker :: b.name) = .ok name ∧
      (f.Leaves e path →
        f.format e (("$\x7bEVENT_" : Text) ++ path ++ ("\x7d" : Text)) = .ok name) := by
  refine ⟨format_name_of_value? hvalue, fun hf => ?_⟩
  rw [format_path hf (Builtin.isBlank_of_path? hpath), Builtin.textAt?_path hpath hplain f.links,
    hvalue]
  rfl

/-- Templates show the name that is read off the user. -/
lemma showsName_of_displayName? (f : Formatter) (h : u.displayName? = some name) :
    f.ShowsName u name where
  displayName?_eq := h
  user e hu := by
    have hvalue : Builtin.userName.value? f.links e = some name := by
      rw [Builtin.value?, hu]
      exact h
    exact format_of_value? hvalue rfl trivial
  mentionedUser e c hc hmentioned := by
    have hvalue : Builtin.mentionedName.value? f.links e = some name := by
      rw [Builtin.value?, hc]
      exact (congrArg User.displayName? hmentioned).trans h
    exact format_of_value? hvalue rfl trivial

/-- A name that is issued is shown from then on if no claim of the user has its type. Otherwise the
first claim that has it goes on being shown, whatever name is issued. So the name is shown exactly
when there was none or the same one. -/
theorem showsName_withDisplayName (f : Formatter) (u : User) (name : Text) :
    ((∀ c ∈ u.claims, sameLetters c.kind Claim.displayName = false) →
      f.ShowsName (u.withDisplayName name) name) ∧
    (∀ before c behind, u.claims = before ++ c :: behind →
      (∀ d ∈ before, sameLetters d.kind Claim.displayName = false) →
      sameLetters c.kind Claim.displayName = true →
      f.ShowsName u c.value ∧ f.ShowsName (u.withDisplayName name) c.value) ∧
    (f.ShowsName (u.withDisplayName name) name ↔ u.displayName?.getD name = name) := by
  have hissued := u.displayName?_withDisplayName name
  refine ⟨fun hnone => ?_, fun before c behind hclaims hbefore hc => ?_, ?_⟩
  · have hunnamed : u.displayName? = none := User.claim?_eq_none_iff.2 hnone
    rw [hunnamed] at hissued
    exact showsName_of_displayName? f hissued
  · have hold : u.displayName? = some c.value :=
      User.claim?_eq_some_iff.2 ⟨before, c, behind, hclaims, hbefore, hc, rfl⟩
    rw [hold] at hissued
    exact ⟨showsName_of_displayName? f hold, showsName_of_displayName? f hissued⟩
  · constructor
    · intro hshows
      exact Option.some.inj (hissued.symm.trans hshows.displayName?_eq)
    · intro hsame
      rw [hsame] at hissued
      exact showsName_of_displayName? f hissued

/-- Someone with a claim of the type `name`, which is not that of the name to be shown. -/
def sampleUnnamed : User := ⟨"1", "a@b", [⟨"name", "x"⟩]⟩

/-- A user who is named already keeps the name, and one who is not gets it. -/
theorem showsName_withDisplayName_samples :
    plain.ShowsName (Node.sampleClaimant.withDisplayName "y") "é" ∧
    plain.ShowsName (sampleUnnamed.withDisplayName "y") "y" ∧
    plain.format ⟨Event.sample.base, .manual (some (sampleUnnamed.withDisplayName "y"))⟩
      "${EVENT_user.name}" = .ok "y" := by
  obtain ⟨-, hold, -⟩ := showsName_withDisplayName plain Node.sampleClaimant "y"
  obtain ⟨hnew, -, -⟩ := showsName_withDisplayName plain sampleUnnamed "y"
  have hbefore : ∀ c ∈ sampleUnnamed.claims, sameLetters c.kind Claim.displayName = false := by
    decide
  have hkept := hold [⟨"name", "x"⟩] ⟨"URN:Squidex:name", "é"⟩ _ rfl hbefore (by decide)
  exact ⟨hkept.2, hnew hbefore, ((hnew hbefore).user _ rfl).2 (leaves_of_nil rfl)⟩

/-- A name that is issued in place of another is not shown. -/
theorem not_showsName_withDisplayName :
    ¬ plain.ShowsName (((User.new "1" "a@b").withDisplayName "x").withDisplayName "y") "y" := by
  intro hshows
  exact absurd hshows.displayName?_eq (by decide)

end Formatter
end RuleTemplate
