import RuleTemplate.Proofs.Node.Fields
import RuleTemplate.Proofs.Node.Paths
import RuleTemplate.Proofs.Text.Letters

/-!
# What a segment finds in a user

The claims of a user and two fields compete for a segment. `User.Finds` says in which order they are
looked at, without the functions that do so: the first claim that answers the segment counts, and a
field counts when no claim answers. The segment `name` is answered by the name to be shown alone, so
a claim of the type `name` is never found (`Node.resolve_user`).
-/

namespace RuleTemplate

open Text (sameLetters)

/-- A claim answers the segment of its type; but `name` is answered by the name to be shown. -/
inductive Claim.Answers (c : Claim) (segment : Text) : Prop
  | name (hsegment : sameLetters segment "name" = true)
    (hkind : sameLetters c.kind "urn:squidex:name" = true)
  | kind (hsegment : sameLetters segment "name" = false)
    (hkind : sameLetters c.kind segment = true)

/-- What a segment finds in a user. -/
inductive User.Finds (u : User) (segment : Text) : Text → Prop
  /-- The first claim that answers it. -/
  | claim {before behind : List Claim} {c : Claim} (hclaims : u.claims = before ++ c :: behind)
    (hbefore : ∀ d ∈ before, ¬ d.Answers segment) (hc : c.Answers segment) :
    Finds u segment c.value
  /-- The field of that name, when no claim answers. -/
  | id (hclaims : ∀ c ∈ u.claims, ¬ c.Answers segment) (hname : sameLetters segment "id" = true) :
    Finds u segment u.id
  /-- Likewise. -/
  | email (hclaims : ∀ c ∈ u.claims, ¬ c.Answers segment)
    (hname : sameLetters segment "email" = true) : Finds u segment u.email

/-! ## Claims of a type -/

namespace User

variable {u : User} {kind t : Text}

/-- The claim that is found is the first one of its type. -/
lemma claim?_eq_some_iff : u.claim? kind = some t ↔
    ∃ before c behind, u.claims = before ++ c :: behind ∧
      (∀ d ∈ before, sameLetters d.kind kind = false) ∧ sameLetters c.kind kind = true ∧
      c.value = t := by
  rw [claim?, Option.map_eq_some_iff]
  constructor
  · rintro ⟨c, hfind, rfl⟩
    obtain ⟨hc, before, behind, hclaims, hbefore⟩ := List.find?_eq_some_iff_append.1 hfind
    exact ⟨before, c, behind, hclaims, fun d hd => by simpa using hbefore d hd, hc, rfl⟩
  · rintro ⟨before, c, behind, hclaims, hbefore, hc, rfl⟩
    refine ⟨c, List.find?_eq_some_iff_append.2 ⟨hc, before, behind, hclaims, ?_⟩, rfl⟩
    intro d hd
    rw [hbefore d hd]
    rfl

lemma claim?_eq_none_iff :
    u.claim? kind = none ↔ ∀ c ∈ u.claims, sameLetters c.kind kind = false := by
  rw [claim?, Option.map_eq_none_iff, List.find?_eq_none]
  refine forall₂_congr fun c _ => ?_
  rw [Bool.not_eq_true]

/-- Claims that are issued later are looked at later. -/
lemma claim?_append (u : User) (more : List Claim) (kind : Text) :
    { u with claims := u.claims ++ more : User }.claim? kind
      = (u.claim? kind).or ({ u with claims := more : User }.claim? kind) := by
  rw [claim?, claim?, claim?, List.find?_append, Option.map_or]

/-- Claims of other types do not matter. -/
lemma claim?_filter {keep : Claim → Bool}
    (h : ∀ c ∈ u.claims, sameLetters c.kind kind = true → keep c = true) :
    { u with claims := u.claims.filter keep : User }.claim? kind = u.claim? kind := by
  rw [claim?, claim?, ← List.head?_filter, ← List.head?_filter, List.filter_filter]
  congr 2
  refine List.filter_congr fun c hc => ?_
  cases hkind : sameLetters c.kind kind with
  | false => rfl
  | true => rw [h c hc hkind, Bool.and_true]

end User

/-! ## Claims that answer -/

namespace Claim

variable {c : Claim} {segment : Text}

/-- The type of the claims that a segment asks for. -/
def kindFor (segment : Text) : Text :=
  if sameLetters segment "name" then displayName else segment

/-- The claims that answer are those of one type. -/
lemma answers_iff : c.Answers segment ↔ sameLetters c.kind (kindFor segment) = true := by
  unfold kindFor
  cases hsegment : sameLetters segment "name" with
  | true =>
    rw [if_pos rfl]
    constructor
    · rintro (⟨-, hkind⟩ | ⟨hother, -⟩)
      · exact hkind
      · rw [hsegment] at hother
        cases hother
    · exact .name hsegment
  | false =>
    rw [if_neg Bool.false_ne_true]
    constructor
    · rintro (⟨hname, -⟩ | ⟨-, hkind⟩)
      · rw [hsegment] at hname
        cases hname
      · exact hkind
    · exact .kind hsegment

lemma not_answers_iff : ¬ c.Answers segment ↔ sameLetters c.kind (kindFor segment) = false := by
  rw [answers_iff, Bool.not_eq_true]

instance (c : Claim) (segment : Text) : Decidable (c.Answers segment) :=
  decidable_of_iff _ answers_iff.symm

/-- A claim of the type `name` does not answer `name`. -/
lemma not_answers_of_kind (hsegment : sameLetters segment "name" = true)
    (hkind : sameLetters c.kind "name" = true) : ¬ c.Answers segment := by
  rintro (⟨-, hshown⟩ | ⟨hother, -⟩)
  · rw [Text.sameLetters_congr hkind] at hshown
    exact absurd hshown (by decide)
  · rw [hsegment] at hother
    cases hother

end Claim

/-! ## The order -/

namespace User

open Claim (kindFor)

variable {u v : User} {segment t : Text}

lemma child?_of_claim?_eq_some (h : u.claim? (kindFor segment) = some t) :
    u.child? segment = some (.text t) := by
  rw [kindFor] at h
  unfold child?
  simp only [h]

lemma child?_of_claim?_eq_none (h : u.claim? (kindFor segment) = none) :
    u.child? segment = (Record.user u).field? segment := by
  rw [kindFor] at h
  unfold child?
  simp only [h]

/-- The segment leads to what it finds. -/
lemma Finds.child?_eq (h : u.Finds segment t) : u.child? segment = some (.text t) := by
  have hfield : (∀ c ∈ u.claims, ¬ c.Answers segment) →
      u.child? segment = (Record.user u).field? segment := by
    intro hclaims
    refine child?_of_claim?_eq_none (claim?_eq_none_iff.2 fun c hc => ?_)
    exact Claim.not_answers_iff.1 (hclaims c hc)
  cases h with
  | @claim before behind c hclaims hbefore hc =>
    refine child?_of_claim?_eq_some (claim?_eq_some_iff.2 ⟨before, c, behind, hclaims, ?_, ?_, rfl⟩)
    · exact fun d hd => Claim.not_answers_iff.1 (hbefore d hd)
    · exact Claim.answers_iff.1 hc
  | id hclaims hname =>
    rw [hfield hclaims, Record.field?_congr _ hname]
    rfl
  | email hclaims hname =>
    rw [hfield hclaims, Record.field?_congr _ hname]
    rfl

/-- A segment that finds nothing leads nowhere. -/
lemma exists_finds_or (u : User) (segment : Text) :
    (∃ t, u.Finds segment t) ∨ u.child? segment = none := by
  cases hclaim : u.claim? (kindFor segment) with
  | some t =>
    obtain ⟨before, c, behind, hclaims, hbefore, hc, -⟩ := claim?_eq_some_iff.1 hclaim
    refine .inl ⟨c.value, .claim hclaims ?_ (Claim.answers_iff.2 hc)⟩
    exact fun d hd => Claim.not_answers_iff.2 (hbefore d hd)
  | none =>
    have hnone : ∀ c ∈ u.claims, ¬ c.Answers segment :=
      fun c hc => Claim.not_answers_iff.2 (claim?_eq_none_iff.1 hclaim c hc)
    cases hid : sameLetters segment "id" with
    | true => exact .inl ⟨u.id, .id hnone hid⟩
    | false =>
      cases hemail : sameLetters segment "email" with
      | true => exact .inl ⟨u.email, .email hnone hemail⟩
      | false =>
        rw [Text.sameLetters_comm] at hid hemail
        refine .inr ?_
        rw [child?_of_claim?_eq_none hclaim, Record.user, Record.field?_ofFields,
          Option.map_eq_none_iff, List.find?_eq_none, fields, List.forall_mem_cons,
          List.forall_mem_singleton]
        exact ⟨ne_true_of_eq_false hid, ne_true_of_eq_false hemail⟩

/-- Segments that ask for the same claim and for the same field lead to the same. -/
lemma child?_eq_of_claim?_eq {other : Text}
    (hclaim : v.claim? (kindFor segment) = u.claim? (kindFor other))
    (hfield : (Record.user v).field? segment = (Record.user u).field? other) :
    v.child? segment = u.child? other := by
  cases h : u.claim? (kindFor other) with
  | some t => rw [child?_of_claim?_eq_some h, child?_of_claim?_eq_some (hclaim.trans h)]
  | none => rw [child?_of_claim?_eq_none h, child?_of_claim?_eq_none (hclaim.trans h), hfield]

end User

namespace Node

variable {u : User} {segment t : Text}

lemma resolve_user_of_finds (h : u.Finds segment t) :
    (user u).resolve [segment] = (some (.text t), []) :=
  resolve_cons_of_some (n := user u) h.child?_eq []

lemma resolve_user_eq_some_iff :
    (user u).resolve [segment] = (some (.text t), []) ↔ u.Finds segment t := by
  refine ⟨fun h => ?_, resolve_user_of_finds⟩
  rcases User.exists_finds_or u segment with ⟨found, hfound⟩ | hchild
  · rw [resolve_user_of_finds hfound] at h
    cases h
    exact hfound
  · rw [resolve_cons_of_none (n := user u) hchild] at h
    cases h

lemma resolve_user_of_not_finds (h : ∀ t, ¬ u.Finds segment t) :
    (user u).resolve [segment] = (none, [segment]) := by
  rcases User.exists_finds_or u segment with ⟨t, ht⟩ | hchild
  · exact absurd ht (h t)
  · exact resolve_cons_of_none (n := user u) hchild []

/-- Other claims lead to the same when the one that is asked for is the same. -/
lemma resolve_user_of_claim?_eq {claims : List Claim}
    (h : { u with claims := claims : User }.claim? (Claim.kindFor segment)
      = u.claim? (Claim.kindFor segment)) :
    (user { u with claims := claims }).resolve [segment] = (user u).resolve [segment] := by
  rw [resolve, resolve, child?, child?, User.child?_eq_of_claim?_eq h rfl]

/-- Claims that are issued later do not matter when one answers already. -/
lemma resolve_user_append {c : Claim} (hmem : c ∈ u.claims) (hc : c.Answers segment)
    (more : List Claim) : (user { u with claims := u.claims ++ more }).resolve [segment]
      = (user u).resolve [segment] := by
  refine resolve_user_of_claim?_eq ?_
  rw [User.claim?_append]
  cases hclaim : u.claim? (Claim.kindFor segment) with
  | some t => rfl
  | none =>
    have hother := User.claim?_eq_none_iff.1 hclaim c hmem
    rw [Claim.answers_iff.1 hc] at hother
    cases hother

/-- Claims of the type `name` do not matter where `name` is asked for. -/
lemma resolve_user_filter (hsegment : sameLetters segment "name" = true) :
    (user { u with claims := u.claims.filter fun c => !sameLetters c.kind "name" }).resolve
      [segment] = (user u).resolve [segment] := by
  refine resolve_user_of_claim?_eq (User.claim?_filter fun c _ hc => ?_)
  rw [Bool.not_eq_true', ← Bool.not_eq_true]
  exact fun hkind => Claim.not_answers_of_kind hsegment hkind (Claim.answers_iff.2 hc)

/-- A segment finds in a user what comes first: the claims that answer it, in the order in which
they were issued, then the field of that name, and nothing else. Claims that are issued later do not
matter when a claim answers already. And `name` is never answered by a claim of the type `name`, so
nothing changes when all of those are taken away. -/
theorem resolve_user (u : User) (segment : Text) :
    (∀ t, (user u).resolve [segment] = (some (.text t), []) ↔ u.Finds segment t) ∧
    ((∀ t, ¬ u.Finds segment t) → (user u).resolve [segment] = (none, [segment])) ∧
    (∀ c ∈ u.claims, c.Answers segment → ∀ more,
      (user { u with claims := u.claims ++ more }).resolve [segment]
        = (user u).resolve [segment]) ∧
    (sameLetters segment "name" = true →
      (∀ c ∈ u.claims, sameLetters c.kind "name" = true → ¬ c.Answers segment) ∧
      (user { u with claims := u.claims.filter fun c => !sameLetters c.kind "name" }).resolve
        [segment] = (user u).resolve [segment]) := by
  refine ⟨fun t => resolve_user_eq_some_iff, resolve_user_of_not_finds,
    fun c hmem hc more => resolve_user_append hmem hc more, fun hsegment => ?_⟩
  exact ⟨fun c _ => Claim.not_answers_of_kind hsegment, resolve_user_filter hsegment⟩

/-- Claims of the type `name` and of the name of a field, and the name to be shown between them. -/
def sampleClaimant : User :=
  ⟨"1", "a@b", [⟨"name", "x"⟩, ⟨"URN:Squidex:name", "é"⟩, ⟨"Id", "2"⟩]⟩

/-- The name to be shown is found, also when it is issued again and without the claim in front.
The claim is found instead of the field, and the other field for want of a claim. -/
theorem resolve_user_sampleClaimant :
    (user sampleClaimant).resolve ["NAME"] = (some (.text "é"), []) ∧
    (user (sampleClaimant.withDisplayName "y")).resolve ["NAME"] = (some (.text "é"), []) ∧
    (user ⟨"1", "a@b", [⟨"URN:Squidex:name", "é"⟩, ⟨"Id", "2"⟩]⟩).resolve ["NAME"]
      = (some (.text "é"), []) ∧
    (user sampleClaimant).resolve ["id"] = (some (.text "2"), []) ∧
    (user sampleClaimant).resolve ["Email"] = (some (.text "a@b"), []) := by
  obtain ⟨hname, -, hlater, hothers⟩ := resolve_user sampleClaimant "NAME"
  have hissued : (⟨"URN:Squidex:name", "é"⟩ : Claim).Answers "NAME" := by decide
  have hother : ∀ c ∈ ([⟨"name", "x"⟩] : List Claim), ¬ c.Answers "NAME" := by decide
  have hshown : (user sampleClaimant).resolve ["NAME"] = (some (.text "é"), []) :=
    (hname "é").2 (.claim rfl hother hissued)
  refine ⟨hshown, ?_, ?_, ?_, ?_⟩
  · exact (hlater _ (by decide) hissued [⟨Claim.displayName, "y"⟩]).trans hshown
  · exact (hothers (by decide)).2.trans hshown
  · have hbefore : ∀ c ∈ ([⟨"name", "x"⟩, ⟨"URN:Squidex:name", "é"⟩] : List Claim),
        ¬ c.Answers "id" := by decide
    have hid : (⟨"Id", "2"⟩ : Claim).Answers "id" := by decide
    exact ((resolve_user sampleClaimant "id").1 "2").2 (.claim rfl hbefore hid)
  · have hnone : ∀ c ∈ sampleClaimant.claims, ¬ c.Answers "Email" := by decide
    exact ((resolve_user sampleClaimant "Email").1 "a@b").2 (.email hnone (by decide))

end Node
end RuleTemplate
