import RuleTemplate.Proofs.Template.Decision
import RuleTemplate.Proofs.Text.Letters

/-!
# What stands behind a marker

Facts about `Formatter.answer` that hold for all hooks, by the cases of `Formatter.Decides`.

* `exists_of_slot?`: a placeholder is the beginning of the text behind the marker, and the size that
  is told of it is the size of that beginning.
* `answer_eq_of_failure?_eq_none`: the offset of the marker shows in errors only.
* `answer_succeeds`: a failure comes from an extension.
-/

namespace RuleTemplate

/-- The beginning that a built-in placeholder was found for has the size of its name. -/
lemma Builtin.byteSize_take_name {t : Text} {b : Builtin} (h : Builtin.find? t = some b) :
    Text.byteSize (t.take b.name.length) = Text.byteSize b.name :=
  Text.byteSize_eq_of_sameLetters (List.find?_some (p := begins t) h)

/-- A built-in placeholder is the beginning of the text that it was found in. -/
lemma Builtin.exists_of_find? {t : Text} {b : Builtin} (h : Builtin.find? t = some b) :
    ∃ used rest, t = used ++ rest ∧ Text.byteSize used = Text.byteSize b.name :=
  ⟨_, _, (List.take_append_drop b.name.length t).symm, byteSize_take_name h⟩

namespace Formatter

variable {f : Formatter} {e : Event} {n : Nat} {t : Text} {a : Answer}

lemma Decides.exists_of_slot? {p : Pending} {size : Nat} (h : f.Decides e n t a)
    (hslot : a.slot? = some (p, size)) :
    ∃ used rest, t = used ++ rest ∧ Text.byteSize used = size := by
  cases h with
  | builtin hname =>
    cases hslot
    exact Builtin.exists_of_find? hname
  | span hname hfirst hspan hzero hborder =>
    cases hslot
    exact hborder
  | path hname hpass hparse | value hname hpass hparse =>
    cases hslot
    obtain ⟨rest, hrest⟩ := Placeholder.eq_source_append_of_parse? hparse
    exact ⟨_, rest, hrest, rfl⟩
  | _ => cases hslot

/-- A placeholder is the beginning of the text behind its marker. -/
lemma exists_of_slot? {p : Pending} {size : Nat} (h : (f.answer e n t).slot? = some (p, size)) :
    ∃ used rest, t = used ++ rest ∧ Text.byteSize used = size :=
  (f.decides_answer e n t).exists_of_slot? h

/-- Without extensions, a text begins with a built-in placeholder, or with one by path that is
looked up in the event, or with none. -/
lemma answer_of_extensions_eq_nil (hf : f.extensions = []) :
    f.answer e n t = match Builtin.find? t with
      | some b => .builtin b (b.value? f.links e)
      | none => match Placeholder.parse? t with
        | some p => .value p (((Node.record (.event e)).resolve p.path).1.bind Node.text?)
            ((Node.record (.event e)).resolve p.path).2
        | none => .unmatched := by
  unfold answer
  rw [hf, spanAnswer?]
  cases Builtin.find? t with
  | some b => rfl
  | none =>
    cases Placeholder.parse? t with
    | none => rfl
    | some p =>
      simp only [pathAnswer, hf, List.findSome?_nil]

/-! ## Offsets -/

/-- The offset of the marker is in the error of a refused claim, and nowhere else. -/
lemma Decides.of_failure?_eq_none (h : f.Decides e n t a) (hok : a.failure? = none) (m : Nat) :
    f.Decides e m t a := by
  cases h with
  | builtin hname => exact .builtin hname
  | failure | refused => cases hok
  | declined hname hfirst hspan hzero => exact .declined hname hfirst hspan hzero
  | span hname hfirst hspan hzero hborder => exact .span hname hfirst hspan hzero hborder
  | unmatched hname hpass hparse => exact .unmatched hname hpass hparse
  | path hname hpass hparse hfirst => exact .path hname hpass hparse hfirst
  | value hname hpass hparse hsilent hresolve => exact .value hname hpass hparse hsilent hresolve

/-- The offset of the marker shows in errors only. -/
lemma answer_eq_of_failure?_eq_none (h : (f.answer e n t).failure? = none) (m : Nat) :
    f.answer e m t = f.answer e n t :=
  ((f.decides_answer e n t).of_failure?_eq_none h m).answer_eq

end Formatter

/-! ## Success -/

/-- No hook failed and no claim is invalid; and if there is a value to be waited for, it comes. -/
def Answer.Succeeds (a : Answer) : Prop :=
  a.failure? = none ∧ ∀ p size, a.slot? = some (p, size) → ∃ value, p.outcome = .ok value

namespace Answer

variable {a : Answer}

/-- Where a placeholder was recognised, nothing failed. -/
lemma failure?_of_slot? {slot : Pending × Nat} (h : a.slot? = some slot) : a.failure? = none := by
  cases a with
  | failure error => cases h
  | _ => rfl

/-- A value that is there already comes. -/
lemma succeeds_of_ready {value : Option Text} {size : Nat} (hfailure : a.failure? = none)
    (hslot : a.slot? = some (.ready value, size)) : a.Succeeds := by
  refine ⟨hfailure, fun p size' hp => ?_⟩
  rw [hslot] at hp
  cases hp
  exact ⟨value, rfl⟩

/-- Where the marker stays, no value is waited for. -/
lemma succeeds_of_none (hfailure : a.failure? = none) (hslot : a.slot? = none) : a.Succeeds := by
  refine ⟨hfailure, fun p size hp => ?_⟩
  rw [hslot] at hp
  cases hp

end Answer

/-- An extension that never fails for an event: what its `span` hook claims is a beginning of the
text that it was shown, and all values that its `path` hook gives come. -/
structure Extension.Sound (x : Extension) (e : Event) : Prop where
  span : ∀ t, ∃ s?, x.span e t = .ok s? ∧ ∀ s ∈ s?, (Text.charsIn? s.consumed t).isSome
  path : ∀ path, ∀ p ∈ x.path e path, ∃ value, p.outcome = .ok value

namespace Formatter

variable {f : Formatter} {e : Event} {n : Nat} {t : Text} {a : Answer}

lemma Decides.succeeds (h : f.Decides e n t a) (hsound : ∀ x ∈ f.extensions, x.Sound e) :
    a.Succeeds := by
  cases h with
  | builtin | span | value => exact Answer.succeeds_of_ready rfl rfl
  | declined | unmatched => exact Answer.succeeds_of_none rfl rfl
  | failure hname hfirst hspan =>
    obtain ⟨s?, hs, -⟩ := (hsound _ hfirst.mem).span t
    rw [hspan] at hs
    cases hs
  | refused hname hfirst hspan hzero hborder =>
    obtain ⟨s?, hs, hvalid⟩ := (hsound _ hfirst.mem).span t
    rw [hspan] at hs
    cases hs
    exact absurd (Text.isSome_charsIn?_iff.1 (hvalid _ rfl)) hborder
  | path hname hpass hparse hfirst =>
    refine ⟨rfl, ?_⟩
    intro p size hslot
    cases hslot
    exact (hsound _ hfirst.mem).path _ _ hfirst.path_eq

/-- Without extensions, none of them fails. -/
lemma sound_of_nil (hf : f.extensions = []) : ∀ x ∈ f.extensions, x.Sound e := by simp [hf]

/-- Without an extension that fails, nothing does. -/
lemma answer_succeeds (h : ∀ x ∈ f.extensions, x.Sound e) (n : Nat) (t : Text) :
    (f.answer e n t).Succeeds := (f.decides_answer e n t).succeeds h

end Formatter
end RuleTemplate
