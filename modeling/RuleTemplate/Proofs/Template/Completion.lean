import Mathlib.Data.List.Forall2
import RuleTemplate.Proofs.Template.Reading

/-!
# The order of completion

Hooks say what a placeholder is replaced by, and each value needs its own number of polls until it
is ready. `SameButPolls` relates what differs in nothing but these numbers.

* `Formatter.scan_sameButPolls`: they change no part of a scan.
* `Scan.exists_result_eq_ok`: the text of a scan is that of waiting for one value after the other.
* `Scan.exists_result_eq_error`: an error is one of those that the values fail with.
* `Scan.exists_failsFirst_of_result`: of up to `Pending.roundLimit` values it is the error of the
  one that fails first.
-/

namespace RuleTemplate

/-! ## What differs in polls only -/

/-- The hooks of two extensions agree in all but the polls that values need. -/
structure Extension.SameButPolls (x y : Extension) : Prop where
  span : x.span = y.span
  path : ∀ e path, (x.path e path).map (·.outcome) = (y.path e path).map (·.outcome)

/-- Two formatters agree in all but the polls that values need. -/
structure Formatter.SameButPolls (f g : Formatter) : Prop where
  links : f.links = g.links
  engine : f.engine = g.engine
  extensions : List.Forall₂ Extension.SameButPolls f.extensions g.extensions

/-- Two answers agree in all but the polls that the value of a path needs. -/
inductive Answer.SameButPolls : Answer → Answer → Prop
  | refl (a : Answer) : SameButPolls a a
  | path (placeholder : Placeholder) {p q : Pending} (h : p.outcome = q.outcome) :
    SameButPolls (.path placeholder p) (.path placeholder q)

/-- Two scans agree in all but the polls that their values need. -/
structure Scan.SameButPolls (s s' : Scan) : Prop where
  literalStart : s'.literalStart = s.literalStart
  cursor : s'.cursor = s.cursor
  parts : s'.parts = s.parts
  failure : s'.failure = s.failure
  pending : s'.pending.map (·.outcome) = s.pending.map (·.outcome)

namespace Answer

variable {a b : Answer}

lemma SameButPolls.failure?_eq (h : a.SameButPolls b) : b.failure? = a.failure? := by
  cases h <;> rfl

lemma SameButPolls.slot?_eq (h : a.SameButPolls b) :
    b.slot?.map (fun s => (s.1.outcome, s.2)) = a.slot?.map (fun s => (s.1.outcome, s.2)) := by
  cases h with
  | refl => rfl
  | path placeholder h => simp [slot?, h]

end Answer

/-- An extension agrees with itself. -/
lemma Extension.SameButPolls.refl (x : Extension) : x.SameButPolls x := ⟨rfl, fun _ _ => rfl⟩

namespace Formatter

variable {f g : Formatter} {e : Event} {n : Nat} {t : Text}

lemma SameButPolls.refl (f : Formatter) : f.SameButPolls f where
  links := rfl
  engine := rfl
  extensions := List.forall₂_same.2 fun x _ => .refl x

lemma spanAnswer?_eq_of_sameButPolls {xs ys : List Extension}
    (h : List.Forall₂ Extension.SameButPolls xs ys) :
    spanAnswer? e n t ys = spanAnswer? e n t xs := by
  induction h with
  | nil => rfl
  | cons hx _ ih => rw [spanAnswer?, spanAnswer?, hx.span, ih]

/-- The same extension claims a path. -/
lemma findSome?_eq_of_sameButPolls {xs ys : List Extension} (path : List Text)
    (h : List.Forall₂ Extension.SameButPolls xs ys) :
    (ys.findSome? fun x => x.path e path).map (·.outcome)
      = (xs.findSome? fun x => x.path e path).map (·.outcome) := by
  -- hooks that agree are silent on the same paths, so the first to speak stands at the same place
  induction h with
  | nil => rfl
  | @cons x y xs ys hx _ ih =>
    have hpath := hx.path e path
    rw [List.findSome?_cons, List.findSome?_cons]
    cases hxp : x.path e path with
    | none =>
      rw [hxp, Option.map_none, eq_comm, Option.map_eq_none_iff] at hpath
      rw [hpath]
      exact ih
    | some p =>
      rw [hxp, Option.map_some, eq_comm, Option.map_eq_some_iff] at hpath
      obtain ⟨q, hq, hout⟩ := hpath
      rw [hq]
      exact congrArg some hout

lemma pathAnswer_sameButPolls (h : f.SameButPolls g) (placeholder : Placeholder) :
    (f.pathAnswer e placeholder).SameButPolls (g.pathAnswer e placeholder) := by
  have hfind := findSome?_eq_of_sameButPolls (e := e) placeholder.path h.extensions
  unfold pathAnswer
  cases hf : f.extensions.findSome? fun x => x.path e placeholder.path with
  | none =>
    rw [hf, Option.map_none, Option.map_eq_none_iff] at hfind
    rw [hfind]
    exact .refl _
  | some p =>
    rw [hf, Option.map_some, Option.map_eq_some_iff] at hfind
    obtain ⟨q, hq, hout⟩ := hfind
    rw [hq]
    exact .path placeholder hout.symm

/-- The text behind a marker means the same, whatever polls are needed. -/
lemma answer_sameButPolls (h : f.SameButPolls g) (e : Event) (n : Nat) (t : Text) :
    (f.answer e n t).SameButPolls (g.answer e n t) := by
  unfold answer
  rw [← h.links, spanAnswer?_eq_of_sameButPolls h.extensions]
  split
  · exact .refl _
  · split
    · exact .refl _
    · split
      · exact .refl _
      · exact pathAnswer_sameButPolls h _

end Formatter

namespace Scan

variable {s s' : Scan} {t : Text}

lemma SameButPolls.refl (s : Scan) : s.SameButPolls s := ⟨rfl, rfl, rfl, rfl, rfl⟩

lemma SameButPolls.close (h : s.SameButPolls s') : (s.close t).SameButPolls (s'.close t) where
  literalStart := h.literalStart
  cursor := h.cursor
  parts := by rw [Scan.close, Scan.close, h.parts, h.literalStart]
  failure := h.failure
  pending := h.pending

lemma SameButPolls.fail (h : s.SameButPolls s') (error : FormatError) :
    { s with failure := some error }.SameButPolls { s' with failure := some error } where
  literalStart := h.literalStart
  cursor := h.cursor
  parts := h.parts
  failure := rfl
  pending := h.pending

/-- A marker that means the same leaves scans that agree. -/
lemma SameButPolls.visit {a b : Answer} (h : s.SameButPolls s') (hab : a.SameButPolls b)
    (offset : Nat) : (s.visit t offset a).SameButPolls (s'.visit t offset b) := by
  have hslot := hab.slot?_eq
  unfold Scan.visit
  cases ha : a.slot? with
  | none =>
    rw [ha, Option.map_none, Option.map_eq_none_iff] at hslot
    rw [hslot]
    exact ⟨rfl, rfl, by rw [h.parts, h.literalStart], h.failure, h.pending⟩
  | some slot =>
    obtain ⟨p, consumed⟩ := slot
    rw [ha, Option.map_some, Option.map_eq_some_iff] at hslot
    obtain ⟨⟨q, consumed'⟩, hb, heq⟩ := hslot
    obtain ⟨hout, rfl⟩ := Prod.mk.inj heq
    rw [hb]
    refine ⟨rfl, rfl, by rw [h.parts, h.literalStart], h.failure, ?_⟩
    simp only [List.map_append, List.map_cons, List.map_nil, h.pending]
    rw [hout]

/-- Scans that agree and see answers that agree go on agreeing until the end. -/
lemma simulation_sameButPolls (t : Text) :
    Simulation t SameButPolls Answer.SameButPolls where
  cursor := SameButPolls.cursor
  failure? := Answer.SameButPolls.failure?_eq
  close := SameButPolls.close
  fail error h := h.fail error
  visit offset h ha := h.visit ha offset

end Scan

/-- Formatters that agree in all but polls find the same parts, and values with the same
outcomes. -/
lemma Formatter.scan_sameButPolls {f g : Formatter} (h : f.SameButPolls g) (e : Event) (t : Text) :
    (f.scan e t).SameButPolls (g.scan e t) :=
  (Scan.simulation_sameButPolls t).run (answer_sameButPolls h e) (Scan.SameButPolls.refl _)

/-! ## Results -/

/-- Waiting for one value after the other takes no notice of polls. -/
lemma Pending.oneByOne_congr {ps qs : List Pending} (h : ps.map (·.outcome) = qs.map (·.outcome)) :
    oneByOne ps = oneByOne qs := by
  -- both are gathered from the list of outcomes
  have hmap : ∀ rs : List Pending, oneByOne rs = (rs.map (·.outcome)).mapM id := by
    intro rs
    rw [List.mapM_map]
    rfl
  rw [hmap, hmap, h]

namespace Scan

variable {s : Scan}

/-- When all values come, the text is that of waiting for one after the other. -/
lemma exists_result_eq_ok (hfailure : s.failure = none)
    (hok : ∀ p ∈ s.pending, ∃ value, p.outcome = .ok value) :
    ∃ values, Pending.oneByOne s.pending = .ok values
      ∧ s.result = .ok (assemble s.parts values) := by
  cases hone : Pending.oneByOne s.pending with
  | error error =>
    obtain ⟨p, hp, herror⟩ := Results.exists_of_mapM_eq_error hone
    obtain ⟨value, hv⟩ := hok p hp
    rw [hv] at herror
    cases herror
  | ok values =>
    refine ⟨values, rfl, ?_⟩
    rw [result, hfailure, Pending.join_eq_oneByOne hok, hone]
    rfl

/-- When some values fail, there is no text but the error of one of them. -/
lemma exists_result_eq_error (hfailure : s.failure = none)
    (h : ∃ p ∈ s.pending, ∃ error, p.outcome = .error error) :
    ∃ p ∈ s.pending, ∃ error, p.outcome = .error error ∧ s.result = .error error := by
  obtain ⟨p, hp, error, hout, hjoin⟩ := Pending.exists_failure_of_join h
  refine ⟨p, hp, error, hout, ?_⟩
  rw [result, hfailure, hjoin]
  rfl

/-- When few values are waited for, the error is that of the value that fails first. -/
lemma exists_failsFirst_of_result (hfailure : s.failure = none)
    (hlength : s.pending.length ≤ Pending.roundLimit)
    (h : ∃ p ∈ s.pending, ∃ error, p.outcome = .error error) :
    ∃ i error, Pending.FailsFirst s.pending i error ∧ s.result = .error error := by
  obtain ⟨i, error, hfirst⟩ := Pending.exists_failsFirst h
  refine ⟨i, error, hfirst, ?_⟩
  rw [result, hfailure, Pending.join_eq_error_of_failsFirst hlength hfirst]
  rfl

end Scan

deriving instance DecidableEq for Pending

/-- A formatter with two paths that fail: `a` after two polls, and `b` after one. -/
def Formatter.failing : Formatter where
  links := .below []
  engine := .disabled
  extensions :=
    [.ofRules none (some ⟨some "a", .failure "late", 2⟩),
      .ofRules none (some ⟨some "b", .failure "early", 1⟩)]

namespace Formatter

variable {f : Formatter} {e : Event} {t : Text}

/-- What a text template is rendered as does not depend on the order in which its values become
ready. The scan `s` is the one of the template, but with any polls for each of its values. -/
theorem format_completion (hblank : Text.trim t ≠ [])
    (hscript : Script.body? (Text.trim t) = none) :
    (∀ g, f.SameButPolls g →
      g.format e t = (g.scan e t).result ∧ (f.scan e t).SameButPolls (g.scan e t)) ∧
    ∀ s, (f.scan e t).SameButPolls s →
      (∀ error, s.failure = some error → s.result = .error error) ∧
      (s.failure = none → (∀ p ∈ s.pending, ∃ value, p.outcome = .ok value) →
        ∃ values, Pending.oneByOne (f.scan e t).pending = .ok values ∧
          s.result = .ok (assemble (f.scan e t).parts values)) ∧
      (s.failure = none → (∃ p ∈ s.pending, ∃ error, p.outcome = .error error) →
        (∃ p ∈ s.pending, ∃ error, p.outcome = .error error ∧ s.result = .error error) ∧
        (s.pending.length ≤ 30 →
          ∃ i error, Pending.FailsFirst s.pending i error ∧ s.result = .error error)) := by
  constructor
  · intro g hg
    exact ⟨format_eq_result hblank hscript, scan_sameButPolls hg e t⟩
  · intro s hs
    refine ⟨?_, ?_, ?_⟩
    · intro error herror
      rw [Scan.result, herror]
    -- the values are those of the scan `s` and the parts too, so both can be taken from there
    · intro hfailure hok
      rw [← Pending.oneByOne_congr hs.pending, ← hs.parts]
      exact Scan.exists_result_eq_ok hfailure hok
    · intro hfailure hfails
      refine ⟨Scan.exists_result_eq_error hfailure hfails, ?_⟩
      intro hlength
      exact Scan.exists_failsFirst_of_result hfailure hlength hfails

/-- The right one of two values fails first. -/
theorem format_failing :
    failing.format .sample "$\x7bE_a\x7d $\x7bE_b\x7d" = .error (.extension "early") := by
  have hpending : (failing.scan .sample "$\x7bE_a\x7d $\x7bE_b\x7d").pending
      = [⟨2, .error (.extension "late")⟩, ⟨1, .error (.extension "early")⟩] := by decide +kernel
  obtain ⟨hformat, hscan⟩ := format_completion (f := failing) (e := .sample)
    (t := "$\x7bE_a\x7d $\x7bE_b\x7d") (by decide) (by decide)
  obtain ⟨-, -, hfails⟩ := hscan _ (.refl _)
  rw [hpending] at hfails
  obtain ⟨-, hfirst⟩ := hfails (by decide +kernel) ⟨_, List.mem_cons_self .., _, rfl⟩
  obtain ⟨i, error, ⟨polls, hi, hbefore⟩, hresult⟩ := hfirst (by decide)
  rw [(hformat failing (.refl _)).1, hresult]
  match i with
  | 0 =>
    -- the left one needs two polls, the right one only one
    cases hi
    have hright := hbefore 1 1 _ rfl
    omega
  | 1 =>
    cases hi
    rfl
  | _ + 2 => cases hi

end Formatter
end RuleTemplate
