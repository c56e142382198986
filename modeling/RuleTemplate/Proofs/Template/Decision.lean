import RuleTemplate.Proofs.Text.Border
import RuleTemplate.Template.Answer

/-!
# What decides at a marker

Behind a marker without a built-in name the extensions are asked in their order: first all `span`
hooks, and if none of them answers and a placeholder is there, all `path` hooks.
`Formatter.Decides` says in these words what a marker means, one case for each way to come to an
answer, without the functions that find it (`Formatter.decides_iff`). What holds of all answers is
proved by these cases.
-/

namespace RuleTemplate

/-! ## Hooks -/

/-- The extension `x` is the first one whose `span` hook does not pass on a text. -/
def Extension.SpeaksFirst (x : Extension) (e : Event) (behind : Text)
    (extensions : List Extension) : Prop :=
  ∃ before after, extensions = before ++ x :: after ∧ (∀ y ∈ before, y.span e behind = .ok none) ∧
    x.span e behind ≠ .ok none

/-- The extension `x` is the first one whose `path` hook claims a path, and `p` is what it puts in
place. -/
def Extension.ClaimsFirst (x : Extension) (e : Event) (path : List Text) (p : Pending)
    (extensions : List Extension) : Prop :=
  ∃ before after, extensions = before ++ x :: after ∧ (∀ y ∈ before, y.path e path = none) ∧
    x.path e path = some p

namespace Extension

variable {x y : Extension} {e : Event} {behind : Text} {ys : List Extension}

lemma not_speaksFirst_nil : ¬ x.SpeaksFirst e behind [] := by
  rintro ⟨before, after, h, -⟩
  cases before <;> cases h

/-- A hook that passes leaves it to the others. -/
lemma speaksFirst_cons_of_eq (h : y.span e behind = .ok none) :
    x.SpeaksFirst e behind (y :: ys) ↔ x.SpeaksFirst e behind ys := by
  constructor
  · rintro ⟨before, after, hsplit, hbefore, hx⟩
    cases before with
    | nil =>
      cases hsplit
      exact absurd h hx
    | cons z before =>
      cases hsplit
      exact ⟨before, after, rfl, fun y hy => hbefore y (List.mem_cons_of_mem _ hy), hx⟩
  · rintro ⟨before, after, rfl, hbefore, hx⟩
    refine ⟨y :: before, after, rfl, ?_, hx⟩
    intro z hz
    rcases List.mem_cons.1 hz with rfl | hz
    · exact h
    · exact hbefore z hz

lemma speaksFirst_cons_of_ne (h : y.span e behind ≠ .ok none) :
    x.SpeaksFirst e behind (y :: ys) ↔ x = y := by
  constructor
  · rintro ⟨before, after, hsplit, hbefore, -⟩
    cases before with
    | nil =>
      cases hsplit
      rfl
    | cons z before =>
      cases hsplit
      exact absurd (hbefore y (List.mem_cons_self ..)) h
  · rintro rfl
    exact ⟨[], ys, rfl, nofun, h⟩

/-- The extension that claims first is one of them. -/
lemma ClaimsFirst.mem {extensions : List Extension} {path : List Text} {p : Pending}
    (h : x.ClaimsFirst e path p extensions) : x ∈ extensions := by
  obtain ⟨before, after, rfl, -⟩ := h
  exact List.mem_append_right _ (List.mem_cons_self ..)

lemma ClaimsFirst.path_eq {extensions : List Extension} {path : List Text} {p : Pending}
    (h : x.ClaimsFirst e path p extensions) : x.path e path = some p := by
  obtain ⟨before, after, -, -, hpath⟩ := h
  exact hpath

/-- The extension that speaks first is one of them. -/
lemma SpeaksFirst.mem {extensions : List Extension} (h : x.SpeaksFirst e behind extensions) :
    x ∈ extensions := by
  obtain ⟨before, after, rfl, -⟩ := h
  exact List.mem_append_right _ (List.mem_cons_self ..)

end Extension

/-! ## Markers -/

/-- What the text behind the marker at an offset means, by the order of the chain. -/
inductive Formatter.Decides (f : Formatter) (e : Event) (offset : Nat) (behind : Text) :
    Answer → Prop
  /-- A built-in name comes before all hooks. -/
  | builtin {b : Builtin} (hname : Builtin.find? behind = some b) :
    Decides f e offset behind (.builtin b (b.value? f.links e))
  /-- The first `span` hook that answers fails. -/
  | failure {x : Extension} {error : FormatError} (hname : Builtin.find? behind = none)
    (hfirst : x.SpeaksFirst e behind f.extensions) (hspan : x.span e behind = .error error) :
    Decides f e offset behind (.failure error)
  /-- It claims no bytes. -/
  | declined {x : Extension} {s : SpanMatch} (hname : Builtin.find? behind = none)
    (hfirst : x.SpeaksFirst e behind f.extensions) (hspan : x.span e behind = .ok (some s))
    (hzero : s.consumed = 0) :
    Decides f e offset behind .declined
  /-- It claims bytes that are no beginning of the text. -/
  | refused {x : Extension} {s : SpanMatch} (hname : Builtin.find? behind = none)
    (hfirst : x.SpeaksFirst e behind f.extensions) (hspan : x.span e behind = .ok (some s))
    (hzero : s.consumed ≠ 0) (hborder : ¬ behind.IsBorder s.consumed) :
    Decides f e offset behind (.failure (.invalidSpan offset s.consumed))
  /-- It claims a beginning of the text. -/
  | span {x : Extension} {s : SpanMatch} (hname : Builtin.find? behind = none)
    (hfirst : x.SpeaksFirst e behind f.extensions) (hspan : x.span e behind = .ok (some s))
    (hzero : s.consumed ≠ 0) (hborder : behind.IsBorder s.consumed) :
    Decides f e offset behind (.span s)
  /-- No `span` hook answers, and no placeholder is there. -/
  | unmatched (hname : Builtin.find? behind = none)
    (hpass : ∀ x ∈ f.extensions, x.span e behind = .ok none)
    (hparse : Placeholder.parse? behind = none) :
    Decides f e offset behind .unmatched
  /-- No `span` hook answers, and a `path` hook claims the placeholder that is there. -/
  | path {x : Extension} {placeholder : Placeholder} {p : Pending}
    (hname : Builtin.find? behind = none)
    (hpass : ∀ x ∈ f.extensions, x.span e behind = .ok none)
    (hparse : Placeholder.parse? behind = some placeholder)
    (hfirst : x.ClaimsFirst e placeholder.path p f.extensions) :
    Decides f e offset behind (.path placeholder p)
  /-- No hook claims the placeholder, so the event is asked. -/
  | value {placeholder : Placeholder} {node? : Option Node} {remaining : List Text}
    (hname : Builtin.find? behind = none)
    (hpass : ∀ x ∈ f.extensions, x.span e behind = .ok none)
    (hparse : Placeholder.parse? behind = some placeholder)
    (hsilent : ∀ x ∈ f.extensions, x.path e placeholder.path = none)
    (hresolve : (Node.record (.event e)).resolve placeholder.path = (node?, remaining)) :
    Decides f e offset behind (.value placeholder (node?.bind Node.text?) remaining)

namespace Formatter

variable {f : Formatter} {e : Event} {offset : Nat} {behind : Text} {a : Answer}
  {xs : List Extension} {x : Extension}

/-! ### The functions, step by step -/

/-- The first hook that does not pass gives the answer. -/
lemma spanAnswer?_eq_some_iff :
    spanAnswer? e offset behind xs = some a ↔ ∃ x : Extension, x.SpeaksFirst e behind xs ∧
      ((∃ error, x.span e behind = .error error ∧ a = .failure error) ∨
        ∃ s, x.span e behind = .ok (some s) ∧ a = ofSpan offset behind s) := by
  induction xs with
  | nil =>
    constructor
    · intro h
      cases h
    · rintro ⟨x, hfirst, -⟩
      exact absurd hfirst Extension.not_speaksFirst_nil
  | cons y ys ih =>
    unfold spanAnswer?
    cases hy : y.span e behind with
    | error error =>
      have hne : y.span e behind ≠ .ok none := by simp [hy]
      simp [Extension.speaksFirst_cons_of_ne hne, hy, eq_comm]
    | ok s? =>
      cases s? with
      | some s =>
        have hne : y.span e behind ≠ .ok none := by simp [hy]
        simp [Extension.speaksFirst_cons_of_ne hne, hy, eq_comm]
      | none => simp only [Extension.speaksFirst_cons_of_eq hy, ih]

lemma spanAnswer?_eq_none_iff (offset : Nat) :
    spanAnswer? e offset behind xs = none ↔ ∀ x ∈ xs, x.span e behind = .ok none := by
  induction xs with
  | nil => exact ⟨fun _ => nofun, fun _ => rfl⟩
  | cons y ys ih =>
    unfold spanAnswer?
    rw [List.forall_mem_cons, ← ih]
    cases hy : y.span e behind with
    | error error => exact ⟨nofun, fun h => nomatch h.1⟩
    | ok s? =>
      cases s? with
      | some s => exact ⟨nofun, fun h => nomatch h.1⟩
      | none => exact ⟨fun h => ⟨rfl, h⟩, fun h => h.2⟩

/-- One extension is the first to speak, unless all pass. -/
lemma exists_speaksFirst (h : ¬ ∀ x ∈ xs, x.span e behind = .ok none) :
    ∃ x : Extension, x.SpeaksFirst e behind xs := by
  rw [← spanAnswer?_eq_none_iff 0] at h
  obtain ⟨a, ha⟩ := Option.ne_none_iff_exists'.1 h
  obtain ⟨x, hfirst, -⟩ := spanAnswer?_eq_some_iff.1 ha
  exact ⟨x, hfirst⟩

lemma ofSpan_of_not_isBorder {s : SpanMatch} (hzero : s.consumed ≠ 0)
    (hborder : ¬ behind.IsBorder s.consumed) :
    ofSpan offset behind s = .failure (.invalidSpan offset s.consumed) := by
  rw [← Text.isSome_charsIn?_iff, Bool.not_eq_true, Option.isSome_eq_false_iff,
    Option.isNone_iff_eq_none] at hborder
  unfold ofSpan
  rw [if_neg hzero, hborder]

lemma ofSpan_of_isBorder {s : SpanMatch} (hzero : s.consumed ≠ 0)
    (hborder : behind.IsBorder s.consumed) : ofSpan offset behind s = .span s := by
  rw [← Text.isSome_charsIn?_iff] at hborder
  obtain ⟨k, hk⟩ := Option.isSome_iff_exists.1 hborder
  unfold ofSpan
  rw [if_neg hzero, hk]

lemma answer_of_builtin {b : Builtin} (hname : Builtin.find? behind = some b) :
    f.answer e offset behind = .builtin b (b.value? f.links e) := by
  unfold answer
  rw [hname]

/-- The answer of the `span` hooks comes before all that is behind them. -/
lemma answer_of_span (hname : Builtin.find? behind = none)
    (hspan : spanAnswer? e offset behind f.extensions = some a) :
    f.answer e offset behind = a := by
  unfold answer
  rw [hname, hspan]

lemma answer_of_failure {error : FormatError} (hname : Builtin.find? behind = none)
    (hfirst : x.SpeaksFirst e behind f.extensions) (hspan : x.span e behind = .error error) :
    f.answer e offset behind = .failure error :=
  answer_of_span hname (spanAnswer?_eq_some_iff.2 ⟨x, hfirst, .inl ⟨error, hspan, rfl⟩⟩)

lemma answer_of_claim {s : SpanMatch} (hname : Builtin.find? behind = none)
    (hfirst : x.SpeaksFirst e behind f.extensions) (hspan : x.span e behind = .ok (some s)) :
    f.answer e offset behind = ofSpan offset behind s :=
  answer_of_span hname (spanAnswer?_eq_some_iff.2 ⟨x, hfirst, .inr ⟨s, hspan, rfl⟩⟩)

/-- When all `span` hooks pass, the placeholder decides. -/
lemma answer_of_unmatched (hname : Builtin.find? behind = none)
    (hpass : ∀ x ∈ f.extensions, x.span e behind = .ok none)
    (hparse : Placeholder.parse? behind = none) : f.answer e offset behind = .unmatched := by
  unfold answer
  rw [hname, (spanAnswer?_eq_none_iff offset).2 hpass, hparse]

lemma answer_of_placeholder {p : Placeholder} (hname : Builtin.find? behind = none)
    (hpass : ∀ x ∈ f.extensions, x.span e behind = .ok none)
    (hparse : Placeholder.parse? behind = some p) :
    f.answer e offset behind = f.pathAnswer e p := by
  unfold answer
  rw [hname, (spanAnswer?_eq_none_iff offset).2 hpass, hparse]

/-! ### The cases -/

lemma decides_of_pass (hname : Builtin.find? behind = none)
    (hpass : ∀ x ∈ f.extensions, x.span e behind = .ok none) :
    f.Decides e offset behind (f.answer e offset behind) := by
  cases hparse : Placeholder.parse? behind with
  | none =>
    rw [answer_of_unmatched hname hpass hparse]
    exact .unmatched hname hpass hparse
  | some p =>
    rw [answer_of_placeholder hname hpass hparse]
    unfold pathAnswer
    split
    · next pending hpath =>
      obtain ⟨before, x, after, hsplit, hx, hbefore⟩ := List.findSome?_eq_some_iff.1 hpath
      exact .path hname hpass hparse ⟨before, after, hsplit, hbefore, hx⟩
    · next hpath => exact .value hname hpass hparse (List.findSome?_eq_none_iff.1 hpath) rfl

lemma decides_of_speaksFirst (hname : Builtin.find? behind = none)
    (hfirst : x.SpeaksFirst e behind f.extensions) :
    f.Decides e offset behind (f.answer e offset behind) := by
  cases hspan : x.span e behind with
  | error error =>
    rw [answer_of_failure hname hfirst hspan]
    exact .failure hname hfirst hspan
  | ok s? =>
    cases s? with
    | none =>
      obtain ⟨-, -, -, -, hspeaks⟩ := hfirst
      exact absurd hspan hspeaks
    | some s =>
      rw [answer_of_claim hname hfirst hspan]
      by_cases hzero : s.consumed = 0
      · rw [ofSpan, if_pos hzero]
        exact .declined hname hfirst hspan hzero
      · by_cases hborder : behind.IsBorder s.consumed
        · rw [ofSpan_of_isBorder hzero hborder]
          exact .span hname hfirst hspan hzero hborder
        · rw [ofSpan_of_not_isBorder hzero hborder]
          exact .refused hname hfirst hspan hzero hborder

/-- The answer that is given is one by the chain. -/
lemma decides_answer (f : Formatter) (e : Event) (offset : Nat) (behind : Text) :
    f.Decides e offset behind (f.answer e offset behind) := by
  cases hname : Builtin.find? behind with
  | some b =>
    rw [answer_of_builtin hname]
    exact .builtin hname
  | none =>
    by_cases hpass : ∀ x ∈ f.extensions, x.span e behind = .ok none
    · exact decides_of_pass hname hpass
    · obtain ⟨x, hfirst⟩ := exists_speaksFirst hpass
      exact decides_of_speaksFirst hname hfirst

/-- There is no other answer by the chain. -/
lemma Decides.answer_eq (h : f.Decides e offset behind a) : f.answer e offset behind = a := by
  cases h with
  | builtin hname => exact answer_of_builtin hname
  | failure hname hfirst hspan => exact answer_of_failure hname hfirst hspan
  | declined hname hfirst hspan hzero =>
    rw [answer_of_claim hname hfirst hspan, ofSpan, if_pos hzero]
  | refused hname hfirst hspan hzero hborder =>
    rw [answer_of_claim hname hfirst hspan, ofSpan_of_not_isBorder hzero hborder]
  | span hname hfirst hspan hzero hborder =>
    rw [answer_of_claim hname hfirst hspan, ofSpan_of_isBorder hzero hborder]
  | unmatched hname hpass hparse => exact answer_of_unmatched hname hpass hparse
  | path hname hpass hparse hfirst =>
    obtain ⟨before, after, hsplit, hbefore, hx⟩ := hfirst
    have hpath := List.findSome?_eq_some_iff.2 ⟨before, _, after, hsplit, hx, hbefore⟩
    rw [answer_of_placeholder hname hpass hparse]
    unfold pathAnswer
    rw [hpath]
  | value hname hpass hparse hsilent hresolve =>
    rw [answer_of_placeholder hname hpass hparse]
    unfold pathAnswer
    rw [List.findSome?_eq_none_iff.2 hsilent, hresolve]

/-- What the chain says is what the functions find out. -/
lemma decides_iff : f.Decides e offset behind a ↔ a = f.answer e offset behind := by
  constructor
  · intro h
    exact h.answer_eq.symm
  · rintro rfl
    exact decides_answer f e offset behind

end Formatter
end RuleTemplate
