import RuleTemplate.Proofs.Template.Reading
import RuleTemplate.Proofs.Text.Border

/-!
# The turns of a scan

A scan takes one marker in each turn of its loop. `Scan.After` holds of the states that it passes
through, with the number of turns before them, and `Scan.Ends` of the last of them and the result.

* `Scan.exists_ends`: every scan comes to an end after some turns.
* `Scan.Tidy`: each placeholder has a part and a value.
* `Scan.Inv`, `Scan.After.exists_inv`: what holds between any two turns, whatever the hooks claim.
* `Scan.Keeps`, `Formatter.keeps_scan`: a marker without a placeholder begins a part at its place.
-/

namespace RuleTemplate

/-! ## Markers -/

/-- A marker of the template at `offset`, with the text `behind` it. -/
def MarkerAt (t : Text) (offset : Nat) (behind : Text) : Prop :=
  ∃ before, t = before ++ marker :: behind ∧ Text.byteSize before = offset

namespace MarkerAt

variable {t behind behind' used rest : Text} {offset : Nat}

lemma dropBytes (h : MarkerAt t offset behind) : t.dropBytes (offset + 1) = behind := by
  obtain ⟨before, rfl, rfl⟩ := h
  have hsize : Text.byteSize before + 1 = Text.byteSize (before ++ [marker]) := by
    rw [Text.byteSize_append]
    rfl
  have hsplit : before ++ marker :: behind = (before ++ [marker]) ++ behind := by simp
  rw [hsize, hsplit, Text.dropBytes_byteSize_append]

lemma dropBytes_self (h : MarkerAt t offset behind) : t.dropBytes offset = marker :: behind := by
  obtain ⟨before, rfl, rfl⟩ := h
  exact Text.dropBytes_byteSize_append before (marker :: behind)

/-- At an offset there is one marker. -/
lemma unique (h : MarkerAt t offset behind) (h' : MarkerAt t offset behind') :
    behind = behind' := by
  rw [← h.dropBytes, h'.dropBytes]

/-- A marker stands between two characters, and so does what is behind it. -/
lemma isBorder (h : MarkerAt t offset behind) : t.IsBorder offset := by
  obtain ⟨before, rfl, rfl⟩ := h
  exact Text.isBorder_byteSize before (marker :: behind)

lemma isBorder_behind (h : MarkerAt t offset (used ++ rest)) :
    t.IsBorder (offset + 1 + Text.byteSize used) := by
  obtain ⟨before, rfl, rfl⟩ := h
  refine ⟨before ++ marker :: used, rest, by simp, ?_⟩
  rw [Text.byteSize_append, Text.byteSize_cons, ← Nat.add_assoc]
  rfl

/-- The marker and what it consumes. -/
lemma slice (h : MarkerAt t offset (used ++ rest)) :
    t.slice offset (offset + 1 + Text.byteSize used) = marker :: used := by
  obtain ⟨before, rfl, rfl⟩ := h
  have hstop : Text.byteSize before + 1 + Text.byteSize used
      = Text.byteSize (before ++ marker :: used) := by
    rw [Text.byteSize_append, Text.byteSize_cons, ← Nat.add_assoc]
    rfl
  rw [hstop, ← List.cons_append, Text.slice_byteSize]

end MarkerAt

/-! ## What was found -/

/-- What a part keeps of the template. -/
def Part.kept : Part → Text
  | .literal text => text
  | .pending => []

/-- Values go to the pending parts in their order. -/
lemma assemble_append {parts : List Part} {values : List (Option Text)} (parts' : List Part)
    (values' : List (Option Text)) (h : values.length = parts.count .pending) :
    assemble (parts ++ parts') (values ++ values')
      = assemble parts values ++ assemble parts' values' := by
  induction parts generalizing values with
  | nil => rw [List.length_eq_zero_iff.1 h]; rfl
  | cons part parts ih =>
    cases part with
    | literal text =>
      have hne : Part.literal text ≠ .pending := nofun
      rw [List.count_cons_of_ne hne] at h
      rw [List.cons_append, assemble, assemble, ih h, List.append_assoc]
    | pending =>
      rw [List.count_cons_self] at h
      cases values with
      | nil => cases h
      | cons value values =>
        rw [List.cons_append, List.cons_append, assemble, assemble, ih (Nat.succ.inj h),
          List.append_assoc]

/-- Values that no part is waiting for are left out. -/
lemma assemble_append_values {parts : List Part} {values : List (Option Text)}
    (values' : List (Option Text)) (h : parts.count .pending ≤ values.length) :
    assemble parts (values ++ values') = assemble parts values := by
  induction parts generalizing values with
  | nil => rfl
  | cons part parts ih =>
    cases part with
    | literal text =>
      have hne : Part.literal text ≠ .pending := nofun
      rw [List.count_cons_of_ne hne] at h
      rw [assemble, assemble, ih h]
    | pending =>
      rw [List.count_cons_self] at h
      cases values with
      | nil => cases h
      | cons value values =>
        rw [List.cons_append, assemble, assemble, ih (Nat.le_of_succ_le_succ h)]

namespace Scan

/-- The placeholders that were found, each with its marker. -/
def placeholders (s : Scan) (t : Text) : List Text :=
  s.visited.filterMap fun v => v.2.slot?.map fun slot => t.slice v.1 (v.1 + 1 + slot.2)

/-- What the parts keep of the template. -/
def literals (s : Scan) : Text := s.parts.flatMap Part.kept

lemma Adds.literals_eq {s r : Scan} {parts : List Part} {pending : List Pending}
    (h : Adds s r parts pending) : r.literals = s.literals ++ parts.flatMap Part.kept := by
  rw [literals, h.parts_eq, List.flatMap_append]
  rfl

/-- There is a pending part and a value for each placeholder. -/
structure Tidy (s : Scan) : Prop where
  pending_eq : s.pending = s.visited.filterMap fun v => v.2.slot?.map (·.1)
  count_pending : s.parts.count .pending = s.pending.length

variable {answer : Nat → Text → Answer} {s : Scan} {t : Text} {n offset : Nat} {a : Answer}

@[simp] lemma visited_visit (s : Scan) (t : Text) (offset : Nat) (a : Answer) :
    (s.visit t offset a).visited = s.visited ++ [(offset, a)] := by
  unfold visit
  split <;> rfl

lemma mem_visited_visit (s : Scan) (t : Text) (offset : Nat) (a : Answer) :
    (offset, a) ∈ (s.visit t offset a).visited := by
  rw [visited_visit]
  exact List.mem_append_right _ (List.mem_singleton.2 rfl)

@[simp] lemma failure_visit (s : Scan) (t : Text) (offset : Nat) (a : Answer) :
    (s.visit t offset a).failure = s.failure := by
  unfold visit
  split <;> rfl

lemma placeholders_visit (s : Scan) (t : Text) (offset : Nat) (a : Answer) :
    (s.visit t offset a).placeholders t = s.placeholders t
      ++ (a.slot?.map fun slot => t.slice offset (offset + 1 + slot.2)).toList := by
  rw [placeholders, visited_visit, List.filterMap_append]
  cases h : a.slot? <;> simp [placeholders, h]

lemma tidy_start : ({} : Scan).Tidy := ⟨rfl, rfl⟩

lemma Tidy.visit (h : s.Tidy) (t : Text) (offset : Nat) (a : Answer) :
    (s.visit t offset a).Tidy := by
  unfold Scan.visit
  cases ha : a.slot? with
  | none =>
    constructor
    · simp [ha, h.pending_eq]
    · simp [h.count_pending]
  | some slot =>
    constructor
    · simp [ha, h.pending_eq]
    · simp [h.count_pending]

lemma Tidy.close (h : s.Tidy) (t : Text) : (s.close t).Tidy where
  pending_eq := h.pending_eq
  count_pending := by simp [Scan.close, h.count_pending]

lemma Tidy.length_placeholders (h : s.Tidy) (t : Text) :
    (s.placeholders t).length = s.pending.length := by
  rw [h.pending_eq, placeholders]
  simp only [List.length_filterMap_eq_countP, Option.isSome_map]

/-! ## One turn after the other -/

/-- The answer at the marker at an offset. -/
abbrev answerAt (answer : Nat → Text → Answer) (t : Text) (offset : Nat) : Answer :=
  answer offset (t.dropBytes (offset + 1))

/-- The state of the scan of `t` after `n` turns, none of which has failed. -/
inductive After (answer : Nat → Text → Answer) (t : Text) : Nat → Scan → Prop
  | start : After answer t 0 {}
  | turn {n : Nat} {s : Scan} {offset : Nat} (h : After answer t n s)
    (hnext : s.next? t = some offset) (hok : (answerAt answer t offset).failure? = none) :
    After answer t (n + 1) (s.visit t offset (answerAt answer t offset))

/-- What the loop ends with, from the state before its last turn: there is no other marker, or the
next one fails. -/
inductive Ends (answer : Nat → Text → Answer) (t : Text) (s : Scan) : Scan → Prop
  | close (hnext : s.next? t = none) : Ends answer t s (s.close t)
  | fail {offset : Nat} {error : FormatError} (hnext : s.next? t = some offset)
    (hfailure : (answerAt answer t offset).failure? = some error) :
    Ends answer t s
      { s.visit t offset (answerAt answer t offset) with failure := some error }

/-- From every state on, the loop comes to an end. -/
lemma After.exists_ends (h : After answer t n s) :
    ∃ m s', After answer t m s' ∧ Ends answer t s' (s.run answer t) := by
  induction s using Scan.run.induct answer t generalizing n with
  | case1 s hnext =>
    rw [run_of_next?_eq_none hnext]
    exact ⟨n, s, h, .close hnext⟩
  | case2 s offset hnext a error =>
    rename_i hfailure
    rw [run_of_failure?_eq_some hnext hfailure]
    exact ⟨n, s, h, .fail hnext hfailure⟩
  | case3 s offset hnext a hok =>
    rename_i ih
    rw [run_of_failure?_eq_none hnext hok]
    exact ih (h.turn hnext hok)

lemma exists_ends (answer : Nat → Text → Answer) (t : Text) :
    ∃ n s, After answer t n s ∧ Ends answer t s (run answer t {}) := After.start.exists_ends

/-! ### Without looking at the template -/

lemma After.tidy (h : After answer t n s) : s.Tidy := by
  induction h with
  | start => exact tidy_start
  | turn _ _ _ ih => exact ih.visit t _ _

/-- Each turn takes one marker. -/
lemma After.length_visited (h : After answer t n s) : s.visited.length = n := by
  induction h with
  | start => rfl
  | turn _ _ _ ih => rw [visited_visit, List.length_append, ih, List.length_singleton]

lemma After.failure (h : After answer t n s) : s.failure = none := by
  induction h with
  | start => rfl
  | turn _ _ _ ih => rw [failure_visit, ih]

/-- No marker that the loop went on behind has failed. -/
lemma After.failure?_of_mem (h : After answer t n s) :
    ∀ v ∈ s.visited, v.2.failure? = none := by
  induction h with
  | start => exact nofun
  | turn _ _ hok ih =>
    intro v hv
    rw [visited_visit] at hv
    rcases List.mem_append.1 hv with hv | hv
    · exact ih v hv
    · rw [List.mem_singleton.1 hv]
      exact hok

/-! ### With the template -/

/-- Placeholders are beginnings of the text behind their markers, and their sizes are told right. -/
def Fits (answer : Nat → Text → Answer) : Prop :=
  ∀ offset behind p size, (answer offset behind).slot? = some (p, size) →
    ∃ used rest, behind = used ++ rest ∧ Text.byteSize used = size

/-- What holds after `n` turns of a scan that has found the parts of all but `held ++ rest` and
searches `rest` next. -/
structure Inv (answer : Nat → Text → Answer) (t : Text) (n : Nat) (s : Scan) (held rest : Text) :
    Prop where
  position : s.At t held rest
  /-- No marker is taken twice. -/
  turns : n + rest.count marker ≤ t.count marker
  /-- Nothing of the template is lost or moved. -/
  filled : assemble s.parts ((s.placeholders t).map some) ++ (held ++ rest) = t
  /-- The markers that stay are those without a placeholder. -/
  kept : (s.literals ++ held).count marker = s.visited.countP fun v => v.2.slot?.isNone
  /-- The answers are those to the text behind the markers. -/
  genuine : ∀ v ∈ s.visited, ∃ behind, MarkerAt t v.1 behind ∧ v.2 = answer v.1 behind

variable {held rest : Text}

/-- The next marker is the first one of the text that is searched next. -/
lemma At.exists_marker (h : s.At t held rest) (hnext : s.next? t = some offset) :
    ∃ before behind, rest = before ++ marker :: behind ∧ marker ∉ before
      ∧ offset = s.cursor + Text.byteSize before ∧ MarkerAt t offset behind := by
  by_cases hmem : marker ∈ rest
  · obtain ⟨before, behind, rfl, hbefore⟩ := List.eq_append_cons_of_mem hmem
    rw [h.next?_eq_some hbefore] at hnext
    obtain ⟨found, ht, -, hcursor⟩ := h
    refine ⟨before, behind, rfl, hbefore, (Option.some.inj hnext).symm, found ++ held ++ before,
      by simp [ht], ?_⟩
    rw [Text.byteSize_append _ before, ← hcursor]
    exact Option.some.inj hnext
  · rw [h.next?_eq_none hmem] at hnext
    cases hnext

lemma inv_start (answer : Nat → Text → Answer) (t : Text) : Inv answer t 0 {} [] t where
  position := at_start t
  turns := by rw [Nat.zero_add]
  filled := rfl
  kept := rfl
  genuine := nofun

lemma genuine_visit {behind : Text}
    (h : ∀ v ∈ s.visited, ∃ behind, MarkerAt t v.1 behind ∧ v.2 = answer v.1 behind)
    (hmarker : MarkerAt t offset behind) :
    ∀ v ∈ (s.visit t offset (answer offset behind)).visited,
      ∃ behind, MarkerAt t v.1 behind ∧ v.2 = answer v.1 behind := by
  intro v hv
  rw [visited_visit] at hv
  rcases List.mem_append.1 hv with hv | hv
  · exact h v hv
  · rw [List.mem_singleton.1 hv]
    exact ⟨behind, hmarker, rfl⟩

/-- A turn at a marker that stays. -/
lemma Inv.visit_of_none {before behind : Text}
    (h : Inv answer t n s held (before ++ marker :: behind))
    (htidy : s.Tidy) (hbefore : marker ∉ before)
    (hmarker : MarkerAt t (s.cursor + Text.byteSize before) behind)
    (ha : (answer (s.cursor + Text.byteSize before) behind).slot? = none) :
    Inv answer t (n + 1) (s.visit t (s.cursor + Text.byteSize before)
      (answer (s.cursor + Text.byteSize before) behind)) [marker] behind := by
  have hadds := h.position.adds_visit_of_none ha
  have hplaceholders : (s.visit t (s.cursor + Text.byteSize before)
      (answer (s.cursor + Text.byteSize before) behind)).placeholders t = s.placeholders t := by
    rw [placeholders_visit, ha]
    exact List.append_nil _
  constructor
  · exact h.position.visit_of_none ha
  · have hturns := h.turns
    simp only [List.count_append, List.count_cons_self] at hturns
    omega
  · have hlength : ((s.placeholders t).map some).length = s.parts.count .pending := by
      rw [List.length_map, htidy.length_placeholders, htidy.count_pending]
    have happend := assemble_append [.literal (held ++ before)] [] hlength
    rw [hadds.parts_eq, hplaceholders, ← List.append_nil ((s.placeholders t).map some), happend]
    simpa [assemble] using h.filled
  · have hcount := List.count_eq_zero.2 hbefore
    rw [hadds.literals_eq, visited_visit, List.countP_append, ← h.kept]
    simp [Part.kept, ha, hcount, Nat.add_assoc]
  · exact genuine_visit h.genuine hmarker

/-- A turn at a placeholder. -/
lemma Inv.visit_of_some {before used : Text} {p : Pending}
    (h : Inv answer t n s held (before ++ marker :: (used ++ rest))) (htidy : s.Tidy)
    (hbefore : marker ∉ before)
    (hmarker : MarkerAt t (s.cursor + Text.byteSize before) (used ++ rest))
    (ha : (answer (s.cursor + Text.byteSize before) (used ++ rest)).slot?
      = some (p, Text.byteSize used)) :
    Inv answer t (n + 1) (s.visit t (s.cursor + Text.byteSize before)
      (answer (s.cursor + Text.byteSize before) (used ++ rest))) [] rest := by
  have hadds := h.position.adds_visit_of_some ha
  have hplaceholders : (s.visit t (s.cursor + Text.byteSize before)
      (answer (s.cursor + Text.byteSize before) (used ++ rest))).placeholders t
        = s.placeholders t ++ [marker :: used] := by
    rw [placeholders_visit, ha, Option.map_some, hmarker.slice]
    rfl
  constructor
  · exact h.position.visit_of_some ha rfl
  · have hturns := h.turns
    simp only [List.count_append, List.count_cons_self] at hturns
    omega
  · have hlength : ((s.placeholders t).map some).length = s.parts.count .pending := by
      rw [List.length_map, htidy.length_placeholders, htidy.count_pending]
    have happend :=
      assemble_append [.literal (held ++ before), .pending] [some (marker :: used)] hlength
    rw [hadds.parts_eq, hplaceholders, List.map_append, List.map_singleton, happend]
    simpa [assemble] using h.filled
  · have hcount := List.count_eq_zero.2 hbefore
    rw [hadds.literals_eq, visited_visit, List.countP_append, ← h.kept]
    simp [Part.kept, ha, hcount]
  · exact genuine_visit h.genuine hmarker

/-- What holds between any two turns. -/
lemma After.exists_inv (hfits : Fits answer) (h : After answer t n s) :
    ∃ held rest, Inv answer t n s held rest := by
  induction h with
  | start => exact ⟨[], t, inv_start answer t⟩
  | @turn n s offset h hnext _ ih =>
    obtain ⟨held, rest, hinv⟩ := ih
    -- the turn takes the first marker of `rest`; its answer says where the search goes on
    obtain ⟨before, behind, rfl, hbefore, rfl, hmarker⟩ := hinv.position.exists_marker hnext
    rw [answerAt, hmarker.dropBytes]
    cases ha : (answer (s.cursor + Text.byteSize before) behind).slot? with
    | none => exact ⟨_, _, hinv.visit_of_none h.tidy hbefore hmarker ha⟩
    | some slot =>
      obtain ⟨p, size⟩ := slot
      obtain ⟨used, rest, rfl, rfl⟩ := hfits _ _ _ _ ha
      exact ⟨_, _, hinv.visit_of_some h.tidy hbefore hmarker ha⟩

/-! ### Markers that stay -/

/-- A literal part begins with the marker at `offset`: with each placeholder in its own place, the
parts before that one are the template up to the marker. -/
def Keeps (s : Scan) (t : Text) (offset : Nat) : Prop :=
  ∃ parts text parts', s.parts = parts ++ .literal (marker :: text) :: parts' ∧
    assemble parts ((s.placeholders t).map some) = t.slice 0 offset

/-- What is found later does not change it. -/
lemma Keeps.mono {r : Scan} {parts : List Part} {placeholders : List Text}
    (h : s.Keeps t offset) (htidy : s.Tidy) (hparts : r.parts = s.parts ++ parts)
    (hplaceholders : r.placeholders t = s.placeholders t ++ placeholders) :
    r.Keeps t offset := by
  obtain ⟨parts₁, text, parts₂, hs, htext⟩ := h
  have hcount : parts₁.count .pending ≤ ((s.placeholders t).map some).length := by
    have hall := htidy.count_pending
    rw [hs, List.count_append] at hall
    rw [List.length_map, htidy.length_placeholders]
    omega
  refine ⟨parts₁, text, parts₂ ++ parts, ?_, ?_⟩
  · rw [hparts, hs, List.append_assoc, List.cons_append]
  · rw [hplaceholders, List.map_append, assemble_append_values _ hcount, htext]

/-- The part that ends with a turn begins where the one before it has ended. -/
lemma exists_parts_visit (s : Scan) (t : Text) (offset : Nat) (a : Answer) :
    ∃ parts, (s.visit t offset a).parts
      = s.parts ++ .literal (t.slice s.literalStart offset) :: parts := by
  unfold visit
  cases a.slot? with
  | none => exact ⟨[], rfl⟩
  | some slot => exact ⟨[.pending], by simp⟩

lemma literalStart_visit_of_none (ha : a.slot? = none) :
    (s.visit t offset a).literalStart = offset ∧ (s.visit t offset a).cursor = offset + 1 := by
  unfold visit
  rw [ha]
  exact ⟨rfl, rfl⟩

/-- What was found is the template up to where the next part begins. -/
lemma Inv.assemble_eq (h : Inv answer t n s held rest) :
    assemble s.parts ((s.placeholders t).map some) = t.slice 0 s.literalStart := by
  obtain ⟨found, ht, hstart, -⟩ := h.position
  have hfound : assemble s.parts ((s.placeholders t).map some) = found :=
    List.append_cancel_right (h.filled.trans ht)
  rw [hfound, hstart, ht]
  exact (Text.slice_byteSize [] found (held ++ rest)).symm

/-- Between the last part and what is searched next there is one marker that stays. -/
lemma Inv.held_eq {behind : Text} (h : Inv answer t n s held rest)
    (hmarker : MarkerAt t offset behind) (hstart : s.literalStart = offset)
    (hcursor : s.cursor = offset + 1) : held = [marker] := by
  have hdrop := h.position.dropBytes_literalStart
  rw [hstart, hmarker.dropBytes_self] at hdrop
  obtain ⟨found, -, hliteral, hsum⟩ := h.position
  have hsize : Text.byteSize held = Text.byteSize [marker] := by
    rw [Text.byteSize_append] at hsum
    show _ = 1
    omega
  have hsplit : [marker] ++ behind = held ++ rest := hdrop
  have htake := congrArg (Text.takeBytes (Text.byteSize held)) hsplit
  rw [Text.takeBytes_byteSize_append, hsize, Text.takeBytes_byteSize_append] at htake
  exact htake.symm

/-- A marker that stays begins a part, or the text that is in no part yet. -/
lemma After.keeps (hfits : Fits answer) (h : After answer t n s) :
    ∀ v ∈ s.visited, v.2.slot? = none →
      s.Keeps t v.1 ∨ (s.literalStart = v.1 ∧ s.cursor = v.1 + 1) := by
  induction h with
  | start => exact nofun
  | @turn n s offset h hnext hok ih =>
    obtain ⟨held, rest, hinv⟩ := h.exists_inv hfits
    obtain ⟨before, behind, rfl, hbefore, rfl, -⟩ := hinv.position.exists_marker hnext
    intro v hv hslot
    rw [visited_visit] at hv
    rcases List.mem_append.1 hv with hv | hv
    · refine .inl ?_
      obtain ⟨parts, hparts⟩ := exists_parts_visit s t (s.cursor + Text.byteSize before)
        (answerAt answer t (s.cursor + Text.byteSize before))
      have hplaceholders := placeholders_visit s t (s.cursor + Text.byteSize before)
        (answerAt answer t (s.cursor + Text.byteSize before))
      rcases ih v hv hslot with hkept | ⟨hstart, hcursor⟩
      · exact hkept.mono h.tidy hparts hplaceholders
      · -- the marker is what is held, and this turn makes a part of it
        obtain ⟨behind', hmarker, -⟩ := hinv.genuine v hv
        have hheld : held = [marker] := hinv.held_eq hmarker hstart hcursor
        rw [hinv.position.slice, hheld] at hparts
        have hcount : s.parts.count .pending ≤ ((s.placeholders t).map some).length := by
          rw [List.length_map, h.tidy.length_placeholders, h.tidy.count_pending]
        refine ⟨s.parts, before, parts, hparts, ?_⟩
        rw [hplaceholders, List.map_append, assemble_append_values _ hcount, hinv.assemble_eq,
          hstart]
    · rw [List.mem_singleton.1 hv] at hslot ⊢
      exact .inr (literalStart_visit_of_none hslot)

/-- At the end, each marker that stays begins a part. -/
lemma Ends.keeps {r : Scan} (hfits : Fits answer) (h : After answer t n s)
    (hends : Ends answer t s r) (hr : r.failure = none) :
    ∀ v ∈ r.visited, v.2.slot? = none → r.Keeps t v.1 := by
  cases hends with
  | fail => cases hr
  | close =>
    intro v hv hslot
    rcases h.keeps hfits v hv hslot with hkept | ⟨hstart, -⟩
    · exact hkept.mono h.tidy rfl (List.append_nil _).symm
    · obtain ⟨held, rest, hinv⟩ := h.exists_inv hfits
      obtain ⟨behind, hmarker, -⟩ := hinv.genuine v hv
      refine ⟨s.parts, behind, [], ?_, ?_⟩
      · rw [Scan.close, hstart, hmarker.dropBytes_self]
      · rw [← hstart]
        exact hinv.assemble_eq

/-! ### The end -/

/-- A scan that has come to its end keeps a pending part and a value for each placeholder. -/
lemma Ends.tidy {r : Scan} (h : After answer t n s) (hends : Ends answer t s r) : r.Tidy := by
  cases hends with
  | close => exact h.tidy.close t
  | fail => exact ⟨(h.tidy.visit t _ _).pending_eq, (h.tidy.visit t _ _).count_pending⟩

lemma Ends.genuine {r : Scan} (hfits : Fits answer) (h : After answer t n s)
    (hends : Ends answer t s r) :
    ∀ v ∈ r.visited, ∃ behind, MarkerAt t v.1 behind ∧ v.2 = answer v.1 behind := by
  obtain ⟨held, rest, hinv⟩ := h.exists_inv hfits
  cases hends with
  | close => exact hinv.genuine
  | fail hnext =>
    obtain ⟨-, behind, -, -, -, hmarker⟩ := hinv.position.exists_marker hnext
    rw [answerAt, hmarker.dropBytes]
    exact genuine_visit hinv.genuine hmarker

/-- The marker that ended the scan is the only one that has failed. -/
lemma Ends.failure_iff {r : Scan} {error : FormatError} (h : After answer t n s)
    (hends : Ends answer t s r) :
    r.failure = some error ↔ ∃ v ∈ r.visited, v.2.failure? = some error := by
  cases hends with
  | close =>
    have hnone : (s.close t).failure = none := h.failure
    rw [hnone]
    refine ⟨nofun, ?_⟩
    rintro ⟨v, hv, hfailure⟩
    rw [h.failure?_of_mem v hv] at hfailure
    cases hfailure
  | fail hnext hfailure =>
    constructor
    · intro heq
      cases heq
      exact ⟨_, mem_visited_visit .., hfailure⟩
    · rintro ⟨v, hv, hv'⟩
      rw [visited_visit] at hv
      rcases List.mem_append.1 hv with hv | hv
      · rw [h.failure?_of_mem v hv] at hv'
        cases hv'
      · rw [List.mem_singleton.1 hv, hfailure] at hv'
        exact hv'

lemma Ends.exists_last {r : Scan} {error : FormatError} (h : After answer t n s)
    (hends : Ends answer t s r) (hr : r.failure = some error) :
    ∃ last, r.visited = s.visited ++ [last] ∧ last.2.failure? = some error := by
  cases hends with
  | close =>
    have hnone : (s.close t).failure = none := h.failure
    rw [hnone] at hr
    cases hr
  | fail hnext hfailure =>
    cases hr
    exact ⟨_, visited_visit .., hfailure⟩

lemma Ends.kept {r : Scan} (hfits : Fits answer) (h : After answer t n s)
    (hends : Ends answer t s r) (hr : r.failure = none) :
    r.literals.count marker = r.visited.countP fun v => v.2.slot?.isNone := by
  cases hends with
  | fail => cases hr
  | close hnext =>
    obtain ⟨held, rest, hinv⟩ := h.exists_inv hfits
    -- no marker is left to search for, so the last literal has those of `held` only
    have hrest : rest.count marker = 0 := by
      rw [List.count_eq_zero]
      intro hmem
      obtain ⟨before, behind, rfl, hbefore⟩ := List.eq_append_cons_of_mem hmem
      rw [hinv.position.next?_eq_some hbefore] at hnext
      cases hnext
    have hkept : (s.literals ++ held).count marker = (s.close t).visited.countP _ := hinv.kept
    rw [hinv.position.adds_close.literals_eq, ← hkept]
    simp [Part.kept, hrest]

end Scan

/-! ## Scans by formatters -/

namespace Formatter

variable {f : Formatter} {e : Event} {t : Text} {error : FormatError}

lemma fits_answer (f : Formatter) (e : Event) : Scan.Fits (f.answer e) :=
  fun _ _ _ _ => exists_of_slot?

lemma tidy_scan (f : Formatter) (e : Event) (t : Text) : (f.scan e t).Tidy := by
  obtain ⟨n, s, hafter, hends⟩ := Scan.exists_ends (f.answer e) t
  exact hends.tidy hafter

/-- The scan looks at markers of the template, and at the texts behind them. -/
lemma genuine_scan :
    ∀ v ∈ (f.scan e t).visited, ∃ behind, MarkerAt t v.1 behind ∧ v.2 = f.answer e v.1 behind := by
  obtain ⟨n, s, hafter, hends⟩ := Scan.exists_ends (f.answer e) t
  exact hends.genuine (fits_answer f e) hafter

/-- The error of a scan is that of a marker. -/
lemma failure_scan_eq_some_iff :
    (f.scan e t).failure = some error ↔ ∃ v ∈ (f.scan e t).visited, v.2.failure? = some error := by
  obtain ⟨n, s, hafter, hends⟩ := Scan.exists_ends (f.answer e) t
  exact hends.failure_iff hafter

lemma failure?_of_mem_scan (h : (f.scan e t).failure = none) :
    ∀ v ∈ (f.scan e t).visited, v.2.failure? = none := by
  intro v hv
  by_contra hne
  obtain ⟨error, herror⟩ := Option.ne_none_iff_exists'.1 hne
  rw [failure_scan_eq_some_iff.2 ⟨v, hv, herror⟩] at h
  cases h

/-- The marker that fails is the last one that is looked at. -/
lemma exists_last_of_failure_scan (h : (f.scan e t).failure = some error) :
    ∃ before last, (f.scan e t).visited = before ++ [last] ∧ last.2.failure? = some error ∧
      ∀ v ∈ before, v.2.failure? = none := by
  obtain ⟨n, s, hafter, hends⟩ := Scan.exists_ends (f.answer e) t
  obtain ⟨last, hvisited, hlast⟩ := hends.exists_last hafter h
  exact ⟨s.visited, last, hvisited, hlast, hafter.failure?_of_mem⟩

/-- When no marker has failed, the markers that stay are those without a placeholder. -/
lemma count_literals_scan (h : (f.scan e t).failure = none) :
    (f.scan e t).literals.count marker
      = (f.scan e t).visited.countP fun v => v.2.slot?.isNone := by
  obtain ⟨n, s, hafter, hends⟩ := Scan.exists_ends (f.answer e) t
  exact hends.kept (fits_answer f e) hafter h

/-- When no marker has failed, each marker that stays begins a part. -/
lemma keeps_scan (h : (f.scan e t).failure = none) :
    ∀ v ∈ (f.scan e t).visited, v.2.slot? = none → (f.scan e t).Keeps t v.1 := by
  obtain ⟨n, s, hafter, hends⟩ := Scan.exists_ends (f.answer e) t
  exact hends.keeps (fits_answer f e) hafter h

end Formatter

end RuleTemplate
