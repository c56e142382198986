import Mathlib.Data.List.TakeWhile
import RuleTemplate.Proofs.Template.Answer
import RuleTemplate.Proofs.Template.Waiting
import RuleTemplate.Proofs.Text.Blank
import RuleTemplate.Template.Render

/-!
# The plain reading of a template

`reading` says what a template is rendered as, by recursion on its text alone: up to the first
marker it stays; the marker and what it consumes give way to a value; and a marker that stands for
nothing stays. A scan works with offsets and with two lists that are put together at the end. As
long as nothing fails, the two agree (`result_scan_eq_reading`).

The state of a scan is tied to the text by `Scan.At`: the template is what lies in the parts that
were found, then `held`, which is in no part yet, then `rest`, which was not searched.
-/

namespace RuleTemplate

/-! ## The reading -/

/-- The text of a value that came; there is none when it failed. -/
def Pending.value? (p : Pending) : Option Text :=
  match p.outcome with
  | .ok value => value
  | .error _ => none

/-- What takes the place of the text behind a marker, and how many bytes of that text. -/
def Formatter.replacement (f : Formatter) (e : Event) (behind : Text) :
    Option (Option Text × Nat) :=
  (f.answer e 0 behind).slot?.map fun s => (s.1.value?, s.2)

/-- Behind a marker, less of the template is left to be read. -/
lemma length_behind_lt {t behind : Text} {c : Char} (h : t.dropWhile (· ≠ marker) = c :: behind) :
    behind.length < t.length := by
  have hle := (List.dropWhile_sublist (p := (· ≠ marker)) (l := t)).length_le
  rw [h, List.length_cons] at hle
  exact hle

lemma length_dropBytes_lt {t behind : Text} {c : Char} (h : t.dropWhile (· ≠ marker) = c :: behind)
    (size : Nat) : (Text.dropBytes size behind).length < t.length :=
  Nat.lt_of_le_of_lt (Text.length_dropBytes_le size behind) (length_behind_lt h)

section
variable (replace : Text → Option (Option Text × Nat))

/-- The text that a template is read as. -/
def reading (t : Text) : Text :=
  match _h : t.dropWhile (· ≠ marker) with
  | [] => t
  | _ :: behind =>
    t.takeWhile (· ≠ marker) ++ match replace behind with
      | some (value, size) => value.getD fallback ++ reading (Text.dropBytes size behind)
      | none => marker :: reading behind
termination_by t.length
decreasing_by
  · exact length_dropBytes_lt _h _
  · exact length_behind_lt _h

/-- The texts behind the markers that the reading comes to. -/
def behindMarkers (t : Text) : List Text :=
  match _h : t.dropWhile (· ≠ marker) with
  | [] => []
  | _ :: behind =>
    behind :: match replace behind with
      | some (_, size) => behindMarkers (Text.dropBytes size behind)
      | none => behindMarkers behind
termination_by t.length
decreasing_by
  · exact length_dropBytes_lt _h _
  · exact length_behind_lt _h

variable {replace} {before behind : Text}

/-- A text without a marker is read as itself. -/
lemma reading_of_not_mem (h : marker ∉ before) : reading replace before = before := by
  rw [reading]
  split
  · rfl
  · next hd => rw [List.dropWhile_eq_nil_iff.2 (Text.forall_ne_of_notMem h)] at hd; cases hd

/-- What is before the first marker is read as itself, and what is put in place of the text behind
the marker decides how the reading goes on. -/
lemma reading_append_marker (h : marker ∉ before) :
    reading replace (before ++ marker :: behind) = before ++ match replace behind with
      | some (value, size) => value.getD fallback ++ reading replace (Text.dropBytes size behind)
      | none => marker :: reading replace behind := by
  rw [reading]
  split
  · next hd => rw [Text.dropWhile_ne_append_cons h] at hd; cases hd
  · next hd =>
    rw [Text.dropWhile_ne_append_cons h] at hd
    cases hd
    rw [Text.takeWhile_ne_append_cons h]

/-- A placeholder gives way to its value. -/
lemma reading_append_of_some {value : Option Text} {size : Nat} (h : marker ∉ before)
    (hr : replace behind = some (value, size)) :
    reading replace (before ++ marker :: behind)
      = before ++ (value.getD fallback ++ reading replace (Text.dropBytes size behind)) := by
  rw [reading_append_marker h, hr]

/-- A marker that stands for nothing stays. -/
lemma reading_append_of_none (h : marker ∉ before) (hr : replace behind = none) :
    reading replace (before ++ marker :: behind) = before ++ marker :: reading replace behind := by
  rw [reading_append_marker h, hr]

/-- The reading comes to the first marker, and then to those in what is left behind it. -/
lemma behindMarkers_append (h : marker ∉ before) :
    behindMarkers replace (before ++ marker :: behind) = behind :: match replace behind with
      | some (_, size) => behindMarkers replace (Text.dropBytes size behind)
      | none => behindMarkers replace behind := by
  rw [behindMarkers]
  split
  · next hd => rw [Text.dropWhile_ne_append_cons h] at hd; cases hd
  · next hd =>
    rw [Text.dropWhile_ne_append_cons h] at hd
    cases hd
    rfl

lemma behindMarkers_of_not_mem (h : marker ∉ before) : behindMarkers replace before = [] := by
  rw [behindMarkers]
  split
  · rfl
  · next hd => rw [List.dropWhile_eq_nil_iff.2 (Text.forall_ne_of_notMem h)] at hd; cases hd

/-- What has no marker is passed over, whatever follows. -/
lemma append_left_of_not_mem (h : marker ∉ before) (t : Text) :
    reading replace (before ++ t) = before ++ reading replace t ∧
      behindMarkers replace (before ++ t) = behindMarkers replace t := by
  by_cases hmem : marker ∈ t
  · obtain ⟨more, behind, rfl, hmore⟩ := List.eq_append_cons_of_mem hmem
    have hboth : marker ∉ before ++ more := by simp [h, hmore]
    rw [← List.append_assoc, behindMarkers_append hboth, behindMarkers_append hmore]
    refine ⟨?_, rfl⟩
    cases hr : replace behind with
    | none =>
      rw [reading_append_of_none hboth hr, reading_append_of_none hmore hr, List.append_assoc]
    | some r =>
      rw [reading_append_of_some hboth hr, reading_append_of_some hmore hr, List.append_assoc]
  · have hboth : marker ∉ before ++ t := by simp [h, hmem]
    rw [reading_of_not_mem hboth, reading_of_not_mem hmem, behindMarkers_of_not_mem hboth,
      behindMarkers_of_not_mem hmem]
    exact ⟨rfl, rfl⟩

end

/-! ## The state of a scan -/

namespace Scan

/-- The scan `s` of `t` has found the parts of all but `held ++ rest`, and searches `rest` next. -/
def At (s : Scan) (t held rest : Text) : Prop :=
  ∃ found, t = found ++ (held ++ rest) ∧ s.literalStart = Text.byteSize found
    ∧ s.cursor = Text.byteSize (found ++ held)

lemma at_start (t : Text) : At {} t [] t := ⟨[], rfl, rfl, rfl⟩

variable {s : Scan} {t held rest before behind : Text} {a : Answer}

/-- The text behind an offset that is the size of what comes before it. -/
lemma dropBytes_of_eq {n : Nat} {found : Text} (h : t = found ++ rest)
    (hn : n = Text.byteSize found) : t.dropBytes n = rest := by
  rw [h, hn, Text.dropBytes_byteSize_append]

lemma At.dropBytes_cursor (h : s.At t held rest) : t.dropBytes s.cursor = rest := by
  obtain ⟨found, ht, -, hcursor⟩ := h
  exact dropBytes_of_eq (by rw [ht, List.append_assoc]) hcursor

lemma At.dropBytes_literalStart (h : s.At t held rest) :
    t.dropBytes s.literalStart = held ++ rest := by
  obtain ⟨found, ht, hliteral, -⟩ := h
  exact dropBytes_of_eq ht hliteral

/-- What is held and what comes before the next marker are closed as one part. -/
lemma At.slice (h : s.At t held (before ++ rest)) :
    t.slice s.literalStart (s.cursor + Text.byteSize before) = held ++ before := by
  obtain ⟨found, ht, hliteral, hcursor⟩ := h
  have hstop : s.cursor + Text.byteSize before = Text.byteSize (found ++ (held ++ before)) := by
    simp [hcursor, Nat.add_assoc]
  rw [ht, hliteral, hstop, ← List.append_assoc held, Text.slice_byteSize]

/-- Behind the next marker. -/
lemma At.dropBytes_marker (h : s.At t held (before ++ marker :: behind)) :
    t.dropBytes (s.cursor + Text.byteSize before + 1) = behind := by
  obtain ⟨found, ht, -, hcursor⟩ := h
  have hsplit : t = (found ++ held ++ before ++ [marker]) ++ behind := by simp [ht]
  refine dropBytes_of_eq hsplit ?_
  rw [hcursor, Text.byteSize_append _ [marker], Text.byteSize_append _ before]
  rfl

lemma At.next?_eq_none (h : s.At t held rest) (hmem : marker ∉ rest) : s.next? t = none := by
  rw [next?, h.dropBytes_cursor, Text.find?_eq_none hmem, Option.map_none]

lemma At.next?_eq_some (h : s.At t held (before ++ marker :: behind)) (hmem : marker ∉ before) :
    s.next? t = some (s.cursor + Text.byteSize before) := by
  rw [next?, h.dropBytes_cursor, Text.find?_append_cons hmem, Option.map_some]

/-- Behind a placeholder nothing is held. -/
lemma At.visit_of_some {p : Pending} {size : Nat} {used : Text}
    (h : s.At t held (before ++ marker :: (used ++ rest))) (ha : a.slot? = some (p, size))
    (hsize : Text.byteSize used = size) :
    (s.visit t (s.cursor + Text.byteSize before) a).At t [] rest := by
  obtain ⟨found, ht, -, hcursor⟩ := h
  have hborder : s.cursor + Text.byteSize before + 1 + size
      = Text.byteSize (found ++ held ++ before ++ marker :: used) := by
    rw [hcursor, Text.byteSize_append _ (marker :: used), Text.byteSize_append _ before,
      Text.byteSize_cons, hsize, Nat.add_assoc]
    rfl
  refine ⟨found ++ held ++ before ++ marker :: used, by simp [ht], ?_, ?_⟩
  · simp only [visit, ha, hborder]
  · simp only [visit, ha, hborder, List.append_nil]

/-- A marker that stays is held. -/
lemma At.visit_of_none (h : s.At t held (before ++ marker :: behind)) (ha : a.slot? = none) :
    (s.visit t (s.cursor + Text.byteSize before) a).At t [marker] behind := by
  obtain ⟨found, ht, -, hcursor⟩ := h
  refine ⟨found ++ held ++ before, by simp [ht], ?_, ?_⟩
  · simp only [visit, ha]
    rw [hcursor, Text.byteSize_append _ before]
  · simp only [visit, ha]
    rw [hcursor, Text.byteSize_append _ [marker], Text.byteSize_append _ before]
    rfl

/-! ### What is found -/

/-- The scan `r` has found what `s` has found, and then these parts and values. -/
structure Adds (s r : Scan) (parts : List Part) (pending : List Pending) : Prop where
  parts_eq : r.parts = s.parts ++ parts
  pending_eq : r.pending = s.pending ++ pending
  failure_eq : r.failure = s.failure

lemma Adds.trans {r r' : Scan} {parts parts' : List Part} {pending pending' : List Pending}
    (h : Adds s r parts pending) (h' : Adds r r' parts' pending') :
    Adds s r' (parts ++ parts') (pending ++ pending') where
  parts_eq := by rw [h'.parts_eq, h.parts_eq, List.append_assoc]
  pending_eq := by rw [h'.pending_eq, h.pending_eq, List.append_assoc]
  failure_eq := h'.failure_eq.trans h.failure_eq

/-- At the end, what is held and the rest are one part. -/
lemma At.adds_close (h : s.At t held rest) : Adds s (s.close t) [.literal (held ++ rest)] [] where
  parts_eq := by rw [close, h.dropBytes_literalStart]
  pending_eq := by rw [close, List.append_nil]
  failure_eq := rfl

/-- A marker that stays ends a part, and no value is added. -/
lemma At.adds_visit_of_none (h : s.At t held (before ++ marker :: behind)) (ha : a.slot? = none) :
    Adds s (s.visit t (s.cursor + Text.byteSize before) a) [.literal (held ++ before)] [] where
  parts_eq := by
    rw [visit, ha, h.slice]
  pending_eq := by rw [visit, ha, List.append_nil]
  failure_eq := by rw [visit, ha]

/-- A placeholder ends a part, and its value has the part behind that. -/
lemma At.adds_visit_of_some {p : Pending} {size : Nat}
    (h : s.At t held (before ++ marker :: behind)) (ha : a.slot? = some (p, size)) :
    Adds s (s.visit t (s.cursor + Text.byteSize before) a)
      [.literal (held ++ before), .pending] [p] where
  parts_eq := by
    rw [visit, ha, h.slice]
    simp
  pending_eq := by rw [visit, ha]
  failure_eq := by rw [visit, ha]

/-! ### One marker after the other -/

variable {answer : Nat → Text → Answer} {offset : Nat}

lemma run_of_next?_eq_none (h : s.next? t = none) : s.run answer t = s.close t := by
  rw [run]
  split
  · rfl
  · next hnext => rw [h] at hnext; cases hnext

lemma run_of_failure?_eq_some {error : FormatError} (h : s.next? t = some offset)
    (ha : (answer offset (t.dropBytes (offset + 1))).failure? = some error) :
    s.run answer t = { s.visit t offset (answer offset (t.dropBytes (offset + 1))) with
      failure := some error } := by
  rw [run]
  split
  · next hnext => rw [h] at hnext; cases hnext
  · next hnext =>
    rw [h] at hnext
    cases hnext
    simp only [ha]

lemma run_of_failure?_eq_none (h : s.next? t = some offset)
    (ha : (answer offset (t.dropBytes (offset + 1))).failure? = none) :
    s.run answer t
      = (s.visit t offset (answer offset (t.dropBytes (offset + 1)))).run answer t := by
  rw [run]
  split
  · next hnext => rw [h] at hnext; cases hnext
  · next hnext =>
    rw [h] at hnext
    cases hnext
    simp only [ha]

/-- A relation between the scans of a template by two ways to answer at its markers, which every
turn keeps as long as the answers are related too. -/
structure Simulation (t : Text) (R : Scan → Scan → Prop) (A : Answer → Answer → Prop) : Prop where
  cursor : ∀ {s s'}, R s s' → s'.cursor = s.cursor
  failure? : ∀ {a b}, A a b → b.failure? = a.failure?
  close : ∀ {s s'}, R s s' → R (s.close t) (s'.close t)
  fail : ∀ {s s'} (error : FormatError), R s s' →
    R { s with failure := some error } { s' with failure := some error }
  visit : ∀ {s s' a b} (offset : Nat), R s s' → A a b →
    R (s.visit t offset a) (s'.visit t offset b)

/-- Related scans that see related answers are related in the end. -/
lemma Simulation.run {R : Scan → Scan → Prop} {A : Answer → Answer → Prop} {s' : Scan}
    {answer' : Nat → Text → Answer} (sim : Simulation t R A)
    (ha : ∀ n behind, A (answer n behind) (answer' n behind)) (h : R s s') :
    R (s.run answer t) (s'.run answer' t) := by
  -- on the scan `s`; related scans search from the same place, so `s'` takes the same turn
  have hnext?_eq : ∀ {s s'}, R s s' → s'.next? t = s.next? t := by
    intro s s' h
    rw [next?, next?, sim.cursor h]
  induction s using Scan.run.induct answer t generalizing s' with
  | case1 s hnext =>
    rw [run_of_next?_eq_none hnext, run_of_next?_eq_none ((hnext?_eq h).trans hnext)]
    exact sim.close h
  | case2 s offset hnext a error =>
    rename_i hfailure
    have hagree := ha offset (t.dropBytes (offset + 1))
    rw [run_of_failure?_eq_some hnext hfailure, run_of_failure?_eq_some ((hnext?_eq h).trans hnext)
      ((sim.failure? hagree).trans hfailure)]
    exact sim.fail error (sim.visit offset h hagree)
  | case3 s offset hnext a hfailure =>
    rename_i ih
    have hagree := ha offset (t.dropBytes (offset + 1))
    rw [run_of_failure?_eq_none hnext hfailure, run_of_failure?_eq_none ((hnext?_eq h).trans hnext)
      ((sim.failure? hagree).trans hfailure)]
    exact ih (sim.visit offset h hagree)

/-- Without another marker the scan is over. -/
lemma At.run_of_not_mem (h : s.At t held rest) (hmem : marker ∉ rest) :
    s.run answer t = s.close t := run_of_next?_eq_none (h.next?_eq_none hmem)

/-- Behind a marker that does not fail the scan goes on. -/
lemma At.run_of_success (h : s.At t held (before ++ marker :: behind)) (hmem : marker ∉ before)
    (ha : (answer (s.cursor + Text.byteSize before) behind).failure? = none) :
    s.run answer t = (s.visit t (s.cursor + Text.byteSize before)
      (answer (s.cursor + Text.byteSize before) behind)).run answer t := by
  rw [← h.dropBytes_marker] at ha
  rw [run_of_failure?_eq_none (h.next?_eq_some hmem) ha, h.dropBytes_marker]

end Scan

/-! ## Agreement -/

lemma Pending.outcome_eq_value? {p : Pending} (h : ∃ value, p.outcome = .ok value) :
    p.outcome = .ok p.value? := by
  obtain ⟨value, hv⟩ := h
  rw [value?, hv]

/-- When all values come, the text is made of them. -/
lemma Scan.result_eq_ok {s : Scan} {values : List (Option Text)} (hfailure : s.failure = none)
    (hvalues : s.pending.map (·.outcome) = values.map .ok) :
    s.result = .ok (assemble s.parts values) := by
  have hready : ∀ p ∈ s.pending, ∃ value, p.outcome = .ok value := by
    intro p hp
    have hmem : p.outcome ∈ values.map .ok := hvalues ▸ List.mem_map_of_mem hp
    obtain ⟨value, -, hv⟩ := List.mem_map.1 hmem
    exact ⟨value, hv.symm⟩
  have hjoin : Pending.join s.pending = .ok values := by
    rw [Pending.join_eq_oneByOne hready]
    exact Results.mapM_eq_ok hvalues
  rw [result, hfailure, hjoin]
  rfl

namespace Formatter

variable {f : Formatter} {e : Event} {t held rest behind : Text}

/-- From marker to marker: a text has none, or its first one stays, or that and what it consumes
give way to a value. -/
theorem markers_induct (f : Formatter) (e : Event) {motive : Text → Prop}
    (literal : ∀ rest, marker ∉ rest → motive rest)
    (stays : ∀ before behind, marker ∉ before → (f.answer e 0 behind).slot? = none →
      motive behind → motive (before ++ marker :: behind))
    (replaced : ∀ before used rest p, marker ∉ before →
      (f.answer e 0 (used ++ rest)).slot? = some (p, Text.byteSize used) →
      motive rest → motive (before ++ marker :: (used ++ rest))) (t : Text) : motive t := by
  induction hn : t.length using Nat.strong_induction_on generalizing t with
  | _ n ih =>
    by_cases hmem : marker ∈ t
    · obtain ⟨before, behind, rfl, hbefore⟩ := List.eq_append_cons_of_mem hmem
      cases hslot : (f.answer e 0 behind).slot? with
      | none => exact stays before behind hbefore hslot (ih _ (by simp [← hn]; omega) _ rfl)
      | some slot =>
        obtain ⟨p, size⟩ := slot
        obtain ⟨used, rest, rfl, rfl⟩ := exists_of_slot? hslot
        exact replaced before used rest p hbefore hslot (ih _ (by simp [← hn]; omega) _ rfl)
    · exact literal t hmem

lemma replacement_eq_none (h : (f.answer e 0 behind).slot? = none) :
    f.replacement e behind = none := by
  rw [replacement, h, Option.map_none]

lemma replacement_eq_some {p : Pending} {size : Nat}
    (h : (f.answer e 0 behind).slot? = some (p, size)) :
    f.replacement e behind = some (p.value?, size) := by
  rw [replacement, h, Option.map_some]

/-- The reading comes to a marker that stays, and goes on behind it. -/
lemma behindMarkers_of_none {before : Text} (hbefore : marker ∉ before)
    (h : (f.answer e 0 behind).slot? = none) :
    behindMarkers (f.replacement e) (before ++ marker :: behind)
      = behind :: behindMarkers (f.replacement e) behind := by
  rw [behindMarkers_append hbefore, replacement_eq_none h]

/-- The reading comes to a placeholder, and goes on behind what that consumes. -/
lemma behindMarkers_of_some {before used : Text} {p : Pending} (hbefore : marker ∉ before)
    (h : (f.answer e 0 (used ++ rest)).slot? = some (p, Text.byteSize used)) :
    behindMarkers (f.replacement e) (before ++ marker :: (used ++ rest))
      = (used ++ rest) :: behindMarkers (f.replacement e) rest := by
  rw [behindMarkers_append hbefore, replacement_eq_some h]
  simp only [Text.dropBytes_byteSize_append]

/-- The reading goes on behind a placeholder. -/
lemma reading_of_some {before used : Text} {p : Pending} (hbefore : marker ∉ before)
    (h : (f.answer e 0 (used ++ rest)).slot? = some (p, Text.byteSize used)) :
    reading (f.replacement e) (before ++ marker :: (used ++ rest))
      = before ++ (p.value?.getD fallback ++ reading (f.replacement e) rest) := by
  rw [reading_append_of_some hbefore (replacement_eq_some h), Text.dropBytes_byteSize_append]

/-- The scan goes on behind a marker that does not fail. It asks with the offset of the marker, the
reading without. -/
lemma run_of_reading {s : Scan} {before : Text}
    (hat : s.At t held (before ++ marker :: behind)) (hbefore : marker ∉ before)
    (hok : (f.answer e 0 behind).failure? = none) :
    f.answer e (s.cursor + Text.byteSize before) behind = f.answer e 0 behind ∧
      s.run (f.answer e) t = (s.visit t (s.cursor + Text.byteSize before)
        (f.answer e 0 behind)).run (f.answer e) t := by
  have hoffset := answer_eq_of_failure?_eq_none hok (s.cursor + Text.byteSize before)
  have hok' : (f.answer e (s.cursor + Text.byteSize before) behind).failure? = none := by
    rw [hoffset, hok]
  refine ⟨hoffset, ?_⟩
  rw [hat.run_of_success hbefore hok', hoffset]

/-- From any state on, a scan finds parts and values that together make up what is held and the
reading of what was not searched. -/
theorem exists_of_run {s : Scan} (hat : s.At t held rest)
    (h : ∀ behind ∈ behindMarkers (f.replacement e) rest, (f.answer e 0 behind).Succeeds) :
    ∃ parts pending values, s.Adds (s.run (f.answer e) t) parts pending
      ∧ pending.map (·.outcome) = values.map .ok
      ∧ assemble parts values = held ++ reading (f.replacement e) rest := by
  -- on what was not searched, for all states of the scan
  induction rest using f.markers_induct e generalizing s held with
  | literal rest hmem =>
    rw [hat.run_of_not_mem hmem]
    refine ⟨_, _, [], hat.adds_close, rfl, ?_⟩
    rw [reading_of_not_mem hmem, assemble, assemble, List.append_nil]
  | stays before behind hbefore hslot ih =>
    rw [behindMarkers_of_none hbefore hslot] at h
    rw [(run_of_reading hat hbefore (h behind (List.mem_cons_self ..)).1).2]
    obtain ⟨parts, pending, values, hadds, hvalues, htext⟩ :=
      ih (hat.visit_of_none hslot) fun b hb => h b (List.mem_cons_of_mem _ hb)
    refine ⟨_, _, values, (hat.adds_visit_of_none hslot).trans hadds, hvalues, ?_⟩
    rw [List.cons_append, List.nil_append, assemble, htext,
      reading_append_of_none hbefore (replacement_eq_none hslot)]
    simp
  | replaced before used rest p hbefore hslot ih =>
    rw [behindMarkers_of_some hbefore hslot] at h
    have hsucc := h _ (List.mem_cons_self ..)
    rw [(run_of_reading hat hbefore hsucc.1).2]
    obtain ⟨parts, pending, values, hadds, hvalues, htext⟩ :=
      ih (hat.visit_of_some hslot rfl) fun b hb => h b (List.mem_cons_of_mem _ hb)
    have houtcome := Pending.outcome_eq_value? (hsucc.2 p _ hslot)
    refine ⟨_, _, p.value? :: values, (hat.adds_visit_of_some hslot).trans hadds, ?_, ?_⟩
    · rw [List.cons_append, List.nil_append, List.map_cons, List.map_cons, hvalues, houtcome]
    · rw [List.cons_append, List.cons_append, List.nil_append, assemble, assemble, htext,
        reading_of_some hbefore hslot]
      simp

/-- The text that a scan puts together is the plain reading. -/
lemma result_scan_eq_reading
    (h : ∀ behind ∈ behindMarkers (f.replacement e) t, (f.answer e 0 behind).Succeeds) :
    (f.scan e t).result = .ok (reading (f.replacement e) t) := by
  obtain ⟨parts, pending, values, hadds, hvalues, htext⟩ := exists_of_run (Scan.at_start t) h
  rw [← List.nil_append pending, ← hadds.pending_eq] at hvalues
  rw [scan, Scan.result_eq_ok hadds.failure_eq hvalues, hadds.parts_eq]
  exact congrArg Except.ok htext

/-! ## Rendering -/

end Formatter

/-- A text that begins with a marker is no script. -/
lemma Script.body?_trim_marker (t : Text) : body? (Text.trim (marker :: t)) = none := by
  obtain ⟨u, hu⟩ := Text.exists_trim_cons (c := marker) (by decide) t
  rw [hu, body?]
  refine if_neg fun h => ?_
  have hletters := eq_of_beq h.1
  exact absurd (List.cons.inj hletters).1 (by decide)

namespace Formatter

variable {f : Formatter} {e : Event} {t : Text}

/-- A template that is neither blank nor a script is scanned. -/
lemma format_eq_result (hblank : Text.trim t ≠ []) (hscript : Script.body? (Text.trim t) = none) :
    f.format e t = (f.scan e t).result := by
  rw [format, render, renderByMode]
  simp only [if_neg hblank, hscript, renderText]

/-- A blank template has no marker. -/
lemma marker_notMem_of_trim_eq_nil (h : Text.trim t = []) : marker ∉ t := fun hmem =>
  absurd (Text.isBlank_of_trim_eq_nil h marker hmem) (by decide)

/-- Without an extension that fails, every template that is no script is rendered as its plain
reading. -/
lemma format_eq_reading_of_sound (hsound : ∀ x ∈ f.extensions, x.Sound e)
    (hscript : Script.body? (Text.trim t) = none) :
    f.format e t = .ok (reading (f.replacement e) t) := by
  by_cases hblank : Text.trim t = []
  · rw [format, render, renderByMode, reading_of_not_mem (marker_notMem_of_trim_eq_nil hblank)]
    simp only [if_pos hblank]
  · rw [format_eq_result hblank hscript,
      result_scan_eq_reading fun behind _ => answer_succeeds hsound 0 behind]

/-- A placeholder at the beginning gives way to its value. -/
lemma format_marker_append {used : Text} {value : Option Text}
    (hsound : ∀ x ∈ f.extensions, x.Sound e)
    (h : f.replacement e (used ++ t) = some (value, Text.byteSize used)) :
    f.format e (marker :: (used ++ t))
      = .ok (value.getD fallback ++ reading (f.replacement e) t) := by
  have hread := reading_append_of_some (List.not_mem_nil (a := marker)) h
  rw [Text.dropBytes_byteSize_append] at hread
  rw [format_eq_reading_of_sound hsound (Script.body?_trim_marker _)]
  exact congrArg Except.ok hread

/-- A placeholder on its own is rendered as its value. -/
lemma format_marker {used : Text} {value : Option Text} (hsound : ∀ x ∈ f.extensions, x.Sound e)
    (h : f.replacement e used = some (value, Text.byteSize used)) :
    f.format e (marker :: used) = .ok (value.getD fallback) := by
  have hused : f.replacement e (used ++ []) = some (value, Text.byteSize used) := by
    rwa [List.append_nil]
  have happend := format_marker_append hsound hused
  rwa [reading_of_not_mem List.not_mem_nil, List.append_nil, List.append_nil] at happend

/-- A placeholder on its own is rendered as its value when that is there already, whatever else the
extensions claim. -/
lemma format_ready {used : Text} {value : Option Text}
    (h : (f.answer e 0 used).slot? = some (.ready value, Text.byteSize used)) :
    f.format e (marker :: used) = .ok (value.getD fallback) := by
  have hslot : (f.answer e 0 (used ++ [])).slot? = some (.ready value, Text.byteSize used) := by
    rwa [List.append_nil]
  have hread := reading_of_some (List.not_mem_nil (a := marker)) hslot
  have hmarkers := behindMarkers_of_some (List.not_mem_nil (a := marker)) hslot
  rw [List.append_nil, List.nil_append] at hread hmarkers
  have hblank : Text.trim (marker :: used) ≠ [] := fun hblank =>
    marker_notMem_of_trim_eq_nil hblank (List.mem_cons_self ..)
  rw [format_eq_result hblank (Script.body?_trim_marker used), result_scan_eq_reading, hread,
    reading_of_not_mem List.not_mem_nil, List.append_nil]
  · rfl
  · intro behind hbehind
    rw [hmarkers, behindMarkers_of_not_mem List.not_mem_nil, List.mem_singleton] at hbehind
    rw [hbehind]
    exact Answer.succeeds_of_ready (Answer.failure?_of_slot? h) h

end Formatter

/-- An event started by hand. -/
def Event.sample : Event where
  base := ⟨⟨.zero, "app"⟩, "Manual",
    ⟨⟨2024, 1, 5, by decide⟩, 13, 4, 5, 0, by decide⟩, 1, "subject:1"⟩
  detail := .manual none

/-- Claims the texts that begin with `X`, and the paths that begin with `a`, whose value is to be
waited for. -/
def Extension.sample : Extension where
  span _ t := .ok (if t.head? = some 'X' then some ⟨"claimed", 1⟩ else none)
  path _ path := if path.head? = some ['a'] then some ⟨2, .ok none⟩ else none

lemma Extension.sound_sample (e : Event) : Extension.sample.Sound e where
  span t := by
    refine ⟨_, rfl, fun s hs => ?_⟩
    obtain ⟨hhead, hs⟩ := Option.ite_none_right_eq_some.1 hs
    obtain ⟨t, rfl⟩ := List.head?_eq_some_iff.1 hhead
    cases hs
    simp [Text.charsIn?, show Char.utf8Size 'X' = 1 from rfl]
  path path p hp := by
    obtain ⟨-, hp⟩ := Option.ite_none_right_eq_some.1 hp
    cases hp
    exact ⟨none, rfl⟩

/-- A formatter with that extension. -/
def Formatter.sample : Formatter := ⟨.below [], .disabled, [.sample]⟩

namespace Formatter
variable {f : Formatter} {e : Event} {t : Text}

/-- Rendering agrees with the plain reading of the template, whatever the hooks do, as long as
nothing fails. -/
theorem format_eq_reading (hblank : Text.trim t ≠ [])
    (hscript : Script.body? (Text.trim t) = none)
    (h : ∀ behind ∈ behindMarkers (f.replacement e) t, (f.answer e 0 behind).Succeeds) :
    f.format e t = .ok (reading (f.replacement e) t) := by
  rw [format_eq_result hblank hscript, result_scan_eq_reading h]

/-- A claimed text, a claimed path without a value, and a marker that stays. -/
theorem format_sample_claims :
    Formatter.sample.format .sample "é $X, $\x7bE_a.b\x7d $" = .ok "é claimed, null $" := by
  have hsound : ∀ x ∈ Formatter.sample.extensions, x.Sound .sample := by
    intro x hx
    rw [List.mem_singleton.1 hx]
    exact Extension.sound_sample _
  have hthird : reading (Formatter.sample.replacement .sample) " $" = " $" := by
    rw [show (" $" : Text) = [' '] ++ marker :: [] from rfl,
      reading_append_of_none (by decide) rfl, reading_of_not_mem (by decide)]
  have hsecond : reading (Formatter.sample.replacement .sample)
      ([',', ' '] ++ marker :: ("\x7bE_a.b\x7d $" : Text)) = ", null $" :=
    (reading_append_of_some (by decide) rfl).trans (congrArg _ (congrArg _ hthird))
  have hfirst : reading (Formatter.sample.replacement .sample)
      (['é', ' '] ++ marker :: ("X, $\x7bE_a.b\x7d $" : Text)) = "é claimed, null $" :=
    (reading_append_of_some (by decide) rfl).trans (congrArg _ (congrArg _ hsecond))
  rw [format_eq_reading (by decide) (by decide)
    (fun behind _ => answer_succeeds hsound 0 behind)]
  exact congrArg Except.ok hfirst

end Formatter
end RuleTemplate
