import RuleTemplate.Proofs.Template.Placeholder
import RuleTemplate.Proofs.Template.Turns

/-!
# Recognising placeholders

Without extensions, the text behind a marker alone says what is a placeholder: neither the links nor
the event are asked.

* `Formatter.answer_eq_of_slot?`: a placeholder that is cut out of a text means what it means there.
* `Answer.SameCut`, `Formatter.answer_sameCut`: for other events, answers differ in values at most.
* `Scan.SameCuts`, `Formatter.scan_sameCuts`: scans cut a template at the same places.
-/

namespace RuleTemplate

/-! ## Built-in placeholders -/

namespace Builtin

variable {t : Text} {b : Builtin}

/-- A text begins with all names that a beginning of it begins with. -/
lemma begins_of_take {k : Nat} (h : begins (t.take k) b = true) : begins t b = true := by
  have hlength := Text.length_eq_of_sameLetters h
  rw [List.take_take, List.length_take] at hlength
  have hmin : min b.name.length k = b.name.length := by
    omega
  rwa [begins, List.take_take, hmin] at h

/-- A beginning that holds the name begins with it. -/
lemma begins_take {k : Nat} (h : begins t b = true) (hk : b.name.length ≤ k) :
    begins (t.take k) b = true := by
  rwa [begins, List.take_take, Nat.min_eq_left hk]

/-- A beginning that holds the name has the same built-in placeholder. -/
lemma find?_take {k : Nat} (h : find? t = some b) (hk : b.name.length ≤ k) :
    find? (t.take k) = some b := by
  obtain ⟨hbegins, before, after, hall, hbefore⟩ := List.find?_eq_some_iff_append.1 h
  refine List.find?_eq_some_iff_append.2 ⟨begins_take hbegins hk, before, after, hall, ?_⟩
  intro c hc
  by_contra hnot
  -- `c` comes first in the table, so it would have been found in all of `t`
  have hshort : begins (t.take k) c = true := by
    simpa using hnot
  have hlong := hbefore c hc
  rw [begins_of_take hshort] at hlong
  cases hlong

/-- A beginning of a text without a built-in placeholder has none. -/
lemma find?_take_eq_none (h : find? t = none) (k : Nat) : find? (t.take k) = none := by
  rw [find?, List.find?_eq_none] at h ⊢
  intro b hb hbegins
  exact h b hb (begins_of_take hbegins)

/-- Names hold no white space. -/
lemma isBlank_of_mem_name {c : Char} (h : c ∈ Text.lower b.name) : Text.isBlank c = false := by
  have hall : (Text.lower b.name).all (fun c => !Text.isBlank c) = true := by cases b <;> decide
  simpa using List.all_eq_true.1 hall c h

/-- White space behind a text does not make it begin with a name. -/
lemma begins_append_of_endsRun {next : Text} (hnext : next.EndsRun) :
    begins (t ++ next) b = begins t b := by
  by_cases hlength : b.name.length ≤ t.length
  · rw [begins, begins, List.take_append_of_le_length hlength]
  · have hshort : begins t b = false := by
      apply Bool.eq_false_iff.2
      intro hbegins
      have hsame := Text.length_eq_of_sameLetters hbegins
      rw [List.length_take] at hsame
      omega
    rw [hshort]
    apply Bool.eq_false_iff.2
    intro hbegins
    cases next with
    | nil =>
      rw [List.append_nil, hshort] at hbegins
      cases hbegins
    | cons c next =>
      -- the name would go on over the white space
      have hmem : c ∈ (t ++ c :: next).take b.name.length := by
        rw [List.take_append, List.mem_append]
        obtain ⟨k, hk⟩ : ∃ k, b.name.length - t.length = k + 1 :=
          ⟨b.name.length - t.length - 1, by omega⟩
        rw [hk, List.take_succ_cons]
        exact .inr (List.mem_cons_self ..)
      have hlower : c.toLower ∈ Text.lower b.name := by
        rw [← eq_of_beq hbegins]
        exact List.mem_map_of_mem hmem
      have hblank := Text.isBlank_toLower (hnext c rfl)
      rw [isBlank_of_mem_name hlower] at hblank
      cases hblank

lemma find?_append_of_endsRun {next : Text} (hnext : next.EndsRun) :
    find? (t ++ next) = find? t := by
  have hbegins : begins (t ++ next) = begins t := funext fun _ => begins_append_of_endsRun hnext
  rw [find?, find?, hbegins]

end Builtin

/-! ## Answers -/

/-- Two answers differ in the value of a placeholder at most. -/
structure Answer.SameCut (a b : Answer) : Prop where
  failure? : b.failure? = a.failure?
  strategy? : b.strategy? = a.strategy?
  size : b.slot?.map (·.2) = a.slot?.map (·.2)

namespace Formatter

variable {f g : Formatter} {e e' : Event} {n m : Nat} {t used rest : Text}

/-- Neither the formatter nor the event says what is a placeholder. -/
lemma answer_sameCut (hf : f.extensions = []) (hg : g.extensions = []) (e e' : Event) (n : Nat)
    (t : Text) : (f.answer e n t).SameCut (g.answer e' n t) := by
  rw [answer_of_extensions_eq_nil hf, answer_of_extensions_eq_nil hg]
  cases Builtin.find? t with
  | some b => exact ⟨rfl, rfl, rfl⟩
  | none => cases Placeholder.parse? t <;> exact ⟨rfl, rfl, rfl⟩

/-- A placeholder that is cut out means the same, wherever it is. -/
lemma answer_eq_of_slot? (hf : f.extensions = []) {p : Pending}
    (h : (f.answer e n (used ++ rest)).slot? = some (p, Text.byteSize used)) (m : Nat) :
    f.answer e m used = f.answer e n (used ++ rest) := by
  rw [answer_of_extensions_eq_nil hf] at h ⊢
  rw [answer_of_extensions_eq_nil hf]
  cases hbuiltin : Builtin.find? (used ++ rest) with
  | some b =>
    rw [hbuiltin] at h
    obtain ⟨-, hsize⟩ := Prod.mk.inj (Option.some.inj h)
    -- what is cut out is the name
    obtain ⟨hused, -⟩ := Text.append_inj_of_byteSize
      (List.take_append_drop b.name.length (used ++ rest))
      ((Builtin.byteSize_take_name hbuiltin).trans hsize)
    have halone := Builtin.find?_take hbuiltin (Nat.le_refl _)
    rw [hused] at halone
    rw [halone]
  | none =>
    have hnone : Builtin.find? used = none := by
      have htake := Builtin.find?_take_eq_none hbuiltin used.length
      rwa [List.take_left] at htake
    rw [hbuiltin] at h
    rw [hnone]
    cases hparse : Placeholder.parse? (used ++ rest) with
    | none =>
      rw [hparse] at h
      cases h
    | some q =>
      rw [hparse] at h
      obtain ⟨-, hsize⟩ := Prod.mk.inj (Option.some.inj h)
      -- what is cut out is the source of `q`, which alone is read as `q` again
      obtain ⟨rest', hsource⟩ := Placeholder.eq_source_append_of_parse? hparse
      obtain ⟨hused, -⟩ := Text.append_inj_of_byteSize hsource hsize.symm
      have halone := Placeholder.parse?_source hparse
      rw [← hused] at halone
      rw [halone]

/-- A placeholder means the same when a text is appended that ends its run. -/
lemma answer_append_of_endsRun (hf : f.extensions = []) (h : (f.answer e n t).slot?.isSome)
    {next : Text} (hnext : next.EndsRun) : f.answer e n (t ++ next) = f.answer e n t := by
  rw [answer_of_extensions_eq_nil hf] at h ⊢
  rw [answer_of_extensions_eq_nil hf, Builtin.find?_append_of_endsRun hnext]
  cases hbuiltin : Builtin.find? t with
  | some b => rfl
  | none =>
    rw [hbuiltin] at h
    cases hparse : Placeholder.parse? t with
    | none =>
      rw [hparse] at h
      cases h
    | some p => rw [Placeholder.parse?_append_of_endsRun hparse hnext]

/-- The values of placeholders are there already. -/
lemma exists_ready_of_slot? (hf : f.extensions = []) {p : Pending} {size : Nat}
    (h : (f.answer e n t).slot? = some (p, size)) : ∃ value, p = .ready value := by
  rw [answer_of_extensions_eq_nil hf] at h
  split at h
  · cases h
    exact ⟨_, rfl⟩
  · split at h
    · cases h
      exact ⟨_, rfl⟩
    · cases h

end Formatter

/-! ## Scans -/

namespace Scan

variable {s s' : Scan} {t : Text}

/-- Where the markers are that were looked at, how each is counted, and the sizes of the
placeholders. -/
def cuts (s : Scan) : List (Nat × Option Strategy × Option Nat) :=
  s.visited.map fun v => (v.1, v.2.strategy?, v.2.slot?.map (·.2))

/-- Two scans have cut a template at the same places. -/
structure SameCuts (s s' : Scan) : Prop where
  literalStart : s'.literalStart = s.literalStart
  cursor : s'.cursor = s.cursor
  parts : s'.parts = s.parts
  failure : s'.failure = s.failure
  cuts : s'.cuts = s.cuts

lemma SameCuts.refl (s : Scan) : s.SameCuts s := ⟨rfl, rfl, rfl, rfl, rfl⟩

lemma SameCuts.close (h : s.SameCuts s') : (s.close t).SameCuts (s'.close t) where
  literalStart := h.literalStart
  cursor := h.cursor
  parts := by rw [Scan.close, Scan.close, h.parts, h.literalStart]
  failure := h.failure
  cuts := h.cuts

lemma SameCuts.fail (h : s.SameCuts s') (error : FormatError) :
    { s with failure := some error }.SameCuts { s' with failure := some error } where
  literalStart := h.literalStart
  cursor := h.cursor
  parts := h.parts
  failure := rfl
  cuts := h.cuts

/-- A marker that is cut in the same way leaves scans that agree. -/
lemma SameCuts.visit {a b : Answer} (h : s.SameCuts s') (hab : a.SameCut b) (offset : Nat) :
    (s.visit t offset a).SameCuts (s'.visit t offset b) := by
  have hcuts : (s'.visit t offset b).cuts = (s.visit t offset a).cuts := by
    have hbefore := h.cuts
    unfold Scan.cuts at hbefore ⊢
    rw [visited_visit, visited_visit, List.map_append, List.map_append, hbefore, List.map_singleton,
      List.map_singleton, hab.strategy?, hab.size]
  have hsize := hab.size
  cases ha : a.slot? with
  | none =>
    rw [ha, Option.map_none, Option.map_eq_none_iff] at hsize
    refine ⟨?_, ?_, ?_, ?_, hcuts⟩ <;> simp only [Scan.visit, ha, hsize]
    · rw [h.parts, h.literalStart]
    · exact h.failure
  | some slot =>
    obtain ⟨p, size⟩ := slot
    rw [ha, Option.map_some, Option.map_eq_some_iff] at hsize
    obtain ⟨⟨q, size'⟩, hb, rfl⟩ := hsize
    refine ⟨?_, ?_, ?_, ?_, hcuts⟩ <;> simp only [Scan.visit, ha, hb]
    · rw [h.parts, h.literalStart]
    · exact h.failure

lemma simulation_sameCuts (t : Text) : Simulation t SameCuts Answer.SameCut where
  cursor := SameCuts.cursor
  failure? := Answer.SameCut.failure?
  close := SameCuts.close
  fail error h := h.fail error
  visit offset h ha := h.visit ha offset

/-- The placeholders are told by the cuts. -/
lemma SameCuts.placeholders (h : s.SameCuts s') : s'.placeholders t = s.placeholders t := by
  have hcuts : ∀ r : Scan, r.placeholders t
      = r.cuts.filterMap fun c => c.2.2.map fun size => t.slice c.1 (c.1 + 1 + size) := by
    intro r
    rw [Scan.placeholders, Scan.cuts, List.filterMap_map]
    simp only [Function.comp_def, Option.map_map]
  rw [hcuts, hcuts, h.cuts]

end Scan

/-- Without extensions, scans cut a template at the same places. -/
lemma Formatter.scan_sameCuts {f g : Formatter} (hf : f.extensions = []) (hg : g.extensions = [])
    (e e' : Event) (t : Text) : (f.scan e t).SameCuts (g.scan e' t) :=
  (Scan.simulation_sameCuts t).run (answer_sameCut hf hg e e') (Scan.SameCuts.refl _)

end RuleTemplate
