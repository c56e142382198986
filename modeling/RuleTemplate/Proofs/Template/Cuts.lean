import RuleTemplate.Proofs.Template.Braces
import RuleTemplate.Proofs.Template.Recognition
import RuleTemplate.Proofs.Template.Safety

/-!
# Rendering placeholder by placeholder

Without extensions, a template is cut in one way, whatever the event (`Cuts.Describes.unique`). What
it is rendered as is made of its parts and of what each placeholder is rendered as on its own
(`Formatter.exists_cuts`), so nothing in a value is ever taken for a placeholder.
-/

namespace RuleTemplate

/-- The answers that put something in place of a placeholder. -/
def Scan.found (s : Scan) : List Answer := (s.visited.map (·.2)).filter fun a => a.slot?.isSome

lemma Scan.Tidy.pending_eq_found {s : Scan} (h : s.Tidy) :
    s.pending = s.found.filterMap fun a => a.slot?.map (·.1) := by
  rw [h.pending_eq, found, List.filterMap_filter, List.filterMap_map]
  refine List.filterMap_congr fun v _ => ?_
  cases hv : v.2.slot? <;> simp [hv]

/-! ## Cuts -/

/-- The value of a placeholder, which stands on its own. -/
def Formatter.value (f : Formatter) (e : Event) (span : Text) : Option Text :=
  (f.replacement e span).bind (·.1)

/-- A template, cut at its placeholders. -/
structure Cuts (t : Text) where
  /-- Where its markers are, how each is counted, and the sizes of the placeholders. -/
  markers : List (Nat × Option Strategy × Option Nat)
  parts : List Part
  /-- The placeholders, without their markers. -/
  spans : List Text
  count_pending : parts.count .pending = spans.length
  assemble_eq : assemble parts (spans.map fun span => some (marker :: span)) = t

/-- The scan of the template by a formatter for an event cuts it in this way, and each placeholder
means on its own what it means in the template. -/
structure Cuts.Describes {t : Text} (c : Cuts t) (f : Formatter) (e : Event) : Prop where
  markers : (f.scan e t).cuts = c.markers
  parts : (f.scan e t).parts = c.parts
  placeholders : (f.scan e t).placeholders t = c.spans.map (marker :: ·)
  found : (f.scan e t).found = c.spans.map (f.answer e 0)
  slots : ∀ span ∈ c.spans,
    (f.answer e 0 span).slot? = some (.ready (f.value e span), Text.byteSize span)

namespace Formatter

variable {f : Formatter} {e : Event} {t behind : Text} {offset : Nat}

/-- The text of a placeholder, as it stands behind its marker. -/
lemma exists_span_of_slot? (hf : f.extensions = []) (hmarker : MarkerAt t offset behind)
    {p : Pending} {size : Nat} (h : (f.answer e offset behind).slot? = some (p, size)) :
    ∃ span, t.slice offset (offset + 1 + size) = marker :: span ∧
      f.answer e offset behind = f.answer e 0 span ∧
      (f.answer e 0 span).slot? = some (.ready (f.value e span), Text.byteSize span) := by
  obtain ⟨used, rest, rfl, rfl⟩ := exists_of_slot? h
  have halone := answer_eq_of_slot? hf h 0
  refine ⟨used, hmarker.slice, halone.symm, ?_⟩
  obtain ⟨text, rfl⟩ := exists_ready_of_slot? hf h
  rw [value, replacement, halone, h]
  rfl

/-- What the markers of a list are answered stands in the texts of its placeholders. -/
lemma exists_spans (hf : f.extensions = []) {visited : List (Nat × Answer)}
    (h : ∀ v ∈ visited, ∃ behind, MarkerAt t v.1 behind ∧ v.2 = f.answer e v.1 behind) :
    ∃ spans : List Text,
      (visited.filterMap fun v => v.2.slot?.map fun slot => t.slice v.1 (v.1 + 1 + slot.2))
        = spans.map (marker :: ·) ∧
      ((visited.map (·.2)).filter fun a => a.slot?.isSome) = spans.map (f.answer e 0) ∧
      ∀ span ∈ spans,
        (f.answer e 0 span).slot? = some (.ready (f.value e span), Text.byteSize span) := by
  induction visited with
  | nil => exact ⟨[], rfl, rfl, nofun⟩
  | cons v visited ih =>
    obtain ⟨spans, hplaceholders, hfound, hslots⟩ :=
      ih fun w hw => h w (List.mem_cons_of_mem _ hw)
    obtain ⟨behind, hmarker, hv⟩ := h v (List.mem_cons_self ..)
    -- a marker that stays is in none of the lists, a placeholder is in all of them
    cases hslot : v.2.slot? with
    | none =>
      refine ⟨spans, ?_, ?_, hslots⟩
      · rw [List.filterMap_cons_none (by rw [hslot, Option.map_none]), hplaceholders]
      · rw [List.map_cons, List.filter_cons_of_neg (by simp [hslot]), hfound]
    | some slot =>
      rw [hv] at hslot
      obtain ⟨span, hslice, halone, hspan⟩ := exists_span_of_slot? hf hmarker hslot
      refine ⟨span :: spans, ?_, ?_, ?_⟩
      · rw [← hv] at hslot
        rw [List.filterMap_cons_some (by rw [hslot, Option.map_some]), hplaceholders, hslice]
        rfl
      · rw [← hv] at hslot halone
        rw [List.map_cons, List.filter_cons_of_pos (by simp [hslot]), hfound, halone]
        rfl
      · intro s hs
        rcases List.mem_cons.1 hs with rfl | hs
        · exact hspan
        · exact hslots s hs

/-- Without extensions, no scan fails. -/
lemma failure_scan_eq_none (hf : f.extensions = []) : (f.scan e t).failure = none := by
  by_contra hne
  obtain ⟨error, herror⟩ := Option.ne_none_iff_exists'.1 hne
  obtain ⟨v, hv, hfailure⟩ := failure_scan_eq_some_iff.1 herror
  obtain ⟨behind, -, hanswer⟩ := genuine_scan v hv
  rw [hanswer, (answer_succeeds (sound_of_nil hf) v.1 behind).1] at hfailure
  cases hfailure

/-- The cuts of a template are those of its scan. -/
lemma exists_describes (hf : f.extensions = []) (e : Event) (t : Text) :
    ∃ c : Cuts t, c.Describes f e := by
  obtain ⟨spans, hplaceholders, hfound, hslots⟩ := exists_spans (t := t) hf genuine_scan
  obtain ⟨hassemble, hcount, hlength⟩ :=
    assemble_scan (f := f) (e := e) (t := t) (failure_scan_eq_none hf)
  have hspans : (f.scan e t).placeholders t = spans.map (marker :: ·) := hplaceholders
  have hcount' : (f.scan e t).parts.count .pending = spans.length := by
    rw [hcount, ← hlength, hspans, List.length_map]
  have hassemble' :
      assemble (f.scan e t).parts (spans.map fun span => some (marker :: span)) = t := by
    rw [hspans, List.map_map] at hassemble
    exact hassemble
  exact ⟨⟨(f.scan e t).cuts, (f.scan e t).parts, spans, hcount', hassemble'⟩,
    ⟨rfl, rfl, hspans, hfound, hslots⟩⟩

end Formatter

namespace Cuts

variable {f g : Formatter} {e e' : Event} {t span : Text} {c c' : Cuts t}

/-- A template is cut in one way. -/
lemma Describes.unique (hf : f.extensions = []) (hg : g.extensions = []) (h : c.Describes f e)
    (h' : c'.Describes g e') : c' = c := by
  have hsame := Formatter.scan_sameCuts hf hg e e' t
  have hmarkers : c'.markers = c.markers := by
    rw [← h.markers, ← h'.markers, hsame.cuts]
  have hparts : c'.parts = c.parts := by
    rw [← h.parts, ← h'.parts, hsame.parts]
  have hspans : c'.spans = c.spans := by
    have hmap : c'.spans.map (marker :: ·) = c.spans.map (marker :: ·) := by
      rw [← h.placeholders, ← h'.placeholders, hsame.placeholders]
    exact List.map_injective_iff.2 List.cons_injective hmap
  cases c
  cases c'
  cases hmarkers
  cases hparts
  cases hspans
  rfl

/-- A placeholder on its own is rendered as its value. -/
lemma Describes.format_span (hf : f.extensions = []) (h : c.Describes f e)
    (hspan : span ∈ c.spans) :
    f.format e (marker :: span) = .ok ((f.value e span).getD fallback) := by
  apply Formatter.format_marker (Formatter.sound_of_nil hf)
  rw [Formatter.replacement, h.slots span hspan]
  rfl

/-- A template is rendered as its parts with the values between them. -/
lemma Describes.format (hf : f.extensions = []) (h : c.Describes f e)
    (hscript : Script.body? (Text.trim t) = none) :
    f.format e t = .ok (assemble c.parts (c.spans.map (f.value e))) := by
  have hresult : f.format e t = (f.scan e t).result := by
    rw [Formatter.format_eq_reading_of_sound (Formatter.sound_of_nil hf) hscript]
    exact (Formatter.result_scan_eq_reading fun behind _ =>
      Formatter.answer_succeeds (Formatter.sound_of_nil hf) 0 behind).symm
  have hpending : (f.scan e t).pending = c.spans.map fun span => .ready (f.value e span) := by
    rw [(f.tidy_scan e t).pending_eq_found, h.found, List.filterMap_map]
    refine List.filterMap_eq_map_iff_forall_eq_some.2 fun span hspan => ?_
    rw [Function.comp_apply, h.slots span hspan]
    rfl
  rw [hresult, ← h.parts]
  refine Scan.result_eq_ok (Formatter.failure_scan_eq_none hf) ?_
  rw [hpending, List.map_map, List.map_map]
  rfl

end Cuts

/-- An event of an app whose name reads like a template. -/
def Event.named : Event where
  base := { Event.sample.base with
    appId := ⟨.zero, "$USER_ID $\x7bEVENT_name\x7d Script(1)"⟩ }
  detail := .manual none

namespace Formatter

/-- What a text template is rendered as, without extensions: it is cut in one way, whatever the
event, and the text is that of its parts with each placeholder rendered on its own. -/
theorem exists_cuts {t : Text} (hscript : Script.body? (Text.trim t) = none) :
    ∃ c : Cuts t, ∀ (f : Formatter) (e : Event), f.extensions = [] →
      c.Describes f e ∧
      (∀ span ∈ c.spans, f.format e (marker :: span) = .ok ((f.value e span).getD fallback)) ∧
      f.format e t = .ok (assemble c.parts (c.spans.map (f.value e))) := by
  -- any event tells the cuts
  obtain ⟨c, hc⟩ := exists_describes (f := plain) rfl .sample t
  refine ⟨c, ?_⟩
  intro f e hf
  obtain ⟨c', hc'⟩ := exists_describes hf e t
  obtain rfl := hc.unique rfl hf hc'
  refine ⟨hc', ?_, hc'.format hf hscript⟩
  intro span hspan
  exact hc'.format_span hf hspan

/-- Only the name in the template gives way to a value; those in the name of the app stay. -/
theorem exists_cuts_named :
    plain.format .named "by $app_NAME, $" = .ok "by $USER_ID $\x7bEVENT_name\x7d Script(1), $" ∧
    (plain.scan .named "by $app_NAME, $").parts = (plain.scan .sample "by $app_NAME, $").parts := by
  obtain ⟨c, hc⟩ := exists_cuts (t := "by $app_NAME, $") (by decide)
  obtain ⟨hnamed, -, hformat⟩ := hc plain .named rfl
  obtain ⟨hsample, -, -⟩ := hc plain .sample rfl
  refine ⟨?_, by rw [hnamed.parts, hsample.parts]⟩
  have hparts : c.parts = [.literal "by ", .pending, .literal ", ", .literal "$"] := by
    rw [← hnamed.parts]
    decide +kernel
  have hspans : c.spans = ["app_NAME"] := by
    refine List.map_injective_iff.2 (List.cons_injective (a := marker)) ?_
    rw [← hnamed.placeholders]
    decide +kernel
  rw [hformat, hparts, hspans]
  decide +kernel

end Formatter
end RuleTemplate
