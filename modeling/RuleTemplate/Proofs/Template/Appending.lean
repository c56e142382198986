import RuleTemplate.Proofs.Template.Braces
import RuleTemplate.Proofs.Template.Recognition

/-!
# Text behind a template

White space ends every placeholder in front of it. So when a text that begins with white space is
appended to a template whose markers all stand for something, the scan comes to the same markers and
finds the same there (`Formatter.visited_scan`), and then reads the rest on its own
(`Formatter.format_append`).

A marker that stands for nothing has no end: the kind of a placeholder may hold white space, so an
underscore in the text that is appended can make a placeholder of it.
-/

namespace RuleTemplate
namespace Formatter

variable {f : Formatter} {e : Event} {s : Scan} {t held rest behind a b : Text}

/-! ## Where the scan comes to -/

/-- The marker of the template in front of `behind`, and what that means. -/
def markerBefore (f : Formatter) (e : Event) (t behind : Text) : Nat × Answer :=
  let offset := t.byteSize - (behind.byteSize + 1)
  (offset, f.answer e offset behind)

/-- The offset of a marker is told by what is behind it. -/
lemma markerBefore_eq {before : Text} (hat : s.At t held (before ++ marker :: behind)) :
    f.markerBefore e t behind = (s.cursor + Text.byteSize before,
      f.answer e (s.cursor + Text.byteSize before) behind) := by
  have hoffset : t.byteSize - (behind.byteSize + 1) = s.cursor + Text.byteSize before := by
    obtain ⟨found, rfl, -, hcursor⟩ := hat
    have hmarker : marker.utf8Size = 1 := rfl
    simp only [hcursor, Text.byteSize_append, Text.byteSize_cons, hmarker]
    omega
  unfold markerBefore
  rw [hoffset]

/-- From any state on, a scan in which no marker fails comes to the markers of the reading. -/
lemma visited_run (hat : s.At t held rest)
    (h : ∀ behind ∈ behindMarkers (f.replacement e) rest, (f.answer e 0 behind).failure? = none) :
    (s.run (f.answer e) t).visited
      = s.visited ++ (behindMarkers (f.replacement e) rest).map (f.markerBefore e t) := by
  induction rest using f.markers_induct e generalizing s held with
  | literal rest hmem =>
    rw [hat.run_of_not_mem hmem, behindMarkers_of_not_mem hmem]
    exact (List.append_nil _).symm
  | stays before behind hbefore hslot ih =>
    rw [behindMarkers_of_none hbefore hslot] at h ⊢
    obtain ⟨hoffset, hrun⟩ := run_of_reading hat hbefore (h behind (List.mem_cons_self ..))
    rw [hrun, ih (hat.visit_of_none hslot) fun b hb => h b (List.mem_cons_of_mem _ hb),
      Scan.visited_visit, List.append_assoc, List.map_cons, markerBefore_eq hat, hoffset]
    rfl
  | replaced before used rest p hbefore hslot ih =>
    rw [behindMarkers_of_some hbefore hslot] at h ⊢
    obtain ⟨hoffset, hrun⟩ := run_of_reading hat hbefore (h _ (List.mem_cons_self ..))
    rw [hrun, ih (hat.visit_of_some hslot rfl) fun b hb => h b (List.mem_cons_of_mem _ hb),
      Scan.visited_visit, List.append_assoc, List.map_cons, markerBefore_eq hat, hoffset]
    rfl

/-- Without extensions, a scan comes to the markers of the reading. -/
lemma visited_scan (hf : f.extensions = []) (e : Event) (t : Text) :
    (f.scan e t).visited = (behindMarkers (f.replacement e) t).map (f.markerBefore e t) := by
  have hok : ∀ behind ∈ behindMarkers (f.replacement e) t,
      (f.answer e 0 behind).failure? = none :=
    fun behind _ => (answer_succeeds (sound_of_nil hf) 0 behind).1
  rw [scan, visited_run (Scan.at_start t) hok, List.nil_append]

/-! ## One text behind another -/

/-- Each marker that the reading comes to stands for something. -/
def Recognises (f : Formatter) (e : Event) (t : Text) : Prop :=
  ∀ behind ∈ behindMarkers (f.replacement e) t, (f.answer e 0 behind).slot?.isSome

/-- Without extensions, these are the markers of the scan. -/
lemma recognises_of_scan (hf : f.extensions = [])
    (h : ∀ v ∈ (f.scan e t).visited, v.2.slot?.isSome) : f.Recognises e t := by
  intro behind hbehind
  rw [visited_scan hf] at h
  have hslot : (f.answer e (t.byteSize - (behind.byteSize + 1)) behind).slot?.isSome :=
    h _ (List.mem_map_of_mem hbehind)
  rwa [answer_eq_of_failure?_eq_none (answer_succeeds (sound_of_nil hf) 0 behind).1] at hslot

/-- A text in which every marker stands for something is read as before, when a text is appended
that begins with white space; that is read on its own. -/
lemma reading_append (hf : f.extensions = []) (hb : b.EndsRun) (ha : f.Recognises e a) :
    reading (f.replacement e) (a ++ b)
        = reading (f.replacement e) a ++ reading (f.replacement e) b ∧
      behindMarkers (f.replacement e) (a ++ b)
        = (behindMarkers (f.replacement e) a).map (· ++ b)
          ++ behindMarkers (f.replacement e) b := by
  induction a using f.markers_induct e with
  | literal rest hmem =>
    rw [reading_of_not_mem hmem, behindMarkers_of_not_mem hmem]
    exact append_left_of_not_mem hmem b
  | stays before behind hbefore hslot =>
    unfold Recognises at ha
    rw [behindMarkers_of_none hbefore hslot] at ha
    have hsome := ha behind (List.mem_cons_self ..)
    rw [hslot] at hsome
    cases hsome
  | replaced before used rest p hbefore hslot ih =>
    unfold Recognises at ha
    rw [behindMarkers_of_some hbefore hslot] at ha
    obtain ⟨hreading, hmarkers⟩ := ih fun behind h => ha behind (List.mem_cons_of_mem _ h)
    -- the placeholder is the same one in front of `b`
    have hnext : (f.answer e 0 (used ++ (rest ++ b))).slot? = some (p, Text.byteSize used) := by
      rw [← List.append_assoc, answer_append_of_endsRun hf (ha _ (List.mem_cons_self ..)) hb, hslot]
    have htext : before ++ marker :: (used ++ rest) ++ b
        = before ++ marker :: (used ++ (rest ++ b)) := by simp
    constructor
    · rw [htext, reading_of_some hbefore hnext, reading_of_some hbefore hslot, hreading]
      simp
    · rw [htext, behindMarkers_of_some hbefore hnext, behindMarkers_of_some hbefore hslot, hmarkers]
      simp

/-- The markers of a text are found again at their places, when a text is appended. -/
lemma markerBefore_append (hf : f.extensions = []) (hb : b.EndsRun)
    (hbehind : (f.answer e 0 behind).slot?.isSome) :
    f.markerBefore e (a ++ b) (behind ++ b) = f.markerBefore e a behind := by
  have hoffset : (a ++ b).byteSize - ((behind ++ b).byteSize + 1)
      = a.byteSize - (behind.byteSize + 1) := by
    rw [Text.byteSize_append, Text.byteSize_append]
    omega
  unfold markerBefore
  rw [hoffset]
  refine congrArg _ (answer_append_of_endsRun hf ?_ hb)
  rwa [answer_eq_of_failure?_eq_none (answer_succeeds (sound_of_nil hf) 0 behind).1]

/-- Without extensions, when every marker of a template stands for something, a text that begins
with white space can be rendered on its own and put behind it: the markers of the template are still
the first that the scan comes to, and mean the same there. -/
theorem format_append (hf : f.extensions = []) (hb : b.EndsRun)
    (hrecognised : ∀ v ∈ (f.scan e a).visited, v.2.slot?.isSome)
    (hscript : Script.body? (Text.trim a) = none) (hscript' : Script.body? (Text.trim b) = none)
    (hboth : Script.body? (Text.trim (a ++ b)) = none) :
    (∃ x y, f.format e a = .ok x ∧ f.format e b = .ok y ∧ f.format e (a ++ b) = .ok (x ++ y)) ∧
      (f.scan e a).visited <+: (f.scan e (a ++ b)).visited := by
  have ha := recognises_of_scan hf hrecognised
  obtain ⟨hreading, hmarkers⟩ := reading_append hf hb ha
  constructor
  · refine ⟨_, _, format_eq_reading_of_sound (sound_of_nil hf) hscript,
      format_eq_reading_of_sound (sound_of_nil hf) hscript', ?_⟩
    rw [format_eq_reading_of_sound (sound_of_nil hf) hboth, hreading]
  · have hsame : ((behindMarkers (f.replacement e) a).map (· ++ b)).map (f.markerBefore e (a ++ b))
        = (behindMarkers (f.replacement e) a).map (f.markerBefore e a) := by
      rw [List.map_map]
      apply List.map_congr_left
      intro behind hbehind
      exact markerBefore_append hf hb (ha behind hbehind)
    rw [visited_scan hf, visited_scan hf, hmarkers, List.map_append, hsame]
    exact List.prefix_append ..

/-- A brace, a second placeholder and a marker behind the white space. -/
theorem format_append_greeting :
    plain.format .sample "by $app_name: $\x7bEVENT_name\x7d\u2003\x7d $event_name $"
      = .ok "by app: Manual\u2003\x7d Manual $" := by
  have hrecognised : ∀ v ∈ (plain.scan .sample "by $app_name: $\x7bEVENT_name\x7d").visited,
      v.2.slot?.isSome := by decide +kernel
  have hblank : Text.EndsRun "\u2003\x7d $event_name $" := by
    intro c hc
    cases hc
    decide
  obtain ⟨⟨x, y, hx, hy, h⟩, -⟩ := format_append (f := plain) (e := .sample)
    (b := "\u2003\x7d $event_name $") rfl hblank hrecognised (by decide) (by decide) (by decide)
  have hx' : plain.format .sample "by $app_name: $\x7bEVENT_name\x7d" = .ok "by app: Manual" := by
    decide +kernel
  have hy' : plain.format .sample "\u2003\x7d $event_name $" = .ok "\u2003\x7d Manual $" := by
    decide +kernel
  have htext : ("by $app_name: $\x7bEVENT_name\x7d" : Text) ++ ("\u2003\x7d $event_name $" : Text)
      = "by $app_name: $\x7bEVENT_name\x7d\u2003\x7d $event_name $" := by decide
  cases hx.symm.trans hx'
  cases hy.symm.trans hy'
  rw [htext] at h
  exact h.trans (by decide +kernel)

end Formatter
end RuleTemplate
