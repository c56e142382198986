import RuleTemplate.Proofs.Event.RoundTrip
import RuleTemplate.Proofs.Node.Texts
import RuleTemplate.Proofs.Template.StrayMarkers

/-!
# When the fallback is rendered

A placeholder by path is rendered as the fallback when nothing is found at the end of its path, and
only then: whatever is found has a text, also the empty one, and that is rendered
(`Formatter.format_found`).
-/

namespace RuleTemplate.Formatter

variable {f : Formatter} {e : Event} {before rest : Text} {p : Placeholder}

/-- Without extensions, a placeholder by path that the scan comes to is rendered as the text at the
end of its path, or as the fallback, and what comes before and behind it is read on its own. -/
lemma format_visited (hf : f.extensions = [])
    (hscript : Script.body? (Text.trim (before ++ marker :: (p.source ++ rest))) = none)
    (hvisited : before.byteSize
      ∈ (f.scan e (before ++ marker :: (p.source ++ rest))).visited.map (·.1))
    (hname : Builtin.find? (p.source ++ rest) = none)
    (hparse : Placeholder.parse? (p.source ++ rest) = some p) :
    f.format e (before ++ marker :: (p.source ++ rest))
      = .ok (reading (f.replacement e) before
        ++ ((((Node.record (.event e)).resolve p.path).1.bind Node.text?).getD fallback
          ++ reading (f.replacement e) rest)) := by
  have hslot : (f.answer e 0 (p.source ++ rest)).slot?
      = some (.ready (((Node.record (.event e)).resolve p.path).1.bind Node.text?),
          Text.byteSize p.source) := by
    rw [answer_of_extensions_eq_nil hf, hname, hparse]
    rfl
  have hread := reading_of_some List.not_mem_nil hslot
  rw [List.nil_append, List.nil_append] at hread
  rw [format_eq_reading_of_sound (sound_of_nil hf) hscript,
    reading_cut hf (mem_behindMarkers_of_visited hf hvisited), hread]
  rfl

/-- The fallback stands for what does not exist, and for nothing else. What a path of at least one
segment leads to in an event has a text. So, without extensions, a placeholder by such a path is
rendered as the fallback when the path leads to nothing, and as the text of what is found
otherwise, wherever in a template the scan comes to it. -/
theorem format_found (hf : f.extensions = []) (e : Event) :
    (∀ path n, path ≠ [] → ((Node.record (.event e)).resolve path).1 = some n →
      ∃ text, n.text? = some text) ∧
    ∀ before p rest,
      Script.body? (Text.trim (before ++ marker :: (p.source ++ rest))) = none →
      before.byteSize ∈ (f.scan e (before ++ marker :: (p.source ++ rest))).visited.map (·.1) →
      Builtin.find? (p.source ++ rest) = none →
      Placeholder.parse? (p.source ++ rest) = some p → p.path ≠ [] →
      (((Node.record (.event e)).resolve p.path).1 = none →
        f.format e (before ++ marker :: (p.source ++ rest))
          = .ok (reading (f.replacement e) before
            ++ (fallback ++ reading (f.replacement e) rest))) ∧
      ∀ n, ((Node.record (.event e)).resolve p.path).1 = some n →
        ∃ text, n.text? = some text ∧
          f.format e (before ++ marker :: (p.source ++ rest))
            = .ok (reading (f.replacement e) before
              ++ (text ++ reading (f.replacement e) rest)) := by
  refine ⟨fun path n hpath hn => Node.exists_text?_of_resolve hpath hn, ?_⟩
  intro before p rest hscript hvisited hname hparse hpath
  have hformat := format_visited hf hscript hvisited hname hparse
  constructor
  · intro hnone
    rw [hformat, hnone]
    rfl
  · intro n hn
    obtain ⟨text, htext⟩ := Node.exists_text?_of_resolve hpath hn
    refine ⟨text, htext, ?_⟩
    rw [hformat, hn, Option.bind_some, htext, Option.getD_some]

/-- An empty text that is found, and old data that are not there. -/
theorem format_found_sampleContent :
    plain.format .sampleContent "by [$\x7bE_createdBy\x7d]" = .ok "by []" ∧
    plain.format .sampleContent "[$\x7bE_dataOld\x7d] $" = .ok "[null] $" := by
  obtain ⟨-, hplaceholders⟩ := format_found (f := plain) rfl .sampleContent
  constructor
  · obtain ⟨-, hfound⟩ := hplaceholders "by [" ⟨"E", ["createdBy"], "\x7bE_createdBy\x7d"⟩ "]"
      (by decide) (by decide +kernel) (by decide) (by decide) (by decide)
    obtain ⟨text, htext, hformat⟩ := hfound (.text []) rfl
    cases htext
    exact hformat.trans (by decide +kernel)
  · obtain ⟨hmissing, -⟩ := hplaceholders "[" ⟨"E", ["dataOld"], "\x7bE_dataOld\x7d"⟩ "] $"
      (by decide) (by decide +kernel) (by decide) (by decide) (by decide)
    exact (hmissing rfl).trans (by decide +kernel)

end RuleTemplate.Formatter
