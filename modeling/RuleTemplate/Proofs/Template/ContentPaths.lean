import RuleTemplate.Proofs.Event.RoundTrip
import RuleTemplate.Proofs.Node.JsonForm
import RuleTemplate.Proofs.Template.Braces
import RuleTemplate.Proofs.Template.Grammar

/-!
# Paths into content data

A placeholder in braces can name what is in the data of a content item, by a path of points and
segments. Its segments are read off as they are written (`Placeholder.segments_path`), the event
leads to its data, ignoring the case of the name, and from there on the placeholder has the text of
what stands at the path in the JSON form of the event (`Formatter.format_content`).
-/

namespace RuleTemplate

/-! ## The data of an event -/

namespace Event

variable {e : Event} {change : ContentChange}

/-- The data is found ignoring the case of its name, and what is found there has the text of what
stands at the path in the JSON form of the event. -/
lemma text?_resolve_data (h : e.content? = some change) (path : List Text) :
    ((Node.record (.event e)).resolve ("DATA" :: path)).1.bind Node.text?
      = (e.toJson.follow ("data" :: path)).bind Json.text? := by
  obtain ⟨base, detail⟩ := e
  cases detail_eq_of_content? h
  have hnode : (Node.record (.event ⟨base, .content change⟩)).child? "DATA"
      = some (.data change.data) := rfl
  have hjson : (toJson ⟨base, .content change⟩).child? "data" = some change.data.toJson := rfl
  rw [Node.resolve, Json.follow, hnode, hjson]
  exact (Node.Shows.data change.data).text?_resolve path

end Event

/-! ## Templates -/

namespace Formatter

variable {f : Formatter} {e : Event} {change : ContentChange}

/-- Without extensions, a placeholder in braces for a path into the data of a content item gives way
to the text of what stands there in the JSON form of the event, if anything but null does, and the
text around it stays. -/
theorem format_content (before : Text) (path : List Text) (behind : Text)
    (hf : f.extensions = []) (hcontent : e.content? = some change)
    (hpath : ∀ s ∈ path, Placeholder.Segment s) (hbefore : marker ∉ before)
    (hbehind : marker ∉ behind) (hends : behind.EndsRun)
    (hscript : Script.body? (Text.trim (before ++ ("$\x7bCONTENT_DATA" : Text)
      ++ path.flatMap ('.' :: ·) ++ ("\x7d" : Text) ++ behind)) = none) :
    f.format e (before ++ ("$\x7bCONTENT_DATA" : Text) ++ path.flatMap ('.' :: ·)
        ++ ("\x7d" : Text) ++ behind)
      = .ok (before ++ ((e.toJson.follow ("data" :: path)).bind Json.text?).getD fallback
        ++ behind) := by
  have htext : before ++ ("$\x7bCONTENT_DATA" : Text) ++ path.flatMap ('.' :: ·)
      ++ ("\x7d" : Text) ++ behind = before ++ marker
        :: (Placeholder.bracedText "CONTENT" ("DATA" ++ path.flatMap ('.' :: ·)) ++ behind) := by
    simp [Placeholder.bracedText, marker]
  have hkind : '_' ∉ ("CONTENT" : Text) := by decide
  have hdata : Placeholder.Segment "DATA" := by decide
  have hrun : '\x7d' ∉ Text.run behind := by
    rw [Text.run_eq_nil hends]
    exact List.not_mem_nil
  have hvalue := replacement_braced (e := e) hf hkind
    (Placeholder.isBlank_path hdata hpath) hrun
  rw [Placeholder.segments_path hdata hpath, Event.text?_resolve_data hcontent] at hvalue
  rw [format_eq_reading_of_sound (sound_of_nil hf) hscript, htext,
    reading_append_of_some hbefore hvalue, Text.dropBytes_byteSize_append,
    reading_of_not_mem hbehind, List.append_assoc]

/-- The item of a list in a field, and a path through a field that is null. -/
theorem format_content_price :
    plain.format .sampleContent "now $\x7bCONTENT_DATA.price.iv.0\x7d €" = .ok "now -1.5 €" ∧
    plain.format .sampleContent "$\x7bCONTENT_DATA.gone.iv\x7d" = .ok "null" := by
  have hends : Text.EndsRun " €" := by
    rintro c ⟨⟩
    decide
  constructor
  · have hprice := format_content (f := plain) (e := .sampleContent) "now " ["price", "iv", "0"]
      " €" rfl rfl (by decide) (by decide) (by decide) hends (by decide)
    exact hprice.trans (by decide +kernel)
  · have hgone := format_content (f := plain) (e := .sampleContent) [] ["gone", "iv"] [] rfl rfl
      (by decide) (by decide) (by decide) nofun (by decide)
    exact hgone.trans (by decide +kernel)

end Formatter
end RuleTemplate
