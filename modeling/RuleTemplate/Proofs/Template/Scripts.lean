import RuleTemplate.Proofs.Event.RoundTrip
import RuleTemplate.Proofs.Template.Notes

/-!
# Scripts

A template is a script when, but for white space at both ends, it reads `Script(…)` in any case of
the letters (`Script.Wraps`). Then the engine is asked once, for the text between the parentheses as
it stands, and its answer is the result; nothing else has a say, and no marker is looked at. The
engine has no say in any other template (`Formatter.format_script`).

What the engine sees of the event is the value that the text of the event denotes
(`Event.toSorted_payload`).
-/

namespace RuleTemplate

namespace Script

/-- The text is a script with this body. -/
def Wraps (t body : Text) : Prop :=
  ∃ word, Text.sameLetters word opening = true ∧ t = word ++ (body ++ [')'])

variable {t body : Text}

/-- The body of a script is all that stands between its parentheses. -/
theorem body?_eq_some_iff : body? t = some body ↔ Wraps t body := by
  unfold body?
  constructor
  · intro h
    obtain ⟨⟨hword, hlast⟩, hbody⟩ := Option.ite_none_right_eq_some.1 h
    refine ⟨t.take opening.length, hword, ?_⟩
    have hbehind := List.dropLast_append_getLast? _ hlast
    rw [Option.some.inj hbody] at hbehind
    rw [hbehind, List.take_append_drop]
  · rintro ⟨word, hword, rfl⟩
    have hlength : opening.length = word.length := (Text.length_eq_of_sameLetters hword).symm
    have hbehind : (word ++ (body ++ [')'])).drop opening.length = body ++ [')'] := by
      rw [hlength, List.drop_left]
    have htake : (word ++ (body ++ [')'])).take opening.length = word := by
      rw [hlength, List.take_left]
    simp only [hbehind, htake, hword, List.getLast?_concat, List.dropLast_concat]
    rfl

/-- A text that is no script has no body. -/
lemma body?_eq_none_iff : body? t = none ↔ ∀ body, ¬ Wraps t body := by
  simp only [← body?_eq_some_iff, Option.eq_none_iff_forall_ne_some]

lemma Wraps.ne_nil (h : Wraps t body) : t ≠ [] := by
  obtain ⟨word, -, rfl⟩ := h
  simp

end Script

/-! ## What an engine sees of an event -/

namespace Event

open Json (Reordered)

/-- The event that scripts see is what the text of the event says: its members, in the order of
their names. As far as numbers are read back, it is what is read from that text. -/
theorem toSorted_payload (e : Event) :
    (∃ w : Json, e.payload = w.print ∧ Reordered w e.toJson.toSorted.json) ∧
      ∀ limit, e.toJson.depth ≤ limit →
        (∀ x, .real x ∈ e.toJson.numbers →
          Json.read (Json.Number.real x).print = .ok (.number (.real x))) →
        (Json.readWithin limit e.payload).map Json.toSorted = .ok e.toJson.toSorted := by
  constructor
  · exact ⟨e.toJson, rfl, Json.reordered_sorted e.distinct⟩
  · intro limit hdepth hreal
    have hread := Json.readWithin_print hdepth
    rw [payload, hread, Json.reread_eq_self_of_real hreal]
    rfl

end Event

/-! ## Rendering -/

namespace Formatter

variable {f g : Formatter} {e : Event} {t body : Text}

lemma render_of_wraps (h : Script.Wraps (Text.trim t) body) :
    f.render e t = ⟨(f.engine (context e) body).mapError .script,
      .mode .script :: .delegated (Text.byteSize body)
        :: closing ((f.engine (context e) body).mapError .script)⟩ := by
  obtain ⟨-, hrender⟩ := renderByMode_of_script (f := f) (e := e) h.ne_nil
    (Script.body?_eq_some_iff.2 h)
  rw [render, hrender]
  rfl

/-- Scripts count no placeholder. -/
lemma placeholders_of_wraps (h : Script.Wraps (Text.trim t) body) (seconds : Binary64) :
    (Metrics.ofRendering seconds (f.render e t)).placeholders = .empty := by
  rw [render_of_wraps h]
  cases f.engine (context e) body <;> rfl

/-- A template that is no script is rendered without an engine. -/
lemma render_of_not_wraps (h : ∀ body, ¬ Script.Wraps (Text.trim t) body) (engine : Script.Engine) :
    { f with engine }.render e t = f.render e t := by
  have hscript := Script.body?_eq_none_iff.2 h
  have hmode : { f with engine }.renderByMode e t = f.renderByMode e t := by
    rw [renderByMode, renderByMode]
    simp only [hscript]
    rfl
  rw [render, render, hmode]

lemma delegated_notMem_closing (length : Nat) (result : Except FormatError Text) :
    .delegated length ∉ closing result := by
  cases result <;> simp [closing]

/-- No script goes to an engine, unless the template is one. -/
lemma delegated_notMem_of_not_wraps (h : ∀ body, ¬ Script.Wraps (Text.trim t) body) (length : Nat) :
    .delegated length ∉ (f.render e t).notes := by
  have hscan : .delegated length ∉ (f.scan e t).notes := by
    unfold Scan.notes
    split <;> simp
  unfold render
  by_cases hblank : Text.trim t = []
  · obtain ⟨-, hrender⟩ := renderByMode_of_empty (f := f) (e := e) hblank
    simp [hrender, delegated_notMem_closing]
  · obtain ⟨-, hrender⟩ := renderByMode_of_text (f := f) (e := e) hblank
      (Script.body?_eq_none_iff.2 h)
    simp [hrender, renderText, hscan, delegated_notMem_closing]

/-- A formatter whose engine looks up the name of the event. -/
def scripting : Formatter := ⟨.below [], .pointer "/name", [.sample]⟩

/-- A script is rendered as what the engine answers when it is asked for the body alone, with the
event as the only variable; no marker is looked at, and whatever agrees on that one answer renders
the script in the same way. Every other template is rendered in the same way by every engine. -/
theorem format_script (f : Formatter) (e : Event) (t : Text) :
    (∀ body, Script.Wraps (Text.trim t) body →
      f.format e t = (f.engine (context e) body).mapError .script ∧
      (f.render e t).notes
        = .mode .script :: .delegated (Text.byteSize body) :: closing (f.format e t) ∧
      (∀ seconds, (Metrics.ofRendering seconds (f.render e t)).placeholders = .empty) ∧
      ∀ g : Formatter, g.engine (context e) body = f.engine (context e) body →
        g.render e t = f.render e t) ∧
    ((∀ body, ¬ Script.Wraps (Text.trim t) body) →
      (∀ length, .delegated length ∉ (f.render e t).notes) ∧
      ∀ engine, { f with engine }.render e t = f.render e t) ∧
    (∃ v : Json.Sorted, (context e).entries = [(("event" : Text), v)] ∧
      (∃ w : Json, e.payload = w.print ∧ Json.Reordered w v.json) ∧
      ∀ limit, e.toJson.depth ≤ limit →
        (∀ x, .real x ∈ e.toJson.numbers →
          Json.read (Json.Number.real x).print = .ok (.number (.real x))) →
        (Json.readWithin limit e.payload).map Json.toSorted = .ok v) := by
  refine ⟨?_, ?_, e.toJson.toSorted, rfl, e.toSorted_payload⟩
  · intro body hwraps
    refine ⟨?_, ?_, placeholders_of_wraps hwraps, ?_⟩
    · rw [format, render_of_wraps hwraps]
    · rw [format, render_of_wraps hwraps]
    · intro g hengine
      rw [render_of_wraps hwraps, render_of_wraps hwraps, hengine]
  · intro hwraps
    exact ⟨delegated_notMem_of_not_wraps hwraps, render_of_not_wraps hwraps⟩

/-- A body with a placeholder, a parenthesis and white space; a script that is not closed. -/
theorem format_script_scripting :
    scripting.format .sample "\u2003sCRIPT( $USER_ID) é )\n" = .ok " $USER_ID) é  => \"Manual\"" ∧
    ({ scripting with engine := .disabled } : Formatter).render .sample "Script($USER_ID"
      = scripting.render .sample "Script($USER_ID" := by
  obtain ⟨hscript, -, -⟩ := format_script scripting .sample "\u2003sCRIPT( $USER_ID) é )\n"
  have hwraps : Script.Wraps (Text.trim "\u2003sCRIPT( $USER_ID) é )\n") " $USER_ID) é " :=
    ⟨"sCRIPT(", by decide, by decide⟩
  obtain ⟨-, htext, -⟩ := format_script scripting .sample "Script($USER_ID"
  have hopen : ∀ body, ¬ Script.Wraps (Text.trim "Script($USER_ID") body :=
    Script.body?_eq_none_iff.1 (by decide)
  refine ⟨(hscript _ hwraps).1.trans ?_, (htext hopen).2 _⟩
  decide +kernel

end Formatter
end RuleTemplate
