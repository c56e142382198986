import RuleTemplate.Proofs.Event.RoundTrip

/-!
# Envelopes

An envelope is the text of an object that holds an event under its name and with its time. Inside
it the event is written as it is on its own, one level deeper, so what is known of the text of a
value holds for all three members at once: an envelope is read as the envelope of what is read from
the text of the event (`Event.read_envelope_eq`), and the event comes back from it
(`Event.read_envelope`).
-/

namespace RuleTemplate.Event

open Json (nestingLimit)

/-! ## The object -/

lemma depth_envelopeJson (e : Event) : e.envelopeJson.depth = e.toJson.depth + 1 := by
  simp only [envelopeJson, Timestamp.toJson, Json.depth, Json.depthMembers]
  omega

/-- The name and the time are read as they are. -/
lemma envelopeJson_reread (e : Event) : e.reread.envelopeJson = e.envelopeJson.reread := by
  have hbase : e.reread.base = e.base := rfl
  simp only [envelopeJson, hbase, toJson_reread, Json.reread, Json.rereadMembers,
    Timestamp.reread_toJson]

/-- The text of an envelope, with that of the event in it. -/
lemma envelope_eq (e : Event) : e.envelope
    = ("\x7b\"type\":" : Text) ++ Json.printString e.base.name ++ (",\"payload\":" : Text)
      ++ e.payload ++ (",\"timestamp\":" : Text) ++ Json.printString e.base.timestamp.text
      ++ ("\x7d" : Text) := by
  have htype : Json.printString "type" = ("\"type\"" : Text) := by decide
  have hpayload : Json.printString "payload" = ("\"payload\"" : Text) := by decide
  have htimestamp : Json.printString "timestamp" = ("\"timestamp\"" : Text) := by decide
  simp only [envelope, envelopeJson, payload, Timestamp.toJson, Json.print, Json.printMembers,
    htype, hpayload, htimestamp]
  simp

/-! ## Reading -/

/-- An envelope that does not nest too deeply is read as the envelope of what is read from the text
of the event. -/
lemma read_envelope_eq {e : Event} (hdepth : e.toJson.depth < nestingLimit) :
    Json.read e.envelope = .ok e.reread.envelopeJson := by
  have hfits : e.envelopeJson.depth ≤ nestingLimit := by
    rw [depth_envelopeJson]
    omega
  rw [envelopeJson_reread]
  exact Json.readWithin_print hfits

/-- The event is determined by the object, as the object holds it. -/
lemma envelopeJson_inj {e e' : Event} (h : e'.envelopeJson = e.envelopeJson) : e' = e := by
  have hpayload : e'.toJson = e.toJson := by
    simp only [envelopeJson, Json.object.injEq, List.cons.injEq, Prod.mk.injEq] at h
    exact h.2.1.2
  have hdecode : decode e'.toJson = .ok e' := decode_reordered (Json.Reordered.refl _)
  rw [hpayload, decode_reordered (Json.Reordered.refl _)] at hdecode
  exact (Except.ok.inj hdecode).symm

/-- An envelope carries the event unchanged. Its text holds that of the event as it is. If the event
is legible, also one level deeper, then the envelope is read as an object of three members: the
first is decoded as the name of the event, the second has the text of the event and is decoded as
the event, also with the members of its objects sorted, and the third is decoded as the time of the
event. So events with the same envelope are the same. -/
theorem read_envelope (e : Event) :
    e.envelope = ("\x7b\"type\":" : Text) ++ Json.printString e.base.name ++ (",\"payload\":" : Text)
      ++ e.payload ++ (",\"timestamp\":" : Text) ++ Json.printString e.base.timestamp.text
      ++ ("\x7d" : Text) ∧
    (e.Legible → e.toJson.depth < nestingLimit →
      read e.payload = .ok e ∧
      (∃ type payload timestamp,
        Json.read e.envelope = .ok
          (.object [("type", type), ("payload", payload), ("timestamp", timestamp)]) ∧
        (∀ scope, Decoder.text scope type = .ok e.base.name) ∧
        payload.print = e.payload ∧ decode payload = .ok e ∧
        decode payload.toSorted.json = .ok e ∧
        ∀ scope, Decoder.timestamp scope timestamp = .ok e.base.timestamp) ∧
      ∀ e' : Event, e'.Legible → e'.toJson.depth < nestingLimit → e'.envelope = e.envelope →
        e' = e) := by
  refine ⟨e.envelope_eq, fun he hdepth => ⟨read_of_legible he, ?_, ?_⟩⟩
  · have hread := read_envelope_eq hdepth
    rw [reread_of_legible he] at hread
    have hsorted : Json.Reordered e.toJson e.toJson.toSorted.json :=
      Json.reordered_sorted e.distinct
    have htype := Decoder.accepts_text e.base.name
    have htimestamp := Decoder.accepts_timestamp e.base.timestamp
    refine ⟨_, _, _, hread, fun scope => htype scope _ (Json.Reordered.refl _), rfl,
      decode_reordered (Json.Reordered.refl _), decode_reordered hsorted,
      fun scope => htimestamp scope _ (Json.Reordered.refl _)⟩
  · intro e' he' hdepth' hsame
    have hread := read_envelope_eq hdepth'
    rw [hsame, read_envelope_eq hdepth, reread_of_legible he, reread_of_legible he'] at hread
    exact envelopeJson_inj (Except.ok.inj hread).symm

/-- A name that needs escapes, in an envelope whose time is a leap second before the year zero. -/
def sampleQuoted : Event :=
  { sampleContent with base := { sampleContent.base with name := "a\"\n\\é" } }

theorem read_envelope_sampleQuoted :
    ∃ type payload timestamp,
      Json.read sampleQuoted.envelope = .ok
        (.object [("type", type), ("payload", payload), ("timestamp", timestamp)]) ∧
      Decoder.text .document type = .ok "a\"\n\\é" ∧ payload.print = sampleQuoted.payload ∧
      decode payload = .ok sampleQuoted ∧
      Decoder.timestamp .document timestamp = .ok sampleContent.base.timestamp := by
  have hnumbers : ∀ n ∈ sampleQuoted.toJson.numbers, Json.read n.print = .ok (.number n) := by
    decide +kernel
  have hlegible : sampleQuoted.Legible :=
    ⟨by decide +kernel, fun x hx => hnumbers (.real x) hx⟩
  obtain ⟨-, ⟨type, payload, timestamp, hread, htype, hprint, hpayload, -, htimestamp⟩, -⟩ :=
    (read_envelope sampleQuoted).2 hlegible (by decide +kernel)
  exact ⟨type, payload, timestamp, hread, htype _, hprint, hpayload, htimestamp _⟩

end RuleTemplate.Event
