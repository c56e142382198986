import RuleTemplate.Proofs.Event.Reread
import RuleTemplate.Proofs.Event.Run

/-!
# Events come back from their text

The text of an event is that of an object that names a kind once, so it is known what is read from
it (`Event.read_object`): the event, where each binary64 is read back from its digits
(`Event.read_of_legible`). A text that is cut short, or continued by more than blanks, is never
taken for an event (`Event.read_damaged_payload`).
-/

namespace RuleTemplate.Event

open Json (Reordered nestingLimit)

/-- The text of an event can be read: it does not nest too deeply, and each binary64 in it is read
back from its digits. -/
structure Legible (e : Event) : Prop where
  depth_le : e.toJson.depth ≤ nestingLimit
  reads_real : ∀ x, .real x ∈ e.toJson.numbers →
    Json.read (Json.Number.real x).print = .ok (.number (.real x))

/-! ## The whole text -/

/-- What is decoded from the value that is read from the text of an event. -/
lemma decode_reread (e : Event) : decode e.toJson.reread = .ok e.reread := by
  rw [← toJson_reread]
  exact decode_reordered (Reordered.refl _)

/-- What is read from the text of an event that is cut short or continued. -/
lemma read_payload_cases {e : Event} (hdepth : e.toJson.depth ≤ nestingLimit) :
    (∀ s t, s ++ t = e.payload → t ≠ [] → read s = .error (.json .ended)) ∧
      ∀ s, read (e.payload ++ s) =
        if s.all Json.Reader.isSpace then .ok e.reread else .error (.json .malformed) :=
  read_object (filter_tag_of_reordered (Reordered.refl _)) hdepth e.decode_reread

lemma reread_of_legible {e : Event} (he : e.Legible) : e.reread = e :=
  reread_eq_self (Json.reread_eq_self_of_real he.reads_real)

/-- The text of an event is read as the event. -/
lemma read_of_legible {e : Event} (he : e.Legible) : read e.payload = .ok e := by
  have hread := (read_payload_cases he.depth_le).2 []
  rw [List.append_nil, reread_of_legible he] at hread
  exact hread

/-- An event comes back from what it is written as. Its JSON form is decoded as the event, also with
the members of its objects sorted; and if its text is legible, that is read as the event. So legible
events with the same text are the same, and what is read from the text of one has that text. -/
theorem read_payload (e : Event) :
    decode e.toJson = .ok e ∧ decode e.toJson.toSorted.json = .ok e ∧
      (e.Legible → read e.payload = .ok e ∧
        (∀ e' : Event, e'.Legible → e'.payload = e.payload → e' = e) ∧
        ∀ e' : Event, read e.payload = .ok e' → e'.payload = e.payload) := by
  have hsorted : Reordered e.toJson e.toJson.toSorted.json := Json.reordered_sorted e.distinct
  refine ⟨decode_reordered (Reordered.refl _), decode_reordered hsorted, ?_⟩
  intro he
  refine ⟨read_of_legible he, ?_, ?_⟩
  · intro e' he' hpayload
    have hread := read_of_legible he'
    rw [hpayload, read_of_legible he] at hread
    exact (Except.ok.inj hread).symm
  · intro e' hread
    rw [read_of_legible he] at hread
    rw [Except.ok.inj hread]

/-- Damaged texts are not taken for events. Whatever is cut off at the end of the text of an event
that does not nest too deeply, what is left has ended too early. Blanks behind the text do not
matter, and anything else there is malformed. -/
theorem read_damaged_payload {e : Event} (hdepth : e.toJson.depth ≤ nestingLimit) :
    (∀ s t, s ++ t = e.payload → t ≠ [] → read s = .error (.json .ended)) ∧
      ∀ s, ((∀ c ∈ s, c ∈ ([' ', '\t', '\n', '\r'] : Text)) →
          read (e.payload ++ s) = .ok e.reread) ∧
        (¬ (∀ c ∈ s, c ∈ ([' ', '\t', '\n', '\r'] : Text)) →
          read (e.payload ++ s) = .error (.json .malformed)) := by
  obtain ⟨hcut, hread⟩ := read_payload_cases hdepth
  refine ⟨hcut, fun s => ?_⟩
  have hblank : s.all Json.Reader.isSpace = true ↔
      ∀ c ∈ s, c ∈ ([' ', '\t', '\n', '\r'] : Text) := by
    rw [List.all_eq_true]
    refine forall₂_congr fun c _ => ?_
    simp only [Json.Reader.isSpace, List.mem_cons, List.not_mem_nil, Bool.or_eq_true,
      decide_eq_true_eq, or_false]
    tauto
  rw [← hblank]
  constructor
  · intro hs
    rw [hread s, if_pos hs]
  · intro hs
    rw [hread s, if_neg hs]

/-- A content item that was created in a leap second before the year zero. -/
def sampleContent : Event where
  base := ⟨⟨.zero, "app"⟩, "ArticleCreated",
    ⟨⟨-1, 12, 31, by decide⟩, 23, 59, 60, 123456789, by decide⟩, -3, "subject:\n1"⟩
  detail := .content {
    user := some ⟨"1", "a@b", [⟨"urn:squidex:name", "é"⟩]⟩
    schemaId := ⟨.zero, "article"⟩
    id := .zero
    action := .created
    data := (KeyMap.empty.insert "gone" none).insert "price" (some (KeyMap.empty.insert "iv"
      (Json.toSorted (.list [.number (.real ⟨true, 0x18000000000000, 1022, by decide⟩), .null]))))
    dataOld := none
    status := "Draft"
    created := ⟨⟨-1, 12, 31, by decide⟩, 23, 59, 60, 0, by decide⟩
    lastModified := ⟨⟨12024, 1, 1, by decide⟩, 0, 0, 0, 500000, by decide⟩
    createdBy := []
    lastModifiedBy := "subject:1" }

theorem read_payload_sampleContent : read sampleContent.payload = .ok sampleContent := by
  have hnumbers : ∀ n ∈ sampleContent.toJson.numbers, Json.read n.print = .ok (.number n) := by
    decide +kernel
  have hlegible : sampleContent.Legible :=
    ⟨by decide +kernel, fun x hx => hnumbers (.real x) hx⟩
  exact ((read_payload sampleContent).2.2 hlegible).1

theorem read_damaged_payload_sampleContent :
    (∀ s t, s ++ t = sampleContent.payload → t ≠ [] → read s = .error (.json .ended)) ∧
      read (sampleContent.payload ++ [' ', '\n']) = .ok sampleContent.reread ∧
        read (sampleContent.payload ++ ['\n', ',']) = .error (.json .malformed) := by
  have hdepth : sampleContent.toJson.depth ≤ nestingLimit := by decide +kernel
  obtain ⟨hcut, hread⟩ := read_damaged_payload hdepth
  exact ⟨hcut, (hread [' ', '\n']).1 (by simp), (hread ['\n', ',']).2 (by simp)⟩

end RuleTemplate.Event
