import RuleTemplate.Proofs.Template.Answer
import RuleTemplate.Proofs.Text.Border
import RuleTemplate.Proofs.Text.Bytes
import RuleTemplate.Template.Builtin

/-!
# The longest built-in name

Names are tried in the order of a table, and the first one that begins a text counts. That is the
longest one that does, as no name stands behind a shorter one that begins it (`Builtin.apart`). The
names are ASCII, so it is the same whether bytes or characters are compared, and what was found ends
between two characters (`Builtin.find?_longest`).
-/

namespace RuleTemplate.Builtin

variable {s t : Text} {b c : Builtin}

lemma mem_all (b : Builtin) : b ∈ all := by cases b <;> decide

lemma ascii_name (b : Builtin) : ∀ c ∈ b.name, c.toNat < 128 := by
  have hall : b.name.all (fun c => decide (c.toNat < 128)) = true := by cases b <;> decide
  simpa using hall

/-- A name begins a text when its bytes do, but for the case of letters. -/
lemma begins_iff : begins t b = true ↔ Text.BytesBegin b.name t :=
  (Text.bytesBegin_iff b.ascii_name).symm

lemma isSome_find?_iff : (find? t).isSome ↔ ∃ b ∈ all, begins t b = true := List.find?_isSome

/-! ## Names that begin others -/

/-- Of two names that begin a text, the shorter one begins the longer one. -/
lemma begins_name (hb : begins t b = true) (hc : begins t c = true)
    (hle : b.name.length ≤ c.name.length) : begins c.name b = true := by
  have htake : Text.lower ((t.take c.name.length).take b.name.length)
      = Text.lower (c.name.take b.name.length) := by
    have hc' := congrArg (List.take b.name.length) (eq_of_beq hc)
    rwa [Text.lower, Text.lower, ← List.map_take, ← List.map_take] at hc'
  rw [List.take_take, Nat.min_eq_left hle] at htake
  rw [begins, Text.sameLetters, ← htake]
  exact hb

/-- No name stands behind another one that begins it. -/
lemma apart : all.Pairwise fun b c => begins c.name b = false := by decide

/-- The name that is found is longer than all others that begin the text. -/
lemma length_lt_of_find? (h : find? t = some b) (hc : begins t c = true) (hne : c ≠ b) :
    c.name.length < b.name.length := by
  obtain ⟨hb, before, behind, hall, hbefore⟩ := List.find?_eq_some_iff_append.1 h
  have hmem := c.mem_all
  rw [hall] at hmem
  rcases List.mem_append.1 hmem with hmem | hmem
  -- a name further up would have been found itself
  · have hnot := hbefore c hmem
    rw [hc] at hnot
    cases hnot
  · have hbehind : c ∈ behind := (List.mem_cons.1 hmem).resolve_left hne
    have hapart := apart
    rw [hall] at hapart
    have hnone := (List.pairwise_cons.1 (List.pairwise_append.1 hapart).2.1).1 c hbehind
    refine Nat.lt_of_not_le fun hle => ?_
    rw [begins_name hb hc hle] at hnone
    cases hnone

/-! ## Lookup -/

/-- The built-in placeholder at the beginning of a text is the one with the longest of the names
with whose bytes the text begins, ignoring the case of ASCII letters. There is one when there is
such a name, and where the name ends, a character of the text ends, whatever follows. -/
theorem find?_longest (t : Text) :
    ((find? t).isSome ↔ ∃ b ∈ all, Text.BytesBegin b.name t) ∧
    ∀ b, find? t = some b →
      Text.BytesBegin b.name t ∧
      (∀ c ∈ all, Text.BytesBegin c.name t → c ≠ b → c.name.length < b.name.length) ∧
      t.IsBorder (Text.byteSize b.name) := by
  constructor
  · simp only [isSome_find?_iff, begins_iff]
  · intro b h
    refine ⟨begins_iff.1 (List.find?_some (p := begins t) h), ?_, ?_⟩
    · intro c _ hc hne
      exact length_lt_of_find? h (begins_iff.2 hc) hne
    · obtain ⟨used, rest, rfl, hsize⟩ := exists_of_find? h
      exact ⟨used, rest, rfl, hsize⟩

/-- A name that another one begins, in front of a longer character, and in small letters. -/
theorem find?_longest_datetime :
    find? "Timestamp_dateTimeé" = some timestampDatetime ∧
    Text.BytesBegin timestampDate.name "Timestamp_dateTimeé" ∧
    timestampDate.name.length < timestampDatetime.name.length ∧
    Text.IsBorder "Timestamp_dateTimeé" 18 := by
  have hfind : find? "Timestamp_dateTimeé" = some timestampDatetime := by decide
  have hdate : Text.BytesBegin timestampDate.name "Timestamp_dateTimeé" := by decide
  obtain ⟨-, hlongest, hborder⟩ := (find?_longest "Timestamp_dateTimeé").2 _ hfind
  exact ⟨hfind, hdate, hlongest _ (by decide) hdate (by decide), hborder⟩

/-! ## The case of letters -/

/-- Texts that are the same but for the case of letters begin with the same names. -/
lemma begins_congr (h : Text.sameLetters s t = true) : begins s = begins t := by
  funext b
  have htake := congrArg (List.take b.name.length) (eq_of_beq h)
  rw [Text.lower, Text.lower, ← List.map_take, ← List.map_take] at htake
  rw [begins, begins, Text.sameLetters, Text.sameLetters, Text.lower, htake]
  rfl

lemma find?_congr (h : Text.sameLetters s t = true) : find? s = find? t := by
  rw [find?, find?, begins_congr h]

end RuleTemplate.Builtin
