import RuleTemplate.Proofs.Calendar.Timestamp

/-!
# Parts of a written moment

The full form of a moment is cut at two marks that occur in it once: its day ends before the `T`,
and the fraction of its second is all that stands behind the point, but for the `Z` at the end. So
the shorter forms of a moment can be told from the full one (`withoutFraction_text`,
`takeWhile_textToSecond`).
-/

namespace RuleTemplate

namespace Text

/-- A text without its first point and the digits behind that. -/
def withoutFraction (t : Text) : Text :=
  t.takeWhile (· ≠ '.')
    ++ (t.dropWhile (· ≠ '.')).dropWhile fun c => c = '.' || (digit? c).isSome

variable {c : Char} {stem digits t : Text}

lemma notMem_padded (hc : digit? c = none) (width n : Nat) : c ∉ padded width n := by
  intro hmem
  have hdigit := isSome_digit?_of_mem_padded hmem
  rw [hc] at hdigit
  cases hdigit

lemma withoutFraction_of_notMem (h : '.' ∉ t) : withoutFraction t = t := by
  have hall := forall_ne_of_notMem h
  unfold withoutFraction
  rw [List.takeWhile_eq_self_iff.2 hall, List.dropWhile_eq_nil_iff.2 hall, List.dropWhile_nil,
    List.append_nil]

/-- Behind the point, the digits end before the `Z`. -/
lemma withoutFraction_append (hstem : '.' ∉ stem) (hdigits : ∀ c ∈ digits, (digit? c).isSome) :
    withoutFraction (stem ++ '.' :: digits ++ ['Z']) = stem ++ ['Z'] := by
  have hfraction : ∀ c ∈ '.' :: digits, (decide (c = '.') || (digit? c).isSome) = true := by
    intro c hc
    rcases List.mem_cons.1 hc with rfl | hc
    · rfl
    · rw [hdigits c hc, Bool.or_true]
  have hlast : List.dropWhile (fun c => decide (c = '.') || (digit? c).isSome) ['Z'] = ['Z'] := rfl
  unfold withoutFraction
  rw [List.append_assoc, List.cons_append, takeWhile_ne_append_cons hstem,
    dropWhile_ne_append_cons hstem, ← List.cons_append, List.dropWhile_append_of_pos hfraction,
    hlast]

end Text

variable {c : Char}

/-- A day is written in digits, hyphens and perhaps a plus sign. -/
lemma Date.notMem_text (hdigit : Text.digit? c = none) (hminus : c ≠ '-') (hplus : c ≠ '+')
    (d : Date) : c ∉ d.text := by
  have hyear : c ∉ Date.yearText d.year := by
    have hpadded := Text.notMem_padded hdigit 4 d.year.natAbs
    unfold Date.yearText
    simp only
    split
    · simp [hminus, hpadded]
    · split
      · simp [hplus, hpadded]
      · exact hpadded
  simp [Date.text, hyear, hminus, Text.notMem_padded hdigit]

namespace Timestamp

/-- There is no point before the fraction. -/
lemma point_notMem_stem (t : Timestamp) : '.' ∉ t.stem := by
  have hdate : '.' ∉ t.date.text :=
    Date.notMem_text (by decide) (by decide) (by decide) t.date
  have hpadded : ∀ n, '.' ∉ Text.padded 2 n := Text.notMem_padded (by decide) 2
  simp [stem, hdate, hpadded]

/-- Without its fraction, the full form is the form that is given to the second. -/
lemma withoutFraction_text (t : Timestamp) : Text.withoutFraction t.text = t.textToSecond := by
  have hfraction : fractionText t.nanosecond = [] ∨
      ∃ width n, fractionText t.nanosecond = '.' :: Text.padded width n := by
    unfold fractionText
    split
    · exact .inl rfl
    · split
      · exact .inr ⟨_, _, rfl⟩
      · split <;> exact .inr ⟨_, _, rfl⟩
  have hstem := t.point_notMem_stem
  unfold text textToSecond
  rcases hfraction with hnone | ⟨width, n, hsome⟩
  · rw [hnone, List.append_nil]
    apply Text.withoutFraction_of_notMem
    simp [hstem]
  · rw [hsome]
    exact Text.withoutFraction_append hstem fun c hc => Text.isSome_digit?_of_mem_padded hc

lemma mem_textToSecond (t : Timestamp) : 'T' ∈ t.textToSecond := by simp [textToSecond, stem]

/-- The day ends before the `T`. -/
lemma takeWhile_textToSecond (t : Timestamp) :
    t.textToSecond.takeWhile (· ≠ 'T') = t.dateText := by
  have hdate : 'T' ∉ t.date.text :=
    Date.notMem_text (by decide) (by decide) (by decide) t.date
  unfold textToSecond stem dateText
  rw [List.append_assoc, List.cons_append, Text.takeWhile_ne_append_cons hdate]

end Timestamp
end RuleTemplate
