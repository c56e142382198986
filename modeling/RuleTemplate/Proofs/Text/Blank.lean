import Mathlib.Data.List.TakeWhile
import RuleTemplate.Proofs.Text.Letters

/-!
# Runs and white space

A text is cut before the first character of some kind. A `run` is what it begins with up to its
first blank. It does not change when a text is appended that begins with white space. Trimming takes
white space off both ends; it leaves nothing exactly of the texts that are white space, and it does
not touch a first character that is none.
-/

namespace RuleTemplate.Text

/-! ## Up to a character -/

section
variable {c : Char} {s : Text}

/-- In a text without a character, all are others. -/
lemma forall_ne_of_notMem (h : c ∉ s) : ∀ d ∈ s, decide (d ≠ c) = true := by
  intro d hd
  apply decide_eq_true
  rintro rfl
  exact h hd

lemma takeWhile_ne_append_cons (h : c ∉ s) (t : Text) : (s ++ c :: t).takeWhile (· ≠ c) = s := by
  rw [List.takeWhile_append_of_pos (forall_ne_of_notMem h), List.takeWhile_cons_of_neg (by simp),
    List.append_nil]

lemma dropWhile_ne_append_cons (h : c ∉ s) (t : Text) :
    (s ++ c :: t).dropWhile (· ≠ c) = c :: t := by
  rw [List.dropWhile_append_of_pos (forall_ne_of_notMem h), List.dropWhile_cons_of_neg (by simp)]

end

/-! ## Runs -/

/-- The characters up to the next blank. -/
def run (t : Text) : Text := t.takeWhile fun c => !isBlank c

variable {t word : Text}

lemma run_append (h : ∀ c ∈ word, isBlank c = false) : run (word ++ t) = word ++ run t :=
  List.takeWhile_append_of_pos fun c hc => by rw [h c hc]; rfl

lemma isBlank_of_mem_run {c : Char} (h : c ∈ run t) : isBlank c = false := by
  have := List.mem_takeWhile_imp h
  simpa using this

/-- A run goes on to its own end. -/
lemma run_run (t : Text) : run (run t) = run t := by
  have happend := run_append (t := []) fun c hc => isBlank_of_mem_run hc (t := t)
  rw [List.append_nil] at happend
  exact happend.trans (List.append_nil _)

/-- A run ends before a blank, or with the text. -/
lemma run_dropWhile (t : Text) : run (t.dropWhile fun c => !isBlank c) = [] := by
  rw [run, List.takeWhile_eq_nil_iff]
  intro hlt
  have hhead := List.head_dropWhile_not (fun c => !isBlank c) (List.ne_nil_of_length_pos hlt)
  rw [List.head_eq_getElem] at hhead
  simpa using hhead

/-- The text is empty, or white space comes first: where it is appended, it ends a run. -/
def EndsRun (t : Text) : Prop := ∀ c ∈ t.head?, isBlank c = true

lemma run_eq_nil (h : t.EndsRun) : run t = [] := by
  cases t with
  | nil => rfl
  | cons c t =>
    apply List.takeWhile_cons_of_neg
    rw [h c rfl]
    decide

/-- What is cut off a text behind which a run ends does not open another one. -/
lemma endsRun_of_run_append {s : Text} (h : run (s ++ t) = []) : s.EndsRun := by
  intro c hc
  obtain ⟨s, rfl⟩ := List.head?_eq_some_iff.1 hc
  by_contra hblank
  rw [run, List.cons_append, List.takeWhile_cons_of_pos (by simpa using hblank)] at h
  cases h

/-- A run goes on, when the text does. -/
lemma mem_run_append {c : Char} {s : Text} (h : c ∈ run s) (t : Text) : c ∈ run (s ++ t) := by
  have hsplit := List.takeWhile_append_dropWhile (p := fun c => !isBlank c) (l := s)
  rw [← hsplit, List.append_assoc, ← run, run_append fun d hd => isBlank_of_mem_run hd]
  exact List.mem_append_left _ h

lemma mem_of_mem_run {c : Char} (h : c ∈ run t) : c ∈ t := (List.takeWhile_sublist _).mem h

/-- A run that does not end in a text ends where such a text is appended. -/
lemma run_append_of_endsRun (s : Text) (h : t.EndsRun) : run (s ++ t) = run s := by
  induction s with
  | nil => exact run_eq_nil h
  | cons c s ih =>
    unfold run at ih ⊢
    by_cases hc : isBlank c = true
    · rw [List.cons_append, List.takeWhile_cons_of_neg (by simp [hc]),
        List.takeWhile_cons_of_neg (by simp [hc])]
    · rw [List.cons_append, List.takeWhile_cons_of_pos (by simp [hc]),
        List.takeWhile_cons_of_pos (by simp [hc]), ih]

/-! ## White space -/

/-- White space has no case. -/
lemma isBlank_toLower {c : Char} (h : isBlank c = true) : isBlank c.toLower = true := by
  rcases toLower_cases c with hsame | ⟨hlow, hhigh, -⟩
  · rwa [hsame]
  · simp [isBlank, blankRuns] at h
    omega

lemma trimStart_cons {c : Char} (h : isBlank c = false) (t : Text) :
    trimStart (c :: t) = c :: t := List.dropWhile_cons_of_neg (by simp [h])

/-- Nothing but white space is trimmed to nothing. -/
lemma isBlank_of_trim_eq_nil (h : trim t = []) : ∀ c ∈ t, isBlank c = true := by
  have hstart : trimStart t = [] := by
    by_contra hne
    have hall := List.dropWhile_eq_nil_iff.1 (List.reverse_eq_nil_iff.1 h)
    have hhead : isBlank ((trimStart t).head hne) = false := List.head_dropWhile_not isBlank hne
    rw [hall _ (List.mem_reverse.2 (List.head_mem hne))] at hhead
    cases hhead
  exact List.dropWhile_eq_nil_iff.1 hstart

/-- White space is taken off the end of a text that begins with another character. -/
lemma exists_trim_cons {c : Char} (h : isBlank c = false) (t : Text) :
    ∃ u, trim (c :: t) = c :: u := by
  rw [trim, trimStart_cons h, List.reverse_cons, trimStart, List.dropWhile_append]
  -- from behind, white space is passed over until `c` at the latest
  split
  · rw [List.dropWhile_cons_of_neg (by simp [h])]
    exact ⟨[], rfl⟩
  · exact ⟨_, List.reverse_append⟩

end RuleTemplate.Text
