import Mathlib.Data.List.DropRight
import Mathlib.Tactic.Lemma
import RuleTemplate.Text.Basic

/-!
# Pieces of a text

A text falls into pieces at its separators. Pieces that hold no separator are found again when they
are put together with separators between them (`Text.splitAt_joinWith`), also behind a text that
holds some (`Text.splitAt_append_flatMap`). Of a character that comes several times the last one can
be told like the first (`Text.exists_last`), and all that end the text can be taken off it.
-/

namespace RuleTemplate.Text

variable {c : Char} {s first : Text} {others pieces : List Text}

/-- A separator parts the pieces before it from those behind it. -/
lemma splitAt_append (s t : Text) : splitAt c (s ++ c :: t) = splitAt c s ++ splitAt c t := by
  induction s with
  | nil => simp [splitAt]
  | cons d s ih =>
    obtain ⟨first, others, hs⟩ := List.exists_cons_of_ne_nil (splitAt_ne_nil c s)
    rw [List.cons_append, splitAt, splitAt, ih, hs]
    split <;> rfl

lemma splitAt_of_not_mem (h : c ∉ s) : splitAt c s = [s] := by
  induction s with
  | nil => rfl
  | cons d s ih =>
    obtain ⟨hd, hs⟩ := not_or.1 (mt List.mem_cons.2 h)
    rw [splitAt, if_neg (Ne.symm hd), ih hs]

/-- The first piece of a text ends before the first separator. -/
lemma splitAt_append_cons (h : c ∉ s) (t : Text) : splitAt c (s ++ c :: t) = s :: splitAt c t := by
  rw [splitAt_append, splitAt_of_not_mem h, List.singleton_append]

/-- Pieces without separators that are appended, each behind one, are the last pieces. -/
lemma splitAt_append_flatMap (s : Text) (hothers : ∀ piece ∈ others, c ∉ piece) :
    splitAt c (s ++ others.flatMap (c :: ·)) = splitAt c s ++ others := by
  induction others generalizing s with
  | nil => rw [List.flatMap_nil, List.append_nil, List.append_nil]
  | cons piece others ih =>
    obtain ⟨hpiece, hrest⟩ := List.forall_mem_cons.1 hothers
    rw [List.flatMap_cons, ← List.append_assoc, ih _ hrest, splitAt_append,
      splitAt_of_not_mem hpiece, List.append_assoc, List.singleton_append]

/-- Pieces without separators, each behind one, are the pieces of a text. -/
lemma splitAt_flatMap (hfirst : c ∉ first) (hothers : ∀ s ∈ others, c ∉ s) :
    splitAt c (first ++ others.flatMap (c :: ·)) = first :: others := by
  rw [splitAt_append_flatMap first hothers, splitAt_of_not_mem hfirst, List.singleton_append]

/-- Different texts have different pieces. -/
lemma splitAt_injective (c : Char) : Function.Injective (splitAt c) :=
  Function.LeftInverse.injective (joinWith_splitAt c)

/-- All pieces but the first one stand behind a separator. -/
lemma joinWith_cons (c : Char) (first : Text) (others : List Text) :
    joinWith [c] (first :: others) = first ++ others.flatMap (c :: ·) := by
  induction others generalizing first with
  | nil => exact (List.append_nil first).symm
  | cons s others ih =>
    have hjoin : joinWith [c] (first :: s :: others) = first ++ [c] ++ joinWith [c] (s :: others) :=
      rfl
    rw [hjoin, ih, List.flatMap_cons, List.append_assoc]
    rfl

/-- Pieces without separators are found again. -/
lemma splitAt_joinWith (hne : pieces ≠ []) (h : ∀ piece ∈ pieces, c ∉ piece) :
    splitAt c (joinWith [c] pieces) = pieces := by
  obtain ⟨first, others, rfl⟩ := List.exists_cons_of_ne_nil hne
  obtain ⟨hfirst, hothers⟩ := List.forall_mem_cons.1 h
  rw [joinWith_cons, splitAt_flatMap hfirst hothers]

/-- What is in a piece is in the text. -/
lemma mem_joinWith {d : Char} {piece : Text} (hpiece : piece ∈ pieces) (hd : d ∈ piece) :
    d ∈ joinWith [c] pieces := by
  obtain ⟨first, others, rfl⟩ := List.exists_cons_of_ne_nil (List.ne_nil_of_mem hpiece)
  rw [joinWith_cons, List.mem_append]
  rcases List.mem_cons.1 hpiece with rfl | hpiece
  · exact .inl hd
  · exact .inr (List.mem_flatMap.2 ⟨piece, hpiece, List.mem_cons_of_mem _ hd⟩)

/-- A text is cut at the last of some character. -/
lemma exists_last (h : c ∈ s) : ∃ before after, s = before ++ c :: after ∧ c ∉ after := by
  -- the last one is the first one from behind
  obtain ⟨after, before, hrev, hafter⟩ := List.eq_append_cons_of_mem (List.mem_reverse.2 h)
  refine ⟨before.reverse, after.reverse, ?_, by simpa using hafter⟩
  rw [← List.reverse_reverse s, hrev]
  simp

/-! ## The end of a text -/

/-- A text is what is left without the last characters of one kind, and those. -/
lemma exists_append_replicate (c : Char) (s : Text) :
    ∃ n, s = s.rdropWhile (· = c) ++ List.replicate n c := by
  have hlast : s.rtakeWhile (· = c) = List.replicate (s.rtakeWhile (· = c)).length c := by
    rw [List.eq_replicate_iff]
    refine ⟨rfl, fun d hd => ?_⟩
    simpa using List.mem_rtakeWhile_imp hd
  refine ⟨(s.rtakeWhile (· = c)).length, ?_⟩
  rw [← hlast, List.rdropWhile_append_rtakeWhile]

/-- Nothing else is left when more of them are appended. -/
lemma rdropWhile_append_replicate (s : Text) (n : Nat) :
    (s ++ List.replicate n c).rdropWhile (· = c) = s.rdropWhile (· = c) := by
  induction n with
  | zero => rw [List.replicate_zero, List.append_nil]
  | succ n ih =>
    rw [List.replicate_succ', ← List.append_assoc, List.rdropWhile_concat_pos _ _ _ (by simp), ih]

end RuleTemplate.Text
