import Mathlib.Tactic.Lemma
import RuleTemplate.Text.Slice

/-!
# Borders

A border is an offset at which a text can be cut: no character lies across it, and it is not behind
the end. It is exactly such a count of bytes that `charsIn?` can tell in characters
(`isSome_charsIn?_iff`).
-/

namespace RuleTemplate.Text

/-- An offset between two characters of the text, or at one of its ends. -/
def IsBorder (t : Text) (n : Nat) : Prop :=
  ∃ before behind, t = before ++ behind ∧ byteSize before = n

variable {s t : Text} {n : Nat}

/-- The size of a beginning of the text is a border. -/
lemma isBorder_byteSize (s t : Text) : IsBorder (s ++ t) (byteSize s) := ⟨s, t, rfl, rfl⟩

lemma IsBorder.le_byteSize (h : t.IsBorder n) : n ≤ t.byteSize := by
  obtain ⟨before, behind, rfl, rfl⟩ := h
  rw [byteSize_append]
  exact Nat.le_add_right _ _

/-- The bytes of a beginning are those of its characters. -/
lemma charsIn?_byteSize_append (s t : Text) : charsIn? (byteSize s) (s ++ t) = some s.length := by
  induction s with
  | nil => cases t <;> rfl
  | cons c s ih =>
    obtain ⟨n, hn, hc, hs⟩ := exists_byteSize_cons c s
    rw [hn, List.cons_append, charsIn?, if_pos hc, hs, ih]
    rfl

/-- The counts of bytes that cover whole characters are the borders. -/
lemma isSome_charsIn?_iff : (charsIn? n t).isSome ↔ t.IsBorder n := by
  constructor
  · intro h
    obtain ⟨k, hk⟩ := Option.isSome_iff_exists.1 h
    exact ⟨t.take k, t.drop k, (List.take_append_drop k t).symm, (byteSize_take_charsIn? hk).1⟩
  · rintro ⟨before, behind, rfl, rfl⟩
    rw [charsIn?_byteSize_append]
    rfl

/-- A text is cut at an offset in one way. -/
lemma append_inj_of_byteSize {before before' behind behind' : Text}
    (h : before ++ behind = before' ++ behind') (hsize : byteSize before = byteSize before') :
    before = before' ∧ behind = behind' := by
  have htake := congrArg (takeBytes (byteSize before)) h
  have hdrop := congrArg (dropBytes (byteSize before)) h
  rw [takeBytes_byteSize_append, hsize, takeBytes_byteSize_append] at htake
  rw [dropBytes_byteSize_append, hsize, dropBytes_byteSize_append] at hdrop
  exact ⟨htake, hdrop⟩

end RuleTemplate.Text
