import Mathlib.Tactic.Lemma
import RuleTemplate.Text.Basic

/-!
# Texts that differ in the case of letters

The case of an ASCII letter does not change how many bytes it has, so texts that are the same but
for the case of their letters have the same size.
-/

namespace RuleTemplate.Text

/-- Only capitals change in lower case, each by the same distance. -/
lemma toLower_cases (c : Char) : c.toLower = c ∨
    65 ≤ c.toNat ∧ c.toNat ≤ 90 ∧ c.toLower.toNat = c.toNat + 32 := by
  unfold Char.toLower
  split
  · next h =>
    have hlow : 65 ≤ c.val.toNat := h.1
    have hhigh : c.val.toNat ≤ 90 := h.2
    have hsum : (c.val + ('a'.val - 'A'.val)).toNat = (c.val.toNat + 32) % 2 ^ 32 := rfl
    refine .inr ⟨hlow, hhigh, hsum.trans (Nat.mod_eq_of_lt ?_)⟩
    omega
  · exact .inl rfl

/-- A letter is as long in lower case. -/
lemma utf8Size_toLower (c : Char) : c.toLower.utf8Size = c.utf8Size := by
  have hsmall : ∀ d : Char, d.toNat ≤ 127 → d.utf8Size = 1 := fun d hd =>
    Char.utf8Size_eq_one_iff.2 (UInt32.le_iff_toNat_le.2 hd)
  rcases toLower_cases c with hsame | ⟨-, hhigh, hshift⟩
  · rw [hsame]
  · rw [hsmall c (by omega), hsmall c.toLower (by omega)]

/-- What is no letter in lower case is no letter at all. -/
lemma eq_of_toLower_eq_underscore {c : Char} (h : c.toLower = '_') : c = '_' := by
  rcases toLower_cases c with hsame | ⟨hlow, -, hshift⟩
  · exact hsame.symm.trans h
  · have hunderscore : ('_' : Char).toNat = 95 := rfl
    rw [h] at hshift
    omega

lemma byteSize_lower (t : Text) : byteSize (lower t) = byteSize t := by
  induction t with
  | nil => rfl
  | cons c t ih =>
    rw [lower] at ih
    rw [lower, List.map_cons, byteSize_cons, byteSize_cons, utf8Size_toLower, ih]

/-- Texts that are the same but for the case of their letters have the same size. -/
lemma byteSize_eq_of_sameLetters {s t : Text} (h : sameLetters s t = true) :
    byteSize s = byteSize t := by
  rw [← byteSize_lower s, ← byteSize_lower t, eq_of_beq h]

lemma sameLetters_comm (s t : Text) : sameLetters s t = sameLetters t s := Bool.beq_comm

/-- What is compared with the one can be compared with the other. -/
lemma sameLetters_congr {s t : Text} (h : sameLetters s t = true) (u : Text) :
    sameLetters s u = sameLetters t u := by
  have hlower : lower s = lower t := eq_of_beq h
  rw [sameLetters, sameLetters, hlower]

lemma length_eq_of_sameLetters {s t : Text} (h : sameLetters s t = true) : s.length = t.length := by
  have hlower := congrArg List.length (eq_of_beq h)
  rwa [lower, lower, List.length_map, List.length_map] at hlower

end RuleTemplate.Text
