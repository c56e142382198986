import Mathlib.Tactic.ByContra
import Mathlib.Tactic.SplitIfs
import RuleTemplate.Proofs.Text.Bytes

/-!
# The order of texts

Texts are ordered by their characters, and their UTF-8 forms are in the same order as bytes
(`before_iff_bytes_lt`). The bytes of a character are the digits of its code to the base 64, the
highest first, and the first byte of a longer form is the greater one. So of two characters the one
with the lesser code has the lesser byte where their bytes differ first, whatever follows them.
-/

namespace RuleTemplate.Text

variable {c d : Char} {k l lead v w : Nat} {s t : Text}

/-! ## Digits -/

/-- The digits of a code to the base 64, the highest first: `k` digits in bytes of their own behind
what is left of the code, to which `lead` is added. -/
def spread (lead : Nat) : Nat → Nat → List UInt8
  | 0, v => [.ofNat (v + lead)]
  | k + 1, v => spread lead k (v / 64) ++ [.ofNat (v % 64 + 0x80)]

/-- What is left of a code in front of its last `k` digits. -/
def topDigit : Nat → Nat → Nat
  | 0, v => v
  | k + 1, v => topDigit k (v / 64)

lemma exists_spread_cons (lead k v : Nat) :
    ∃ rest, spread lead k v = .ofNat (topDigit k v + lead) :: rest := by
  induction k generalizing v with
  | zero => exact ⟨[], rfl⟩
  | succ k ih =>
    obtain ⟨rest, hrest⟩ := ih (v / 64)
    exact ⟨rest ++ [.ofNat (v % 64 + 0x80)], by rw [spread, hrest]; rfl⟩

lemma ofNat_lt_ofNat (h : v < w) (hw : w < 256) : UInt8.ofNat v < UInt8.ofNat w := by
  rw [UInt8.lt_iff_toNat_lt, UInt8.toNat_ofNat', UInt8.toNat_ofNat']
  omega

/-- As many digits are ordered as the codes are. -/
lemma spread_append_lt (h : v < w) (hw : topDigit k w + lead < 256) (x y : List UInt8) :
    spread lead k v ++ x < spread lead k w ++ y := by
  induction k generalizing v w x y with
  | zero =>
    rw [spread, spread, List.singleton_append, List.singleton_append, List.cons_lt_cons_iff]
    exact .inl (ofNat_lt_ofNat (Nat.add_lt_add_right h lead) hw)
  | succ k ih =>
    rw [spread, spread, List.append_assoc, List.append_assoc]
    rcases Nat.lt_or_ge (v / 64) (w / 64) with hlt | hge
    · exact ih hlt hw _ _
    · -- only the last digits differ
      have hsame : v / 64 = w / 64 := by omega
      rw [hsame]
      refine List.append_left_lt ?_
      rw [List.singleton_append, List.singleton_append, List.cons_lt_cons_iff]
      exact .inl (ofNat_lt_ofNat (by omega) (by omega))

/-! ## Characters -/

/-- How many bytes follow the first one in the form of a code. -/
def trailing (v : Nat) : Nat :=
  if v ≤ 0x7f then 0 else if v ≤ 0x7ff then 1 else if v ≤ 0xffff then 2 else 3

/-- What is added to the first digit when so many bytes follow, and a bound of all first bytes. -/
def leadByte : Nat → Nat
  | 0 => 0
  | 1 => 0xc0
  | 2 => 0xe0
  | 3 => 0xf0
  | _ => 0xf8

lemma trailing_le_trailing (h : v ≤ w) : trailing v ≤ trailing w := by
  unfold trailing
  split_ifs <;> omega

lemma trailing_le (v : Nat) : trailing v ≤ 3 := by
  unfold trailing
  split_ifs <;> omega

/-- The first byte of the form of a code. -/
def firstByte (v : Nat) : Nat := topDigit (trailing v) v + leadByte (trailing v)

/-- The first byte is less than those of longer forms. -/
lemma firstByte_lt (hv : v < 0x110000) : firstByte v < leadByte (trailing v + 1) := by
  unfold firstByte trailing
  split_ifs
  · show v + 0 < 0xc0
    omega
  · show v / 64 + 0xc0 < 0xe0
    omega
  · show v / 64 / 64 + 0xe0 < 0xf0
    omega
  · show v / 64 / 64 / 64 + 0xf0 < 0xf8
    omega

lemma leadByte_le (h : k ≤ l) (hl : l ≤ 4) : leadByte k ≤ leadByte l := by
  have hall : ∀ l : Fin 5, ∀ k : Fin 5, k ≤ l → leadByte k ≤ leadByte l := by decide
  exact hall ⟨l, by omega⟩ ⟨k, by omega⟩ h

lemma toNat_lt (c : Char) : c.toNat < 0x110000 := by
  rcases c.valid with h | ⟨-, h⟩
  · exact Nat.lt_trans h (by decide)
  · exact h

lemma utf8EncodeChar_eq_spread (c : Char) :
    String.utf8EncodeChar c = spread (leadByte (trailing c.toNat)) (trailing c.toNat) c.toNat := by
  have hv : c.val.toNat = c.toNat := rfl
  have hlast := toNat_lt c
  unfold String.utf8EncodeChar
  rw [hv]
  simp only
  unfold trailing
  split_ifs
  · rfl
  · rw [Nat.mod_eq_of_lt (a := c.toNat / 64) (by omega)]
    rfl
  · rw [Nat.mod_eq_of_lt (a := c.toNat / 4096) (by omega), ← Nat.div_div_eq_div_mul c.toNat 64 64]
    rfl
  · rw [Nat.mod_eq_of_lt (a := c.toNat / 262144) (by omega),
      ← Nat.div_div_eq_div_mul c.toNat 4096 64, ← Nat.div_div_eq_div_mul c.toNat 64 64]
    rfl

lemma exists_utf8EncodeChar_cons (c : Char) :
    ∃ rest, String.utf8EncodeChar c = .ofNat (firstByte c.toNat) :: rest := by
  rw [utf8EncodeChar_eq_spread]
  exact exists_spread_cons _ _ _

/-- The bytes of characters are ordered as their codes are, whatever follows. -/
lemma utf8EncodeChar_append_lt (h : c.toNat < d.toNat) (x y : List UInt8) :
    String.utf8EncodeChar c ++ x < String.utf8EncodeChar d ++ y := by
  have hbound : leadByte (trailing d.toNat + 1) ≤ 0xf8 :=
    leadByte_le (l := 4) (Nat.succ_le_succ (trailing_le d.toNat)) (Nat.le_refl 4)
  have hfirst : firstByte d.toNat < 256 := by
    have := firstByte_lt (toNat_lt d)
    omega
  rcases Nat.eq_or_lt_of_le (trailing_le_trailing (Nat.le_of_lt h)) with htrailing | htrailing
  · -- forms of the same length have the same digits up to some place
    rw [utf8EncodeChar_eq_spread, utf8EncodeChar_eq_spread, htrailing]
    exact spread_append_lt h hfirst x y
  · have hlonger : leadByte (trailing c.toNat + 1) ≤ leadByte (trailing d.toNat) :=
      leadByte_le htrailing (Nat.le_trans (trailing_le d.toNat) (by decide))
    have hless : firstByte c.toNat < firstByte d.toNat :=
      calc firstByte c.toNat
        _ < leadByte (trailing c.toNat + 1) := firstByte_lt (toNat_lt c)
        _ ≤ leadByte (trailing d.toNat) := hlonger
        _ ≤ firstByte d.toNat := Nat.le_add_left ..
    obtain ⟨_, hc⟩ := exists_utf8EncodeChar_cons c
    obtain ⟨_, hd⟩ := exists_utf8EncodeChar_cons d
    rw [hc, hd, List.cons_append, List.cons_append, List.cons_lt_cons_iff]
    exact .inl (ofNat_lt_ofNat hless hfirst)

/-! ## Texts -/

lemma bytes_lt_of_before (h : before s t = true) : s.bytes < t.bytes := by
  induction s generalizing t with
  | nil =>
    cases t with
    | nil => cases h
    | cons d t =>
      obtain ⟨_, hd⟩ := exists_utf8EncodeChar_cons d
      rw [bytes, bytes, List.flatMap_cons, hd]
      exact List.nil_lt_cons _ _
  | cons c s ih =>
    cases t with
    | nil => cases h
    | cons d t =>
      rw [before, Bool.or_eq_true, Bool.and_eq_true, decide_eq_true_eq, decide_eq_true_eq] at h
      rcases h with hcd | ⟨rfl, hst⟩
      · exact utf8EncodeChar_append_lt hcd _ _
      · exact List.append_left_lt (ih hst)

/-- The order of texts is that of their bytes. -/
theorem before_iff_bytes_lt : before s t = true ↔ s.bytes < t.bytes := by
  refine ⟨bytes_lt_of_before, fun h => ?_⟩
  by_contra hbefore
  by_cases hst : s = t
  · rw [hst] at h
    exact List.lt_irrefl _ h
  · have hts := before_of_not_before hst (Bool.eq_false_iff.2 hbefore)
    exact List.lt_asymm h (bytes_lt_of_before hts)

end RuleTemplate.Text
