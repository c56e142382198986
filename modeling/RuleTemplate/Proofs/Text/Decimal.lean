import Mathlib.Data.List.Basic
import Mathlib.Data.List.Induction
import Mathlib.Tactic.Lemma
import Mathlib.Tactic.Ring
import RuleTemplate.Json.Numeral

/-!
# Decimal digits

`Text.ofNat` and `Text.padded` write a number in digits, and the digits denote the number again
(`Text.toNat?_padded`). No other text is read as that number (`Text.toNat?_eq_some_iff`). What is
used of a text of digits is the list of their values, so most statements are about `t.map
Text.digit? = ds.map some`: the text `t` spells the digits `ds`.
-/

namespace RuleTemplate

open Json.Numeral (valueOf)

namespace Text

variable {t : Text} {ds es : List Nat} {n : Nat}

lemma digit?_digitChar : ∀ d < 10, digit? (Nat.digitChar d) = some d := by decide

/-- The code of a digit. -/
lemma toNat_of_digit? {c : Char} {d : Nat} (h : digit? c = some d) :
    c.toNat = '0'.toNat + d ∧ d < 10 := by
  unfold digit? at h
  split at h
  · next hc =>
    have hlow : '0'.toNat ≤ c.toNat := hc.1
    have hhigh : c.toNat ≤ '9'.toNat := hc.2
    have hd := Option.some.inj h
    have hnine : '9'.toNat = '0'.toNat + 9 := rfl
    omega
  · cases h

/-- Each digit is one character. -/
lemma eq_digitChar_of_digit? {c : Char} {d : Nat} (h : digit? c = some d) :
    c = Nat.digitChar d := by
  obtain ⟨hcode, hd⟩ := toNat_of_digit? h
  have hdigit : ∀ d < 10, (Nat.digitChar d).toNat = '0'.toNat + d := by decide
  rw [← Char.toNat_inj, hcode, hdigit d hd]

/-- The digits of a number spell it; the first one is no zero unless it is the only one. -/
lemma exists_digits (n : Nat) :
    ∃ ds, (ofNat n).map digit? = ds.map some ∧ valueOf ds = n ∧ ds ≠ []
      ∧ (ds.head? = some 0 → ds = [0]) := by
  induction n using Nat.strongRecOn with
  | _ n ih =>
    rw [ofNat, Nat.toDigits_eq_if (by decide)]
    split
    · next hn => exact ⟨[n], by simp [digit?_digitChar n hn], by simp [valueOf], by simp, by simp⟩
    · next hn =>
      -- the digits of a tenth of the number, and the remainder behind them
      obtain ⟨ds, hspell, hvalue, hne, hzero⟩ := ih (n / 10) (by omega)
      have hlast : digit? (Nat.digitChar (n % 10)) = some (n % 10) :=
        digit?_digitChar _ (Nat.mod_lt _ (by decide))
      refine ⟨ds ++ [n % 10], ?_, ?_, by simp, ?_⟩
      · rw [List.map_append, List.map_append, List.map_singleton, List.map_singleton, hlast,
          ← hspell, ofNat]
      · rw [valueOf] at hvalue
        rw [valueOf, List.foldl_append, hvalue, List.foldl_cons, List.foldl_nil]
        omega
      · intro hhead
        rw [List.head?_append_of_ne_nil _ hne] at hhead
        rw [hzero hhead] at hvalue
        -- a leading zero would stand for a number below ten
        rw [valueOf, List.foldl_cons, List.foldl_nil] at hvalue
        omega

/-- What spells digits holds digits only. -/
lemma isSome_digit?_of_mem (h : t.map digit? = ds.map some) {c : Char} (hc : c ∈ t) :
    (digit? c).isSome := by
  have hmem : digit? c ∈ ds.map some := h ▸ List.mem_map_of_mem hc
  obtain ⟨d, -, hd⟩ := List.mem_map.1 hmem
  rw [← hd]
  rfl

lemma ofNat_ne_nil (n : Nat) : ofNat n ≠ [] := Nat.toDigits_ne_nil

lemma length_ofNat_le {width : Nat} (hn : n < Nat.pow 10 width) (hwidth : 0 < width) :
    (ofNat n).length ≤ width :=
  (Nat.length_toDigits_le_iff (by decide) hwidth).2 hn

/-! ## Values -/

/-- Digits behind others. -/
lemma foldl_toNat (h : t.map digit? = ds.map some) (m : Nat) :
    t.foldl (fun n c => do return 10 * (← n) + (← digit? c)) (some m)
      = some (ds.foldl (fun n d => 10 * n + d) m) := by
  induction t generalizing ds m with
  | nil =>
    rw [List.map_nil, eq_comm, List.map_eq_nil_iff] at h
    rw [h]
    rfl
  | cons c t ih =>
    cases ds with
    | nil => cases h
    | cons d ds =>
      obtain ⟨hc, ht⟩ := List.cons.inj h
      rw [List.foldl_cons, List.foldl_cons, hc]
      exact ih ht (10 * m + d)

lemma toNat?_eq_valueOf (h : t.map digit? = ds.map some) (hne : t ≠ []) :
    toNat? t = some (valueOf ds) := by
  cases t with
  | nil => exact absurd rfl hne
  | cons c t => exact foldl_toNat h 0

/-- What is read behind a number holds digits only. -/
lemma exists_digits_of_foldl {m? : Option Nat}
    (h : t.foldl (fun n c => do return 10 * (← n) + (← digit? c)) m? = some n) :
    m?.isSome ∧ ∃ ds : List Nat, t.map digit? = ds.map some := by
  induction t generalizing m? with
  | nil => exact ⟨Option.isSome_of_eq_some h, [], rfl⟩
  | cons c t ih =>
    obtain ⟨hhead, ds, hds⟩ := ih h
    obtain ⟨k, hk⟩ := Option.isSome_iff_exists.1 hhead
    obtain ⟨m, rfl, hdigit⟩ := Option.bind_eq_some_iff.1 hk
    obtain ⟨d, hd, -⟩ := Option.bind_eq_some_iff.1 hdigit
    exact ⟨rfl, d :: ds, by rw [List.map_cons, List.map_cons, hd, hds]⟩

/-- Each digit moves what stands before it by one place. -/
lemma foldl_digits (ds : List Nat) (m : Nat) :
    ds.foldl (fun n d => 10 * n + d) m = m * 10 ^ ds.length + valueOf ds := by
  unfold valueOf
  induction ds generalizing m with
  | nil => simp
  | cons d ds ih =>
    rw [List.foldl_cons, List.foldl_cons, ih, ih (10 * 0 + d), List.length_cons, Nat.pow_succ]
    ring

lemma valueOf_append (ds es : List Nat) :
    valueOf (ds ++ es) = valueOf ds * 10 ^ es.length + valueOf es := by
  rw [valueOf, List.foldl_append]
  exact foldl_digits es _

/-- More digits do not make a number less. -/
lemma valueOf_le_append (ds es : List Nat) : valueOf ds ≤ valueOf (ds ++ es) := by
  rw [valueOf_append]
  exact (Nat.le_mul_of_pos_right _ (Nat.pow_pos (by decide))).trans (Nat.le_add_right ..)

/-- Zeros in front of digits do not count. -/
lemma valueOf_replicate_append (k : Nat) (ds : List Nat) :
    valueOf (List.replicate k 0 ++ ds) = valueOf ds := by
  induction k with
  | zero => rfl
  | succ k ih => rw [List.replicate_succ, List.cons_append, ← ih, valueOf, List.foldl_cons]; rfl

/-- Digits denote less than a one with as many zeros. -/
lemma valueOf_lt (h : t.map digit? = ds.map some) :
    valueOf ds < 10 ^ ds.length := by
  induction t generalizing ds with
  | nil =>
    rw [List.map_nil, eq_comm, List.map_eq_nil_iff] at h
    rw [h]
    decide
  | cons c t ih =>
    cases ds with
    | nil => cases h
    | cons d ds =>
      obtain ⟨hc, ht⟩ := List.cons.inj h
      have hd := (toNat_of_digit? hc).2
      have hrest := ih ht
      have hcons : valueOf (d :: ds) = d * 10 ^ ds.length + valueOf ds := by
        have happend := valueOf_append [d] ds
        have hone : valueOf [d] = d := Nat.zero_add d
        rwa [hone] at happend
      have hmul : d * 10 ^ ds.length ≤ 9 * 10 ^ ds.length :=
        Nat.mul_le_mul_right _ (Nat.le_of_lt_succ hd)
      rw [hcons, List.length_cons, Nat.pow_succ]
      omega

/-- Zeros behind digits. -/
lemma valueOf_append_replicate (ds : List Nat) (k : Nat) :
    valueOf (ds ++ List.replicate k 0) = valueOf ds * 10 ^ k := by
  have hzeros : valueOf (List.replicate k 0) = 0 := by
    have happend := valueOf_replicate_append k []
    rwa [List.append_nil] at happend
  rw [valueOf_append, List.length_replicate, hzeros, Nat.add_zero]

/-! ## Padding -/

/-- A padded number spells zeros and the number. -/
lemma exists_digits_padded (width n : Nat) :
    ∃ ds, (padded width n).map digit? = ds.map some ∧ valueOf ds = n := by
  obtain ⟨ds, hspell, hvalue, -⟩ := exists_digits n
  refine ⟨List.replicate (width - (ofNat n).length) 0 ++ ds, ?_, ?_⟩
  · rw [padded, List.map_append, List.map_append, List.map_replicate, List.map_replicate, hspell]
    rfl
  · rw [valueOf_replicate_append, hvalue]

lemma padded_ne_nil (width n : Nat) : padded width n ≠ [] := by
  rw [padded]
  exact List.append_ne_nil_of_right_ne_nil _ (ofNat_ne_nil n)

/-- A padded number is read as the number. -/
lemma toNat?_padded (width n : Nat) : toNat? (padded width n) = some n := by
  obtain ⟨ds, hspell, hvalue⟩ := exists_digits_padded width n
  rw [toNat?_eq_valueOf hspell (padded_ne_nil width n), hvalue]

lemma isSome_digit?_of_mem_padded {width : Nat} {c : Char} (h : c ∈ padded width n) :
    (digit? c).isSome := by
  obtain ⟨ds, hspell, -⟩ := exists_digits_padded width n
  exact isSome_digit?_of_mem hspell h

lemma length_padded {width : Nat} (hn : n < Nat.pow 10 width) (hwidth : 0 < width) :
    (padded width n).length = width := by
  have hle := length_ofNat_le hn hwidth
  rw [padded, List.length_append, List.length_replicate]
  omega

/-! ## What is read as a number -/

/-- The last digit of a number stands behind the digits of a tenth of it. -/
lemma ofNat_snoc {m d : Nat} (hm : 0 < m) (hd : d < 10) :
    ofNat (10 * m + d) = ofNat m ++ [Nat.digitChar d] := by
  have htenth : (10 * m + d) / 10 = m := by omega
  have hrest : (10 * m + d) % 10 = d := by omega
  rw [ofNat, Nat.toDigits_eq_if (by decide), if_neg (by omega), htenth, hrest]
  rfl

/-- A digit behind a padded number makes a padded number. -/
lemma padded_snoc {width d : Nat} (m : Nat) (hwidth : 0 < width) (hd : d < 10) :
    padded (width + 1) (10 * m + d) = padded width m ++ [Nat.digitChar d] := by
  rcases Nat.eq_zero_or_pos m with rfl | hm
  · -- the zero itself is one of the zeros in front
    have hzeros : padded width 0 = List.replicate width '0' := by
      obtain ⟨k, rfl⟩ := Nat.exists_eq_succ_of_ne_zero hwidth.ne'
      exact List.replicate_succ'.symm
    have hdigit : ofNat d = [Nat.digitChar d] := Nat.toDigits_of_lt_base hd
    rw [hzeros, Nat.mul_zero, Nat.zero_add, padded, hdigit]
    rfl
  · rw [padded, padded, ofNat_snoc hm hd, List.length_append, List.length_singleton,
      Nat.add_sub_add_right, List.append_assoc]

/-- Digits are those of their value, padded. -/
lemma eq_padded_valueOf (h : t.map digit? = ds.map some) (hne : t ≠ []) :
    t = padded t.length (valueOf ds) := by
  induction t using List.reverseRecOn generalizing ds with
  | nil => exact absurd rfl hne
  | append_singleton s c ih =>
    rw [List.map_append] at h
    obtain ⟨es, ls, rfl, hs, hlast⟩ := List.append_eq_map_iff.1 h
    obtain ⟨d, rfl, hd⟩ := List.map_eq_singleton_iff.1 hlast
    have hc := eq_digitChar_of_digit? hd.symm
    have hten := (toNat_of_digit? hd.symm).2
    have hvalue : valueOf (es ++ [d]) = 10 * valueOf es + d := List.foldl_append
    rw [List.length_append, List.length_singleton, hvalue, hc]
    cases s with
    | nil =>
      obtain rfl := List.map_eq_nil_iff.1 hs
      rw [show valueOf [] = 0 from rfl, Nat.mul_zero, Nat.zero_add, padded, ofNat,
        Nat.toDigits_of_lt_base hten]
      rfl
    | cons b s =>
      rw [padded_snoc _ (List.length_pos_of_ne_nil (List.cons_ne_nil b s)) hten,
        ← ih hs.symm (List.cons_ne_nil b s)]

/-- The texts that are read as a number are its digits, behind any zeros. -/
lemma toNat?_eq_some_iff : toNat? t = some n ↔ ∃ width, t = padded width n := by
  constructor
  · intro h
    cases t with
    | nil => cases h
    | cons c t =>
      have hne := List.cons_ne_nil c t
      obtain ⟨-, ds, hds⟩ := exists_digits_of_foldl h
      have hvalue := (toNat?_eq_valueOf hds hne).symm.trans h
      rw [← Option.some.inj hvalue]
      exact ⟨_, eq_padded_valueOf hds hne⟩
  · rintro ⟨width, rfl⟩
    exact toNat?_padded width n

end Text
end RuleTemplate
