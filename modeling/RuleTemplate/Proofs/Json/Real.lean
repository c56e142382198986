import Mathlib.Data.List.TakeWhile
import RuleTemplate.Number.Layout
import RuleTemplate.Proofs.Json.Numeral
import RuleTemplate.Proofs.Number.Shortest
import RuleTemplate.Proofs.Text.Pieces

/-!
# Binary64 numbers are read

A binary64 is written as digits around a point, or with an exponent. In both forms it is read as
some number, and so is all that may be cut off it (`Number.exists_reads_real`): the digits fit, and
with an exponent the number is no greater than the largest decimal. Whether it is the number that
was written depends on how its decimal is rounded.
-/

namespace RuleTemplate

open Json.Numeral (valueOf)

/-! ## Digits -/

namespace Decimal

variable {d : Binary64.Decimal}

/-- The digits of a decimal that is not zero: the first one, which is no zero, and those behind it,
as they are written and as they count; behind them `z` zeros are left out. -/
structure Spells (d : Binary64.Decimal) (c : Char) (t : Text) (a : Nat) (ds : List Nat) (z : Nat) :
    Prop where
  digits_eq : digits d = c :: t
  head : Text.digit? c = some a
  head_ne : a ≠ 0
  tail : t.map Text.digit? = ds.map some
  value : valueOf (a :: ds) * 10 ^ z = d.significand
  leading_eq : leading d = ds.length + z + d.exponent

/-- What is left without the last zeros begins with the same digit, unless that is a zero. -/
lemma exists_cons_append_zeros {c : Char} {rest : Text}
    (htext : Text.ofNat d.significand = c :: rest) (hc : c ≠ '0') :
    ∃ t z, digits d = c :: t ∧ rest = t ++ List.replicate z '0' := by
  obtain ⟨z, hsplit⟩ := Text.exists_append_replicate '0' (Text.ofNat d.significand)
  have hdigits : digits d = (c :: rest).rdropWhile (· = '0') := by
    rw [digits, htext]
    rfl
  rw [htext, ← hdigits] at hsplit
  cases hcut : digits d with
  | nil =>
    rw [hcut, List.nil_append] at hsplit
    have hmem : c ∈ List.replicate z '0' := hsplit ▸ List.mem_cons_self ..
    exact absurd (List.eq_of_mem_replicate hmem) hc
  | cons c' t =>
    rw [hcut, List.cons_append] at hsplit
    obtain ⟨rfl, hrest⟩ := List.cons.inj hsplit
    exact ⟨t, z, rfl, hrest⟩

lemma exists_spells (hd : d.significand ≠ 0) : ∃ c t a ds z, Spells d c t a ds z := by
  obtain ⟨c, rest, a, es, htext, hc, hrest, hvalue, hzero⟩ :=
    Json.Number.exists_cons_ofNat d.significand
  have ha : a ≠ 0 := by
    intro ha
    rw [ha, hzero ha] at hvalue
    exact hd hvalue.symm
  have hne : c ≠ '0' := by
    rintro rfl
    cases hc
    exact ha rfl
  obtain ⟨t, z, ht, hzeros⟩ := exists_cons_append_zeros htext hne
  rw [hzeros, List.map_append, eq_comm, List.map_eq_append_iff] at hrest
  obtain ⟨ds, fs, rfl, hds, hfs⟩ := hrest
  have hlast : fs = List.replicate z 0 := by
    have hmap : fs.map some = (List.replicate z 0).map some := by
      rw [hfs, List.map_replicate, List.map_replicate]
      rfl
    exact List.map_injective_iff.2 (Option.some_injective _) hmap
  have hlength : ds.length = t.length := by
    have hmap := congrArg List.length hds
    rwa [List.length_map, List.length_map] at hmap
  refine ⟨c, t, a, ds, z, ht, hc, ha, hds.symm, ?_, ?_⟩
  · rw [← hvalue, hlast, ← List.cons_append, Text.valueOf_append_replicate]
  · rw [leading, htext, hzeros, List.length_cons, List.length_append, List.length_replicate,
      hlength]
    omega

namespace Spells

variable {c : Char} {t : Text} {a : Nat} {ds : List Nat} {z : Nat}

lemma length_eq (h : Spells d c t a ds z) : ds.length = t.length := by
  have hmap := congrArg List.length h.tail
  rwa [List.length_map, List.length_map, eq_comm] at hmap

lemma map_cons (h : Spells d c t a ds z) : (c :: t).map Text.digit? = (a :: ds).map some := by
  rw [List.map_cons, h.head, h.tail, List.map_cons]

/-- The digits denote no more than the significand. -/
lemma valueOf_le (h : Spells d c t a ds z) {bound : Nat} (hd : d.significand ≤ bound) :
    valueOf (a :: ds) ≤ bound :=
  (Nat.le_mul_of_pos_right _ (Nat.pow_pos (by decide))).trans (h.value.trans_le hd)

lemma valueOf_pos (h : Spells d c t a ds z) (hd : d.significand ≠ 0) : 0 < valueOf (a :: ds) := by
  rcases Nat.eq_zero_or_pos (valueOf (a :: ds)) with hzero | hpos
  · have hvalue := h.value
    rw [hzero, Nat.zero_mul] at hvalue
    exact absurd hvalue.symm hd
  · exact hpos

/-- Moved by the exponent of their first digit, the digits are not beyond the largest decimal. -/
lemma mul_pow_le_largestDecimal (h : Spells d c t a ds z) (hdigits : d.significand ≤ Nat.pow 10 17)
    (hlargest : ∀ k : Nat, d.exponent = k →
      d.significand * Nat.pow 10 k ≤ Binary64.largestDecimal) (hpositive : 0 ≤ leading d) :
    valueOf (a :: ds) * Nat.pow 10 (leading d).natAbs
      ≤ Binary64.largestDecimal * Nat.pow 10 ds.length := by
  have hvalue := h.value
  have hlead := h.leading_eq
  by_cases hexponent : 0 ≤ d.exponent
  · obtain ⟨k, hk⟩ := Int.eq_ofNat_of_zero_le hexponent
    have hplaces : (leading d).natAbs = z + (k + ds.length) := by omega
    calc
      valueOf (a :: ds) * Nat.pow 10 (leading d).natAbs
          = valueOf (a :: ds) * 10 ^ z * (Nat.pow 10 k * Nat.pow 10 ds.length) := by
        rw [hplaces, Binary64.pow_ten_add, Binary64.pow_ten_add]
        exact (Nat.mul_assoc ..).symm
      _ = d.significand * Nat.pow 10 k * Nat.pow 10 ds.length := by rw [hvalue, Nat.mul_assoc]
      _ ≤ Binary64.largestDecimal * Nat.pow 10 ds.length := Nat.mul_le_mul_right _ (hlargest k hk)
  · have hplaces : (leading d).natAbs ≤ z + ds.length := by omega
    have hbound : Nat.pow 10 17 ≤ Binary64.largestDecimal := by decide +kernel
    calc
      valueOf (a :: ds) * Nat.pow 10 (leading d).natAbs
          ≤ valueOf (a :: ds) * Nat.pow 10 (z + ds.length) :=
        Nat.mul_le_mul_left _ (Binary64.pow_ten_le_pow_ten hplaces)
      _ = d.significand * Nat.pow 10 ds.length := by
        rw [Binary64.pow_ten_add, ← hvalue]
        exact (Nat.mul_assoc ..).symm
      _ ≤ Binary64.largestDecimal * Nat.pow 10 ds.length :=
        Nat.mul_le_mul_right _ (hdigits.trans hbound)

end Spells

end Decimal

namespace Json.Numeral

variable {c : Char} {t u : Text} {a : Nat} {ds es : List Nat} {s : Numeral × Stage} {n : Numeral}
  {stage : Stage}

/-! ## Around a point -/

lemma exists_reads {negative : Bool} (hc : Text.digit? c = some a)
    (h : Takes (first negative a) t s) (hcomplete : s.2.complete = true)
    (hsome : s.1.number?.isSome) : ∃ m, Reads (signText negative ++ c :: t) m := by
  obtain ⟨m, hm⟩ := Option.isSome_iff_exists.1 hsome
  exact ⟨m, reads_of_takes hc h hcomplete hm⟩

/-- A point may follow the whole part. -/
lemma takes_point (hstage : stage = .zero ∨ stage = .whole) (n : Numeral) :
    Takes (n, stage) ['.'] (n, .point) := by
  have hnext : extend? n stage '.' = some (n, .point) := by
    rcases hstage with rfl | rfl <;> rfl
  exact .cons hnext nofun (.nil _)

/-- Digits around a point are read. -/
lemma exists_reads_point (negative : Bool) (hc : Text.digit? c = some a)
    (ht : t.map Text.digit? = ds.map some) (hzero : a = 0 → ds = [])
    (hu : u.map Text.digit? = es.map some) (hne : es ≠ [])
    (hfits : valueOf (a :: ds ++ es) < 0x10000000000000000) :
    ∃ m, Reads (signText negative ++ c :: (t ++ '.' :: u)) m := by
  obtain ⟨stage, hstage, hwhole⟩ := exists_takes_whole negative ht hzero
    ((Text.valueOf_le_append ..).trans_lt hfits)
  have hpoint := takes_point hstage { negative, whole := a :: ds }
  have hfraction := takes_fraction hu hne { negative, whole := a :: ds } rfl hfits
  have hall := hwhole.append (hpoint.append hfraction)
  exact exists_reads hc hall rfl (isSome_number? hfits rfl)

lemma map_replicate_zero (k : Nat) :
    (List.replicate k '0').map Text.digit? = (List.replicate k 0).map some := by
  rw [List.map_replicate, List.map_replicate]
  rfl

/-- Digits behind a point and zeros are read. -/
lemma exists_reads_below_one (negative : Bool) (ht : t.map Text.digit? = (a :: ds).map some)
    (hfits : valueOf (a :: ds) < 0x10000000000000000) (k : Nat) :
    ∃ m, Reads (signText negative ++ '0' :: '.' :: (List.replicate k '0' ++ t)) m := by
  have hnil : ([] : Text).map Text.digit? = ([] : List Nat).map some := rfl
  have hspell : (List.replicate k '0' ++ t).map Text.digit?
      = (List.replicate k 0 ++ a :: ds).map some := by
    rw [List.map_append, List.map_append, map_replicate_zero, ht]
  have hvalues := Text.valueOf_replicate_append (k + 1) (a :: ds)
  rw [List.replicate_succ, List.cons_append] at hvalues
  have hall : valueOf ([0] ++ (List.replicate k 0 ++ a :: ds)) < 0x10000000000000000 :=
    hvalues.trans_lt hfits
  exact exists_reads_point negative rfl hnil (fun _ => rfl) hspell (by simp) hall

/-- Digits and zeros before a point are read, sixteen of them at most. -/
lemma exists_reads_whole (negative : Bool) (hc : Text.digit? c = some a) (ha : a ≠ 0)
    (ht : t.map Text.digit? = ds.map some) {k : Nat} (hplaces : ds.length + k ≤ 15) :
    ∃ m, Reads (signText negative ++ c :: (t ++ List.replicate k '0' ++ ['.', '0'])) m := by
  have hspell : (t ++ List.replicate k '0').map Text.digit?
      = (ds ++ List.replicate k 0).map some := by
    rw [List.map_append, List.map_append, map_replicate_zero, ht]
  have hone : (['0'] : Text).map Text.digit? = [0].map some := rfl
  -- with the zero behind the point, there are seventeen digits at most
  have hall : ((c :: t) ++ List.replicate (k + 1) '0').map Text.digit?
      = ((a :: ds) ++ List.replicate (k + 1) 0).map some := by
    rw [List.map_append, List.map_append, map_replicate_zero, List.map_cons, hc, ht, List.map_cons]
  have hlt := Text.valueOf_lt hall
  rw [List.length_append, List.length_replicate, List.length_cons] at hlt
  have hbound : 10 ^ (ds.length + 1 + (k + 1)) ≤ 10 ^ 17 :=
    Nat.pow_le_pow_right (by decide) (by omega)
  have hfits : valueOf (a :: (ds ++ List.replicate k 0) ++ [0]) < 0x10000000000000000 := by
    rw [List.replicate_succ', ← List.append_assoc, List.cons_append] at hlt
    exact hlt.trans_le (hbound.trans (by decide))
  exact exists_reads_point negative hc hspell (fun h => absurd h ha) hone (by simp) hfits

/-- A positive decimal is read in positional notation, if it has at most sixteen digits before its
point. -/
lemma exists_reads_positional (negative : Bool) {d : Binary64.Decimal} (hd : d.significand ≠ 0)
    (hdigits : d.significand ≤ Nat.pow 10 17) (hleading : Decimal.leading d ≤ 15) :
    ∃ m, Reads (signText negative ++ Decimal.positional ".0" d) m := by
  obtain ⟨c, t, a, ds, z, h⟩ := Decimal.exists_spells hd
  have hfits : valueOf (a :: ds) < 0x10000000000000000 :=
    (h.valueOf_le hdigits).trans_lt (by decide)
  have hlength := h.length_eq
  unfold Decimal.positional
  simp only [h.digits_eq]
  -- the point stands before the digits, behind them, or between two of them
  split
  · exact exists_reads_below_one negative h.map_cons hfits _
  · split
    · next hwhole =>
      rw [List.length_cons] at hwhole ⊢
      have hplaces : ds.length + ((Decimal.leading d).toNat + 1 - (t.length + 1)) ≤ 15 := by omega
      have hreads := exists_reads_whole negative h.head h.head_ne h.tail hplaces
      simpa using hreads
    · next hwhole =>
      rw [List.length_cons] at hwhole
      generalize (Decimal.leading d).toNat = k at hwhole ⊢
      have htake : (t.take k).map Text.digit? = (ds.take k).map some := by
        rw [List.map_take, List.map_take, h.tail]
      have hdrop : (t.drop k).map Text.digit? = (ds.drop k).map some := by
        rw [List.map_drop, List.map_drop, h.tail]
      have hne : ds.drop k ≠ [] := by
        rw [ne_eq, List.drop_eq_nil_iff]
        omega
      rw [← List.take_append_drop k ds, ← List.cons_append] at hfits
      exact exists_reads_point negative h.head htake (fun hzero => absurd hzero h.head_ne) hdrop hne
        hfits

/-! ## With an exponent -/

/-- The mark of an exponent, and its sign. -/
lemma takes_mark (hstage : stage = .whole ∨ stage = .fraction) (n : Numeral)
    (hn : n.exponentNegative = false) (below : Bool) :
    Takes (n, stage) ['e', if below then '-' else '+']
      ({ n with exponentNegative := below }, .markSign) := by
  have hmark : extend? n stage 'e' = some (n, .mark) := by
    rcases hstage with rfl | rfl <;> rfl
  have hsign : extend? n .mark (if below then '-' else '+')
      = some ({ n with exponentNegative := below }, .markSign) := by
    obtain ⟨negative, whole, fraction, exponentNegative, exponent⟩ := n
    cases hn
    cases below <;> rfl
  exact .cons hmark nofun (.cons hsign nofun (.nil _))

/-- One digit and a fraction, or no fraction. -/
lemma exists_takes_mantissa (negative : Bool) (ha : a ≠ 0) (ht : t.map Text.digit? = ds.map some)
    (hfits : valueOf (a :: ds) < 0x10000000000000000) :
    ∃ stage, (stage = .whole ∨ stage = .fraction) ∧
      Takes (first negative a) (if t = [] then [] else '.' :: t)
        ({ negative, whole := [a], fraction := ds }, stage) := by
  have hfirst : first negative a = ({ negative, whole := [a] }, .whole) := by
    rw [first, if_neg ha]
  rw [hfirst]
  split
  · next hnil =>
    rw [hnil, List.map_nil, eq_comm, List.map_eq_nil_iff] at ht
    rw [ht]
    exact ⟨.whole, .inl rfl, .nil _⟩
  · next hne =>
    have hds : ds ≠ [] := by
      rintro rfl
      exact hne (List.map_eq_nil_iff.1 ht)
    have hfraction := takes_fraction ht hds { negative, whole := [a] } rfl hfits
    have hpoint := takes_point (.inr rfl) { negative, whole := [a] }
    exact ⟨.fraction, .inr rfl, hpoint.append hfraction⟩

/-- A number with an exponent is read, when that is negative or the number is not beyond the largest
decimal. -/
lemma exists_reads_exponent (negative below : Bool) (hc : Text.digit? c = some a) (ha : a ≠ 0)
    (ht : t.map Text.digit? = ds.map some) (hu : u.map Text.digit? = es.map some) (hne : es ≠ [])
    (hfits : valueOf (a :: ds) < 0x10000000000000000)
    (hmoderate : Moderate ⟨negative, [a], ds, below, es⟩) :
    ∃ m, Reads (signText negative ++ c :: ((if t = [] then [] else '.' :: t)
      ++ 'e' :: (if below then '-' else '+') :: u)) m := by
  obtain ⟨stage, hstage, hmantissa⟩ := exists_takes_mantissa negative ha ht hfits
  have hmark := takes_mark hstage { negative, whole := [a], fraction := ds } rfl below
  have hpower := takes_power hu hne ⟨negative, [a], ds, below, []⟩ hfits hmoderate
  have hall := hmantissa.append (hmark.append hpower)
  exact exists_reads hc hall rfl (hmoderate.isSome_number? hfits)

/-- A decimal in scientific notation, with the sign of its exponent. -/
lemma scientific_eq {d : Binary64.Decimal} (hdigits : Decimal.digits d = c :: t) :
    Decimal.scientific "+" d = c :: ((if t = [] then [] else '.' :: t)
      ++ 'e' :: (if decide (Decimal.leading d < 0) = true then '-' else '+')
        :: Text.ofNat (Decimal.leading d).natAbs) := by
  have hexponent : (if 0 ≤ Decimal.leading d then ("+" : Text) ++ Text.ofInt (Decimal.leading d)
      else Text.ofInt (Decimal.leading d))
      = (if decide (Decimal.leading d < 0) = true then '-' else '+')
        :: Text.ofNat (Decimal.leading d).natAbs := by
    cases Decimal.leading d with
    | ofNat n =>
      have hpositive : 0 ≤ Int.ofNat n := Int.natCast_nonneg n
      have hnot : ¬ decide (Int.ofNat n < 0) = true := by simp
      rw [if_pos hpositive, if_neg hnot]
      rfl
    | negSucc n =>
      have hbelow : decide (Int.negSucc n < 0) = true := decide_eq_true (Int.negSucc_lt_zero n)
      have hnot : ¬ 0 ≤ Int.negSucc n := Int.not_le.2 (Int.negSucc_lt_zero n)
      rw [if_neg hnot, if_pos hbelow]
      rfl
  unfold Decimal.scientific
  rw [hexponent, hdigits]
  cases t with
  | nil => rfl
  | cons c' t => rfl

/-- A positive decimal is read in scientific notation, if it is not beyond the largest decimal. -/
lemma exists_reads_scientific (negative : Bool) {d : Binary64.Decimal} (hd : d.significand ≠ 0)
    (hdigits : d.significand ≤ Nat.pow 10 17)
    (hlargest : ∀ k : Nat, d.exponent = k →
      d.significand * Nat.pow 10 k ≤ Binary64.largestDecimal) :
    ∃ m, Reads (signText negative ++ Decimal.scientific "+" d) m := by
  obtain ⟨c, t, a, ds, z, h⟩ := Decimal.exists_spells hd
  have hle : valueOf (a :: ds) ≤ Nat.pow 10 17 := h.valueOf_le hdigits
  obtain ⟨es, hspell, hexponent, hne, -⟩ := Text.exists_digits (Decimal.leading d).natAbs
  have hmoderate : Moderate ⟨negative, [a], ds, decide (Decimal.leading d < 0), es⟩ := by
    by_cases hbelow : Decimal.leading d < 0
    · exact .inl (decide_eq_true hbelow)
    refine .inr ⟨h.valueOf_pos hd, hle, ?_⟩
    show valueOf (a :: ds) * Nat.pow 10 (valueOf es)
      ≤ Binary64.largestDecimal * Nat.pow 10 ds.length
    rw [hexponent]
    exact h.mul_pow_le_largestDecimal hdigits hlargest (Int.not_lt.1 hbelow)
  have hreads := exists_reads_exponent negative _ h.head h.head_ne h.tail hspell hne
    (hle.trans_lt (by decide)) hmoderate
  rw [scientific_eq h.digits_eq]
  exact hreads

/-- What is printed for a binary64 is read. -/
lemma exists_reads_real (x : Binary64) : ∃ m, Reads (Number.real x).print m := by
  have hmagnitude : ∃ m, Reads (signText x.negative ++ if x.isZero then '0' :: Layout.data.wholeMark
      else Layout.data.decimal (x.shortest Layout.data.tie)) m := by
    split
    · have hnil : ([] : Text).map Text.digit? = ([] : List Nat).map some := rfl
      have hzero : (['0'] : Text).map Text.digit? = [0].map some := rfl
      exact exists_reads_point x.negative rfl hnil (fun _ => rfl) hzero (by simp) (by decide)
    · next hzero =>
      rw [Bool.not_eq_true] at hzero
      obtain ⟨hpos, hdigits⟩ := Binary64.shortest_significand hzero
      have hne : (Binary64.shortest .even x).significand ≠ 0 := Nat.ne_of_gt hpos
      unfold Layout.decimal Layout.data
      simp only
      split
      · next hleading => exact exists_reads_positional x.negative hne hdigits hleading.2
      · exact exists_reads_scientific x.negative hne hdigits fun k hk =>
          Binary64.shortest_le hzero hk
  unfold Number.print Layout.binary64
  simp only
  cases hnegative : x.negative with
  | true =>
    rw [hnegative] at hmagnitude
    exact hmagnitude
  | false =>
    rw [hnegative] at hmagnitude
    exact hmagnitude

end Json.Numeral

/-- What is printed for a number is read, as a number. -/
lemma Json.Number.reads_reread (n : Number) : Numeral.Reads n.print n.reread := by
  cases n with
  | integer i h =>
    rw [reread_integer]
    exact reads_integer i h
  | real x =>
    obtain ⟨m, hm⟩ := Numeral.exists_reads_real x
    rw [reread_eq hm]
    exact hm

end RuleTemplate
