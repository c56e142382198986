import Mathlib.Data.Nat.Log
import Mathlib.Tactic.Lemma
import Mathlib.Tactic.Ring
import RuleTemplate.Number.Binary64

/-!
# Rounding keeps the order

`Binary64.rounded` is the magnitude that a quotient is rounded to, if the range had no end. It does
not fall when the quotient grows (`rounded_le_rounded`), and it is that of a number exactly when it
is not beyond the largest one (`exists_ofRatio?`). So whether a product or a quotient is in range
can be told from any greater one whose result is known.

With that, every decimal with few digits is read unless it lies beyond `largestDecimal`
(`isSome_ofDecimal?_of_le`). The greatest significand for each power of ten is a matter of
computing; only these are computed.
-/

namespace RuleTemplate.Binary64

/-! ## The nearest whole number -/

section
variable {n d n' d' : Nat}

lemma div_le_nearest (n d : Nat) : n / d ≤ nearest n d := by
  unfold nearest
  simp only
  split <;> omega

lemma nearest_le_div_add_one (n d : Nat) : nearest n d ≤ n / d + 1 := by
  unfold nearest
  simp only
  split <;> omega

/-- A greater quotient has no less whole part. -/
lemma div_le_div_of_mul_le (hd : 0 < d) (hd' : 0 < d') (h : n * d' ≤ n' * d) : n / d ≤ n' / d' := by
  rw [Nat.le_div_iff_mul_le hd']
  have hfloor : n / d * d ≤ n := Nat.div_mul_le_self n d
  have hproduct : n / d * d' * d ≤ n' * d := by
    calc
      n / d * d' * d = n / d * d * d' := by ring
      _ ≤ n * d' := Nat.mul_le_mul_right d' hfloor
      _ ≤ n' * d := h
  exact Nat.le_of_mul_le_mul_right hproduct hd

/-- Of two quotients with the same whole part, the greater one has the greater rest. -/
lemma mod_mul_le_of_mul_le (hq : n / d = n' / d') (h : n * d' ≤ n' * d) :
    n % d * d' ≤ n' % d' * d := by
  have hn := Nat.div_add_mod n d
  have hn' := Nat.div_add_mod n' d'
  have hleft : n * d' = d * d' * (n / d) + n % d * d' := by
    calc
      n * d' = (d * (n / d) + n % d) * d' := by rw [hn]
      _ = _ := by ring
  have hright : n' * d = d * d' * (n / d) + n' % d' * d := by
    calc
      n' * d = (d' * (n' / d') + n' % d') * d := by rw [hn']
      _ = _ := by rw [hq]; ring
  omega

/-- A greater quotient is rounded to no less. -/
lemma nearest_le_nearest (hd : 0 < d) (hd' : 0 < d') (h : n * d' ≤ n' * d) :
    nearest n d ≤ nearest n' d' := by
  have hq := div_le_div_of_mul_le hd hd' h
  by_cases heq : n / d = n' / d'
  · have hrest := mod_mul_le_of_mul_le heq h
    -- where the lesser quotient is rounded up, so is the greater one
    have hup : d < 2 * (n % d) → d' < 2 * (n' % d') := by
      intro hlt
      have hproduct : d' * d < 2 * (n' % d') * d := by
        calc
          d' * d = d * d' := Nat.mul_comm ..
          _ < 2 * (n % d) * d' := Nat.mul_lt_mul_of_pos_right hlt hd'
          _ = 2 * (n % d * d') := Nat.mul_assoc ..
          _ ≤ 2 * (n' % d' * d) := Nat.mul_le_mul_left 2 hrest
          _ = _ := (Nat.mul_assoc ..).symm
      exact Nat.lt_of_mul_lt_mul_right hproduct
    have htie : 2 * (n % d) = d → d' ≤ 2 * (n' % d') := by
      intro hd2
      have hproduct : d' * d ≤ 2 * (n' % d') * d := by
        calc
          d' * d = 2 * (n % d) * d' := by rw [hd2, Nat.mul_comm]
          _ = 2 * (n % d * d') := Nat.mul_assoc ..
          _ ≤ 2 * (n' % d' * d) := Nat.mul_le_mul_left 2 hrest
          _ = _ := (Nat.mul_assoc ..).symm
      exact Nat.le_of_mul_le_mul_right hproduct hd
    unfold nearest
    simp only
    split
    · next hcond =>
      have hcond' : d' < 2 * (n' % d') ∨ 2 * (n' % d') = d' ∧ n' / d' % 2 = 1 := by
        rcases hcond with hlt | ⟨hd2, hodd⟩
        · exact .inl (hup hlt)
        · have hle := htie hd2
          rw [← heq]
          omega
      rw [if_pos hcond', heq]
    · split <;> omega
  · have hlow := nearest_le_div_add_one n d
    have hhigh := div_le_nearest n' d'
    omega

end

/-! ## The nearest number -/

variable {units den units' den' : Nat}

/-- The scale of the number nearest to a quotient. -/
def scaleOf (units den : Nat) : Nat := (units / den).log2 - 52

/-- The mantissa of that number; it may fill the 54th bit. -/
def mantissaOf (units den : Nat) : Nat := nearest units (den * Nat.pow 2 (scaleOf units den))

/-- The whole number of units that a quotient of them is rounded to. -/
def rounded (units den : Nat) : Nat := mantissaOf units den * Nat.pow 2 (scaleOf units den)

lemma pow_two_pos (n : Nat) : 0 < Nat.pow 2 n := Nat.pow_pos (by decide)

lemma pow_two_le_pow_two {m n : Nat} (h : m ≤ n) : Nat.pow 2 m ≤ Nat.pow 2 n :=
  Nat.pow_le_pow_right (by decide) h

lemma log2_le_log2 {m n : Nat} (h : m ≤ n) : m.log2 ≤ n.log2 := by
  rw [Nat.log2_eq_log_two, Nat.log2_eq_log_two]
  exact Nat.log_mono_right h

lemma mantissaOf_le (units den : Nat) : mantissaOf units den ≤ 2 * leastFull := by
  have hlog : (units / den).log2 + 1 ≤ scaleOf units den + 53 := by
    unfold scaleOf
    omega
  have hfloor : units / (den * Nat.pow 2 (scaleOf units den)) < Nat.pow 2 53 := by
    rw [← Nat.div_div_eq_div_mul]
    apply Nat.div_lt_of_lt_mul
    calc
      units / den < Nat.pow 2 ((units / den).log2 + 1) := Nat.lt_log2_self
      _ ≤ Nat.pow 2 (scaleOf units den + 53) := pow_two_le_pow_two hlog
      _ = Nat.pow 2 (scaleOf units den) * Nat.pow 2 53 := Nat.pow_add 2 _ 53
  have hle := nearest_le_div_add_one units (den * Nat.pow 2 (scaleOf units den))
  have hfull : 2 * leastFull = Nat.pow 2 53 := rfl
  unfold mantissaOf
  omega

lemma leastFull_le_mantissaOf (h : scaleOf units den ≠ 0) : leastFull ≤ mantissaOf units den := by
  have hlog : 52 + scaleOf units den = (units / den).log2 := by
    unfold scaleOf at h ⊢
    omega
  have hne : units / den ≠ 0 := by
    intro hzero
    rw [hzero, Nat.log2_zero] at hlog
    omega
  have hfloor : leastFull ≤ units / (den * Nat.pow 2 (scaleOf units den)) := by
    rw [← Nat.div_div_eq_div_mul, Nat.le_div_iff_mul_le (pow_two_pos _)]
    calc
      leastFull * Nat.pow 2 (scaleOf units den) = Nat.pow 2 (52 + scaleOf units den) :=
        (Nat.pow_add 2 52 _).symm
      _ = Nat.pow 2 (units / den).log2 := by rw [hlog]
      _ ≤ units / den := Nat.log2_self_le hne
  exact hfloor.trans (div_le_nearest ..)

/-- A greater quotient is rounded to no less. -/
lemma rounded_le_rounded (hden : 0 < den) (hden' : 0 < den') (h : units * den' ≤ units' * den) :
    rounded units den ≤ rounded units' den' := by
  have hscale : scaleOf units den ≤ scaleOf units' den' := by
    have hlog := log2_le_log2 (div_le_div_of_mul_le hden hden' h)
    unfold scaleOf
    omega
  rcases Nat.eq_or_lt_of_le hscale with heq | hlt
  · have hproduct : units * (den' * Nat.pow 2 (scaleOf units' den'))
        ≤ units' * (den * Nat.pow 2 (scaleOf units den)) := by
      rw [heq, ← Nat.mul_assoc, ← Nat.mul_assoc]
      exact Nat.mul_le_mul_right _ h
    have hmantissa : mantissaOf units den ≤ mantissaOf units' den' :=
      nearest_le_nearest (Nat.mul_pos hden (pow_two_pos _)) (Nat.mul_pos hden' (pow_two_pos _))
        hproduct
    unfold rounded
    rw [heq]
    exact Nat.mul_le_mul_right _ hmantissa
  -- a power of two lies between the two results
  · calc
      rounded units den ≤ 2 * leastFull * Nat.pow 2 (scaleOf units den) :=
        Nat.mul_le_mul_right _ (mantissaOf_le ..)
      _ = leastFull * (Nat.pow 2 (scaleOf units den) * 2) := by ring
      _ ≤ leastFull * Nat.pow 2 (scaleOf units' den') :=
        Nat.mul_le_mul_left _ (pow_two_le_pow_two hlt)
      _ ≤ rounded units' den' := Nat.mul_le_mul_right _ (leastFull_le_mantissaOf (by omega))

/-! ## Numbers in range -/

/-- With a full mantissa, the scale is bounded by that of a greater magnitude. -/
lemma scale_le_of_mul_le (top : Nat) {m s : Nat} (hm : leastFull ≤ m)
    (h : m * Nat.pow 2 s ≤ (2 * leastFull - 1) * Nat.pow 2 top) : s ≤ top := by
  by_contra hs
  have hpow : Nat.pow 2 (top + 1) ≤ Nat.pow 2 s := pow_two_le_pow_two (Nat.lt_of_not_le hs)
  have hproduct : leastFull * (Nat.pow 2 top * 2) ≤ (2 * leastFull - 1) * Nat.pow 2 top :=
    (Nat.mul_le_mul hm hpow).trans h
  have hpos := pow_two_pos top
  unfold leastFull at hproduct
  omega

/-- The scale of the largest numbers. -/
def topScale : Nat := 2045

/-- The largest number, in units. -/
def maxUnits : Nat := (2 * leastFull - 1) * Nat.pow 2 topScale

lemma units_le_maxUnits (x : Binary64) : x.units ≤ maxUnits := by
  obtain ⟨hmantissa, hscale, -⟩ := x.canonical
  have hpow : Nat.pow 2 x.scale ≤ Nat.pow 2 topScale := pow_two_le_pow_two hscale
  exact Nat.mul_le_mul (Nat.le_sub_one_of_lt hmantissa) hpow

/-- The number of a mantissa and a scale, if it is in range. -/
def ofParts? (negative : Bool) (mantissa scale : Nat) : Option Binary64 :=
  if mantissa < 2 * leastFull then
    if h : mantissa < 2 * leastFull ∧ scale ≤ topScale ∧ (scale = 0 ∨ leastFull ≤ mantissa) then
      some ⟨negative, mantissa, scale, h⟩
    else none
  else
    if h : scale + 1 ≤ topScale then
      some ⟨negative, leastFull, scale + 1, by decide, h, .inr (Nat.le_refl _)⟩
    else none

variable {negative : Bool} {m s num : Nat} {x y : Binary64}

lemma exists_ofParts? (hm : m ≤ 2 * leastFull) (hfull : s = 0 ∨ leastFull ≤ m)
    (h : m * Nat.pow 2 s ≤ maxUnits) :
    ∃ y, ofParts? negative m s = some y ∧ y.units = m * Nat.pow 2 s := by
  unfold maxUnits at h
  unfold ofParts?
  by_cases hlt : m < 2 * leastFull
  · have hs : s ≤ topScale := by
      rcases hfull with hzero | hleast
      · rw [hzero]
        exact Nat.zero_le _
      · exact scale_le_of_mul_le topScale hleast h
    rw [if_pos hlt, dif_pos ⟨hlt, hs, hfull⟩]
    exact ⟨_, rfl, rfl⟩
  · have hnext : m * Nat.pow 2 s = leastFull * Nat.pow 2 (s + 1) := by
      have hpow : Nat.pow 2 (s + 1) = Nat.pow 2 s * 2 := rfl
      rw [Nat.le_antisymm hm (Nat.le_of_not_lt hlt), hpow]
      ring
    rw [hnext] at h ⊢
    have hs : s + 1 ≤ topScale := scale_le_of_mul_le topScale (Nat.le_refl _) h
    rw [if_neg hlt, dif_pos hs]
    exact ⟨_, rfl, rfl⟩

/-- What is rounded to a magnitude within the range is rounded to a number. -/
lemma exists_ofRatio? (negative : Bool) (h : rounded (num * unitsInOne) den ≤ maxUnits) :
    ∃ y, ofRatio? negative num den = some y ∧ y.units = rounded (num * unitsInOne) den := by
  have hparts : ofRatio? negative num den = ofParts? negative
      (mantissaOf (num * unitsInOne) den) (scaleOf (num * unitsInOne) den) := rfl
  rw [hparts]
  apply exists_ofParts? (mantissaOf_le ..) _ h
  by_cases hzero : scaleOf (num * unitsInOne) den = 0
  · exact .inl hzero
  · exact .inr (leastFull_le_mantissaOf hzero)

lemma units_of_ofParts? (hm : m ≤ 2 * leastFull) (h : ofParts? negative m s = some y) :
    y.units = m * Nat.pow 2 s := by
  unfold ofParts? at h
  split at h
  · split at h
    · cases h
      rfl
    · cases h
  · next hlt =>
    split at h
    · cases h
      rw [Nat.le_antisymm hm (Nat.le_of_not_lt hlt)]
      show leastFull * (Nat.pow 2 s * 2) = _
      ring
    · cases h

lemma rounded_of_ofRatio? (h : ofRatio? negative num den = some y) :
    rounded (num * unitsInOne) den = y.units :=
  (units_of_ofParts? (mantissaOf_le ..) h).symm

/-- With a greater quotient that is in range, a quotient is in range, and rounded to no more. -/
lemma exists_ofRatio?_of_le (negative : Bool) {num' : Nat} {negative' : Bool} (hden : 0 < den)
    (hden' : 0 < den') (hle : num * den' ≤ num' * den)
    (h : ofRatio? negative' num' den' = some y) :
    ∃ x, ofRatio? negative num den = some x ∧ x.units ≤ y.units := by
  have hunits : num * unitsInOne * den' ≤ num' * unitsInOne * den := by
    rw [Nat.mul_right_comm, Nat.mul_right_comm num']
    exact Nat.mul_le_mul_right _ hle
  have hrounded := rounded_le_rounded hden hden' hunits
  rw [rounded_of_ofRatio? h] at hrounded
  obtain ⟨x, hx, hxunits⟩ := exists_ofRatio? negative
    (hrounded.trans (units_le_maxUnits y))
  exact ⟨x, hx, hxunits.trans_le hrounded⟩

/-! ## Products and quotients -/

lemma unitsInOne_pos : 0 < unitsInOne := by decide +kernel

/-- The largest number is a quotient in range. -/
lemma exists_ofRatio?_maxUnits : ∃ y, ofRatio? false maxUnits unitsInOne = some y := by
  have hsome : (ofRatio? false maxUnits unitsInOne).isSome = true := by decide +kernel
  exact Option.isSome_iff_exists.1 hsome

/-- A quotient by one or more is in range. -/
lemma exists_div? (x : Binary64) (hy : unitsInOne ≤ y.units) : ∃ z, div? x y = some z := by
  obtain ⟨top, htop⟩ := exists_ofRatio?_maxUnits
  have hpos : 0 < y.units := unitsInOne_pos.trans_le hy
  have hle : x.units * unitsInOne ≤ maxUnits * y.units := Nat.mul_le_mul (units_le_maxUnits x) hy
  obtain ⟨z, hz, -⟩ := exists_ofRatio?_of_le false hpos unitsInOne_pos hle htop
  exact ⟨z, hz⟩

/-- A product with a factor of one or less is in range. -/
lemma exists_mul?_of_le_one (x : Binary64) (hy : y.units ≤ unitsInOne) :
    ∃ z, mul? x y = some z := by
  obtain ⟨top, htop⟩ := exists_ofRatio?_maxUnits
  have hpos : 0 < unitsInOne * unitsInOne := Nat.mul_pos unitsInOne_pos unitsInOne_pos
  have hle : x.units * y.units * unitsInOne ≤ maxUnits * (unitsInOne * unitsInOne) := by
    rw [Nat.mul_assoc]
    exact Nat.mul_le_mul (units_le_maxUnits x) (Nat.mul_le_mul_right _ hy)
  obtain ⟨z, hz, -⟩ := exists_ofRatio?_of_le false hpos unitsInOne_pos hle htop
  exact ⟨z, hz⟩

/-- A product with greater factors that is in range shows that a product is in range. -/
lemma exists_mul?_of_le {x' y' z' : Binary64} (hx : x.units ≤ x'.units) (hy : y.units ≤ y'.units)
    (h : mul? x' y' = some z') : ∃ z, mul? x y = some z := by
  have hpos : 0 < unitsInOne * unitsInOne := Nat.mul_pos unitsInOne_pos unitsInOne_pos
  obtain ⟨z, hz, -⟩ := exists_ofRatio?_of_le false hpos hpos
    (Nat.mul_le_mul_right _ (Nat.mul_le_mul hx hy)) h
  exact ⟨z, hz⟩

lemma pow_ten_pos (n : Nat) : 0 < Nat.pow 10 n := Nat.pow_pos (by decide)

lemma pow_ten_le_pow_ten {m n : Nat} (h : m ≤ n) : Nat.pow 10 m ≤ Nat.pow 10 n :=
  Nat.pow_le_pow_right (by decide) h

/-- A greater power of ten is rounded to no less. -/
lemma exists_power?_of_le {j k : Nat} (hjk : j ≤ k) (h : power? k = some y) :
    ∃ p, power? j = some p ∧ p.units ≤ y.units :=
  exists_ofRatio?_of_le false Nat.one_pos Nat.one_pos
    (Nat.mul_le_mul_right 1 (pow_ten_le_pow_ten hjk)) h

/-- The power of zero is one. -/
lemma exists_power?_zero : ∃ p, power? 0 = some p ∧ p.units = unitsInOne := by
  have hone : (power? 0).map units = some unitsInOne := by decide +kernel
  exact Option.map_eq_some_iff.1 hone

/-- Powers of ten up to the top power are in range, and one or more. -/
lemma exists_power? {k : Nat} (hk : k ≤ topPower) :
    ∃ p, power? k = some p ∧ unitsInOne ≤ p.units := by
  have htop : (power? topPower).isSome = true := by decide +kernel
  obtain ⟨top, htop⟩ := Option.isSome_iff_exists.1 htop
  obtain ⟨one, hone, hunits⟩ := exists_power?_zero
  obtain ⟨p, hp, -⟩ := exists_power?_of_le hk htop
  obtain ⟨one', hone', hle⟩ := exists_power?_of_le (Nat.zero_le k) hp
  rw [hone] at hone'
  cases hone'
  exact ⟨p, hp, hunits ▸ hle⟩

/-! ## Decimals -/

/-- One step scales by a power of ten up to the top power. -/
lemma scaled?_succ {exponent : Int} {p : Binary64} (hsmall : exponent.natAbs ≤ topPower)
    (hp : power? exponent.natAbs = some p) (x : Binary64) (steps : Nat) :
    scaled? x exponent (steps + 1) = if 0 ≤ exponent then mul? x p else div? x p := by
  unfold scaled?
  rw [if_pos hsmall, hp]
  rfl

/-- What is divided by powers of ten stays in range. -/
lemma exists_scaled?_of_nonpos (x : Binary64) {exponent : Int} (h : exponent ≤ 0) (steps : Nat) :
    ∃ z, scaled? x exponent steps = some z := by
  induction steps generalizing x exponent with
  | zero => exact ⟨_, rfl⟩
  | succ steps ih =>
    by_cases hsmall : exponent.natAbs ≤ topPower
    · obtain ⟨p, hp, hone⟩ := exists_power? hsmall
      rw [scaled?_succ hsmall hp]
      split
      · have hzero : exponent.natAbs = 0 := by omega
        obtain ⟨one, hone, hunits⟩ := exists_power?_zero
        rw [hzero, hone] at hp
        cases hp
        exact exists_mul?_of_le_one x (Nat.le_of_eq hunits)
      · exact exists_div? x hone
    · have hneg : ¬ 0 ≤ exponent := by omega
      have hnext : exponent + topPower ≤ 0 := by
        unfold topPower at hsmall ⊢
        omega
      obtain ⟨p, hp, hone⟩ := exists_power? (Nat.le_refl topPower)
      obtain ⟨y, hy⟩ := exists_div? x hone
      unfold scaled?
      rw [if_neg hsmall, if_neg hneg, hp, Option.bind_eq_bind, Option.bind_some, hy,
        Option.bind_some]
      split
      · exact ⟨x, rfl⟩
      · exact ih y hnext

/-- Whole numbers below `2 ^ 64` are in range, and a greater one is rounded to no less. -/
lemma exists_ofNat?_of_le {j k : Nat} (hjk : j ≤ k) (h : ofNat? k = some y) :
    ∃ x, ofNat? j = some x ∧ x.units ≤ y.units :=
  exists_ofRatio?_of_le false Nat.one_pos Nat.one_pos (Nat.mul_le_mul_right 1 hjk) h

lemma exists_ofNat? {n : Nat} (h : n < 0x10000000000000000) : ∃ x, ofNat? n = some x := by
  have htop : (ofNat? 0x10000000000000000).isSome = true := by decide +kernel
  obtain ⟨top, htop⟩ := Option.isSome_iff_exists.1 htop
  obtain ⟨x, hx, -⟩ := exists_ofNat?_of_le (Nat.le_of_lt h) htop
  exact ⟨x, hx⟩

/-- The exponent of the last digit of the greatest decimals. -/
def largestExponent : Nat := 292

/-- The greatest decimal of seventeen digits that is read. -/
def largestDecimal : Nat := 17976931348623157 * Nat.pow 10 largestExponent

lemma largestDecimal_eq : largestDecimal = 17976931348623157 * Nat.pow 10 largestExponent := rfl

/-- The greatest significand for a power of ten, at most `10 ^ 17`. -/
def greatest (k : Nat) : Nat := min (Nat.pow 10 17) (largestDecimal / Nat.pow 10 k)

/-- The greatest significands are read. Up to the first of these powers it is `10 ^ 17`. -/
lemma exists_mul?_greatest {k : Nat} (hlow : 291 ≤ k) (hhigh : k < 309) :
    ∃ x p z, ofNat? (greatest k) = some x ∧ power? k = some p ∧ mul? x p = some z := by
  have hall : ∀ k < 309, 291 ≤ k → ((ofNat? (greatest k)).any fun x => (power? k).any fun p =>
      (mul? x p).isSome) = true := by
    decide +kernel
  obtain ⟨x, hx, hany⟩ := (Option.any_eq_true _ _).1 (hall k hhigh hlow)
  obtain ⟨p, hp, hsome⟩ := (Option.any_eq_true _ _).1 hany
  obtain ⟨z, hz⟩ := Option.isSome_iff_exists.1 hsome
  exact ⟨x, p, z, hx, hp, hz⟩

/-- A product that is no greater than the largest decimal is read. -/
lemma exists_mul?_of_le_greatest {n k : Nat} (hk : k ≤ topPower) (hn : n ≤ greatest k) :
    ∃ x p z, ofNat? n = some x ∧ power? k = some p ∧ mul? x p = some z := by
  obtain ⟨top, hlow, hhigh, hle, hn⟩ : ∃ top, 291 ≤ top ∧ top < 309 ∧ k ≤ top ∧
      n ≤ greatest top := by
    by_cases hlow : 291 ≤ k
    · exact ⟨k, hlow, Nat.lt_succ_of_le hk, Nat.le_refl k, hn⟩
    · have hfirst : greatest 291 = Nat.pow 10 17 := by decide +kernel
      exact ⟨291, Nat.le_refl 291, by decide, Nat.le_of_not_le hlow,
        hfirst ▸ hn.trans (Nat.min_le_left ..)⟩
  obtain ⟨x', p', z', hx', hp', hz'⟩ := exists_mul?_greatest hlow hhigh
  obtain ⟨x, hx, hxunits⟩ := exists_ofNat?_of_le hn hx'
  obtain ⟨p, hp, hpunits⟩ := exists_power?_of_le hle hp'
  obtain ⟨z, hz⟩ := exists_mul?_of_le hxunits hpunits hz'
  exact ⟨x, p, z, hx, hp, hz⟩

/-- A decimal with a significand that fits is read, when nothing is to be multiplied. -/
lemma isSome_ofDecimal?_of_nonpos {n : Nat} {exponent : Int} (hn : n < 0x10000000000000000)
    (h : exponent ≤ 0) : (ofDecimal? negative n exponent).isSome := by
  obtain ⟨x, hx⟩ := exists_ofNat? hn
  obtain ⟨z, hz⟩ := exists_scaled?_of_nonpos x h 4
  unfold ofDecimal?
  rw [hx, Option.bind_eq_bind, Option.bind_some, hz]
  rfl

/-- A decimal of few digits is read up to the largest one. -/
lemma isSome_ofDecimal?_of_le {n k : Nat} (hpos : 0 < n) (hdigits : n ≤ Nat.pow 10 17)
    (hle : n * Nat.pow 10 k ≤ largestDecimal) : (ofDecimal? negative n k).isSome := by
  have hk : k ≤ topPower := by
    by_contra hlarge
    have hbound : largestDecimal < Nat.pow 10 (topPower + 1) := by decide +kernel
    have hpow : Nat.pow 10 (topPower + 1) ≤ Nat.pow 10 k :=
      pow_ten_le_pow_ten (Nat.lt_of_not_le hlarge)
    have hmul : Nat.pow 10 k ≤ n * Nat.pow 10 k := Nat.le_mul_of_pos_left _ hpos
    exact absurd (hpow.trans (hmul.trans hle)) (Nat.not_le_of_lt hbound)
  have hgreatest : n ≤ greatest k :=
    Nat.le_min.2 ⟨hdigits, (Nat.le_div_iff_mul_le (pow_ten_pos k)).2 hle⟩
  obtain ⟨x, p, z, hx, hp, hz⟩ := exists_mul?_of_le_greatest hk hgreatest
  have hscaled : scaled? x k 4 = some z := by
    have hnat : (k : Int).natAbs = k := Int.natAbs_natCast k
    rw [← hnat] at hk hp
    rw [scaled?_succ hk hp, if_pos (Int.natCast_nonneg k), hz]
  unfold ofDecimal?
  rw [hx, Option.bind_eq_bind, Option.bind_some, hscaled]
  rfl

end RuleTemplate.Binary64
