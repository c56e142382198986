import RuleTemplate.Number.Shortest
import RuleTemplate.Proofs.Number.Rounding

/-!
# The size of the shortest decimal

The shortest decimal of a number has no more than seventeen digits (`shortest_significand`), since
the exponent of its first digit is that of the number. And it does not lie beyond the largest
decimal that is read (`shortest_le`): short of the largest number this holds of all reals that round
to the number, and of the largest number itself the decimal is known.
-/

namespace RuleTemplate.Binary64

/-! ## The first digit -/

lemma pow_ten_zero : Nat.pow 10 0 = 1 := rfl

lemma pow_ten_add (m n : Nat) : Nat.pow 10 (m + n) = Nat.pow 10 m * Nat.pow 10 n :=
  Nat.pow_add 10 m n

/-- A quotient lies from `10 ^ first` up to below `10 ^ (first + 1)`. -/
structure Leads (num den : Nat) (first : Int) : Prop where
  low : den * Nat.pow 10 first.toNat ≤ num * Nat.pow 10 (-first).toNat
  high : num * Nat.pow 10 (-first).toNat < den * Nat.pow 10 first.toNat * 10

variable {num den : Nat} {first : Int}

/-- The whole part of a quotient of one or more has as many digits as the quotient. -/
lemma leads_digitCount (hden : 0 < den) (h : den ≤ num) :
    Leads num den ((digitCount (num / den) : Int) - 1) := by
  have hwhole : 0 < num / den := Nat.div_pos h hden
  have hcount : 0 < digitCount (num / den) := List.length_pos_iff.2 Nat.toDigits_ne_nil
  have hnonneg : (-((digitCount (num / den) : Int) - 1)).toNat = 0 := by omega
  have hpred : ((digitCount (num / den) : Int) - 1).toNat = digitCount (num / den) - 1 := by omega
  have hlt : num / den < Nat.pow 10 (digitCount (num / den)) :=
    (Nat.length_toDigits_le_iff (by decide) hcount).1 (Nat.le_refl _)
  have hge : Nat.pow 10 (digitCount (num / den) - 1) ≤ num / den := by
    by_cases hone : digitCount (num / den) = 1
    · rw [hone]
      exact hwhole
    · by_contra hsmall
      have hle := (Nat.length_toDigits_le_iff (b := 10) (k := digitCount (num / den) - 1)
        (by decide) (by omega)).2 (Nat.lt_of_not_le hsmall)
      unfold digitCount at hcount hle
      omega
  constructor
  · rw [hnonneg, hpred]
    have hmul := (Nat.le_div_iff_mul_le hden).1 hge
    rw [Nat.mul_comm] at hmul
    exact hmul.trans (Nat.le_of_eq (Nat.mul_one num).symm)
  · have hstep : Nat.pow 10 (digitCount (num / den) - 1) * 10
        = Nat.pow 10 (digitCount (num / den)) := by
      obtain ⟨k, hk⟩ := Nat.exists_eq_succ_of_ne_zero (Nat.pos_iff_ne_zero.1 hcount)
      rw [hk]
      rfl
    rw [hnonneg, hpred, Nat.mul_assoc, hstep, Nat.mul_comm den]
    exact (Nat.mul_one num).symm ▸ (Nat.div_lt_iff_lt_mul hden).1 hlt

/-- Below one, the first digit follows as many zeros as tenfold steps are short of one. -/
lemma leads_negOfNat {k : Nat} (hk : den ≤ num * Nat.pow 10 (k + 1))
    (hmin : num * Nat.pow 10 k < den) : Leads num den (Int.negOfNat (k + 1)) := by
  have hneg : (-Int.negOfNat (k + 1)).toNat = k + 1 := rfl
  have hzero : (Int.negOfNat (k + 1)).toNat = 0 := rfl
  constructor
  · rw [hneg, hzero]
    exact (Nat.mul_one den).trans_le hk
  · rw [hneg, hzero]
    calc
      num * Nat.pow 10 (k + 1) = num * Nat.pow 10 k * 10 := (Nat.mul_assoc ..).symm
      _ < den * 10 := Nat.mul_lt_mul_of_pos_right hmin (by decide)
      _ = den * Nat.pow 10 0 * 10 := by rw [pow_ten_zero, Nat.mul_one]

/-- The exponent of the first digit, of a quotient that is not too small. -/
lemma leads_leadingExponent (hden : 0 < den) (h : den ≤ num * Nat.pow 10 399) :
    Leads num den (leadingExponent num den) := by
  unfold leadingExponent
  split
  · next hone => exact leads_digitCount hden hone
  · next hone =>
    have hsome : ((List.range 400).find? fun k => decide (den ≤ num * Nat.pow 10 k)).isSome := by
      rw [List.find?_isSome]
      exact ⟨399, List.mem_range.2 (by decide), decide_eq_true h⟩
    obtain ⟨k, hfind⟩ := Option.isSome_iff_exists.1 hsome
    obtain ⟨hk, -, hmin⟩ := List.find?_range_eq_some.1 hfind
    rw [hfind, Option.getD_some]
    cases k with
    | zero => exact absurd ((of_decide_eq_true hk).trans_eq (Nat.mul_one num)) hone
    | succ k =>
      have hbefore := hmin k (Nat.lt_succ_self k)
      simp only [Bool.not_eq_true', decide_eq_false_iff_not, Nat.not_le] at hbefore
      exact leads_negOfNat (of_decide_eq_true hk) hbefore

/-! ## The grids -/

/-- The whole part of a quotient on the decimal grid of an exponent. -/
def gridFloor (num den : Nat) (exponent : Int) : Nat :=
  num * Nat.pow 10 (-exponent).toNat / (den * Nat.pow 10 exponent.toNat)

/-- On a grid that is `n` places finer than the first digit, a quotient has `n + 1` digits. -/
lemma Leads.gridFloor (h : Leads num den first) (hden : 0 < den) (n : Nat) :
    Nat.pow 10 n ≤ Binary64.gridFloor num den (first - n) ∧
      Binary64.gridFloor num den (first - n) < Nat.pow 10 (n + 1) := by
  have hexponents : first.toNat + (-(first - n)).toNat
      = n + (first - (n : Int)).toNat + (-first).toNat := by omega
  have hpow : Nat.pow 10 first.toNat * Nat.pow 10 (-(first - n)).toNat
      = Nat.pow 10 n * Nat.pow 10 (first - (n : Int)).toNat * Nat.pow 10 (-first).toNat := by
    rw [← pow_ten_add, ← pow_ten_add, ← pow_ten_add, hexponents]
  have hgrid : 0 < den * Nat.pow 10 (first - (n : Int)).toNat :=
    Nat.mul_pos hden (pow_ten_pos _)
  have hbelow : 0 < Nat.pow 10 (-first).toNat := pow_ten_pos _
  have hdown : 0 < Nat.pow 10 (-(first - (n : Int))).toNat := pow_ten_pos _
  obtain ⟨hlow, hhigh⟩ := h
  unfold Binary64.gridFloor
  generalize Nat.pow 10 (first - (n : Int)).toNat = up at *
  generalize Nat.pow 10 (-(first - (n : Int))).toNat = down at *
  generalize Nat.pow 10 (-first).toNat = below at *
  generalize Nat.pow 10 first.toNat = above at *
  constructor
  · rw [Nat.le_div_iff_mul_le hgrid]
    apply Nat.le_of_mul_le_mul_right _ hbelow
    calc
      Nat.pow 10 n * (den * up) * below = den * (Nat.pow 10 n * up * below) := by ring
      _ = den * above * down := by rw [← hpow]; ring
      _ ≤ num * below * down := Nat.mul_le_mul_right down hlow
      _ = num * down * below := by ring
  · rw [Nat.div_lt_iff_lt_mul hgrid]
    apply Nat.lt_of_mul_lt_mul_right (a := below)
    calc
      num * down * below = num * below * down := by ring
      _ < den * above * 10 * down := Nat.mul_lt_mul_of_pos_right hhigh hdown
      _ = den * 10 * (above * down) := by ring
      _ = Nat.pow 10 n * 10 * (den * up) * below := by rw [hpow]; ring

variable {i : Interval} {exponent : Int} {d : Decimal}

lemma nearest_mem (n d : Nat) : nearest n d = n / d ∨ nearest n d = n / d + 1 := by
  have hlow := div_le_nearest n d
  have hhigh := nearest_le_div_add_one n d
  omega

/-- Of two candidates the first one in the interval is taken. -/
lemma Interval.holds_of_choice {nearer other : Nat}
    (h : (if i.holds exponent nearer then some (⟨nearer, exponent⟩ : Decimal)
      else if i.holds exponent other then some ⟨other, exponent⟩ else none) = some d) :
    d.exponent = exponent ∧ i.holds exponent d.significand = true ∧
      (d.significand = nearer ∨ d.significand = other) := by
  split at h
  · next hholds =>
    cases h
    exact ⟨rfl, hholds, .inl rfl⟩
  · split at h
    · next hholds =>
      cases h
      exact ⟨rfl, hholds, .inr rfl⟩
    · cases h

/-- On a grid, one of the neighbours of the value is taken, if it lies in the interval. -/
lemma Interval.holds_of_onGrid? (h : i.onGrid? .even exponent = some d) :
    d.exponent = exponent ∧ i.holds exponent d.significand = true ∧
      (d.significand = gridFloor i.value i.den exponent ∨
        d.significand = gridFloor i.value i.den exponent + 1) := by
  have hnearest := nearest_mem (i.value * Nat.pow 10 (-exponent).toNat)
    (i.den * Nat.pow 10 exponent.toNat)
  obtain ⟨hexponent, hholds, hsignificand⟩ := holds_of_choice h
  refine ⟨hexponent, hholds, ?_⟩
  rcases hsignificand with hnearer | hother
  · rw [hnearer]
    exact hnearest
  · rw [hother]
    split
    · exact .inr rfl
    · exact .inl rfl

/-! ## The shortest decimal -/

variable {x : Binary64}

/-- The exponent of the first digit of a number. -/
def leading (x : Binary64) : Int := leadingExponent x.interval.value x.interval.den

/-- The decimal is found on one of seventeen grids, or it is the nearest one on the finest. -/
lemma exists_grid (x : Binary64) : ∃ n ≤ 16, ((shortest .even x).exponent = x.leading - (n : Nat)) ∧
    ((shortest .even x).significand = gridFloor x.interval.value x.interval.den (x.leading - n) ∨
      (shortest .even x).significand
        = gridFloor x.interval.value x.interval.den (x.leading - n) + 1) ∧
    (x.interval.holds (x.leading - n) (shortest .even x).significand = true ∨
      n = 16 ∧ (shortest .even x).significand
        = nearest (x.interval.value * Nat.pow 10 (-(x.leading - n)).toNat)
          (x.interval.den * Nat.pow 10 (x.leading - n).toNat)) := by
  unfold shortest leading
  generalize x.interval = i
  simp only
  cases hfind : (List.range 17).findSome? fun n : Nat =>
      i.onGrid? .even (leadingExponent i.value i.den - n) with
  | some d =>
    obtain ⟨n, hn, hgrid⟩ := List.exists_of_findSome?_eq_some hfind
    obtain ⟨hexponent, hholds, hsignificand⟩ := Interval.holds_of_onGrid? hgrid
    exact ⟨n, Nat.le_of_lt_succ (List.mem_range.1 hn), hexponent, hsignificand, .inl hholds⟩
  | none =>
    have hdown : 16 - leadingExponent i.value i.den = -(leadingExponent i.value i.den - 16) := by
      omega
    refine ⟨16, Nat.le_refl 16, rfl, ?_⟩
    rw [Option.getD_none, hdown]
    exact ⟨nearest_mem .., .inr ⟨rfl, rfl⟩⟩

lemma interval_den_pos (x : Binary64) : 0 < x.interval.den := by
  show 0 < 4 * unitsInOne
  exact Nat.mul_pos (by decide) unitsInOne_pos

lemma leads_leading (hx : x.isZero = false) : Leads x.interval.value x.interval.den x.leading := by
  have hmantissa : 0 < x.mantissa := by
    have hne : x.mantissa ≠ 0 := by simpa [isZero] using hx
    exact Nat.pos_of_ne_zero hne
  have hunits : 0 < x.units := Nat.mul_pos hmantissa (pow_two_pos _)
  have hsmall : unitsInOne ≤ Nat.pow 10 399 := by decide +kernel
  apply leads_leadingExponent x.interval_den_pos
  show 4 * unitsInOne ≤ 4 * x.units * Nat.pow 10 399
  rw [Nat.mul_assoc]
  exact Nat.mul_le_mul_left 4 (hsmall.trans (Nat.le_mul_of_pos_left _ hunits))

/-- The shortest decimal is not zero and has seventeen digits at most. -/
lemma shortest_significand (hx : x.isZero = false) :
    0 < (shortest .even x).significand ∧ (shortest .even x).significand ≤ Nat.pow 10 17 := by
  obtain ⟨n, hn, -, hsignificand, -⟩ := exists_grid x
  obtain ⟨hlow, hhigh⟩ := (leads_leading hx).gridFloor x.interval_den_pos n
  have hpos := pow_ten_pos n
  have hdigits : Nat.pow 10 (n + 1) ≤ Nat.pow 10 17 := pow_ten_le_pow_ten (Nat.succ_le_succ hn)
  constructor <;> omega

/-! ## The largest decimals -/

/-- The end of the interval of the number before the largest one. -/
def highest : Nat := (8 * leastFull - 6) * Nat.pow 2 topScale

/-- No number but the largest has an interval that ends later. -/
lemma interval_high_le (hx : x.mantissa ≠ 2 * leastFull - 1 ∨ x.scale ≠ topScale) :
    x.interval.high ≤ highest := by
  obtain ⟨hmantissa, hscale, -⟩ := x.canonical
  show (4 * x.mantissa + 2) * Nat.pow 2 x.scale ≤ highest
  by_cases htop : x.scale = topScale
  · rw [htop]
    apply Nat.mul_le_mul_right
    omega
  · have hbelow : x.scale + 1 ≤ topScale := Nat.lt_of_le_of_ne hscale htop
    have hpow : Nat.pow 2 x.scale * 2 ≤ Nat.pow 2 topScale := pow_two_le_pow_two hbelow
    have hfull : 4 * x.mantissa + 2 ≤ (8 * leastFull - 6) * 2 := by
      unfold leastFull at hmantissa ⊢
      omega
    calc
      (4 * x.mantissa + 2) * Nat.pow 2 x.scale
          ≤ (8 * leastFull - 6) * 2 * Nat.pow 2 x.scale := Nat.mul_le_mul_right _ hfull
      _ = (8 * leastFull - 6) * (Nat.pow 2 x.scale * 2) := by ring
      _ ≤ highest := Nat.mul_le_mul_left _ hpow

/-- A decimal in an interval is not beyond its end. -/
lemma Interval.mul_le_of_holds {n k : Nat} (h : i.holds k n = true) :
    n * Nat.pow 10 k * i.den ≤ i.high := by
  have hdown : (-(k : Int)).toNat = 0 := by omega
  have hhigh : i.high * Nat.pow 10 0 = i.high := Nat.mul_one _
  unfold holds at h
  simp only [Int.toNat_natCast, hdown, hhigh] at h
  split at h
  · exact of_decide_eq_true (Bool.and_eq_true_iff.1 h).2
  · exact Nat.le_of_lt (of_decide_eq_true (Bool.and_eq_true_iff.1 h).2)

/-- A decimal in the interval of such a number is not beyond the largest decimal. -/
lemma mul_le_of_holds {n k : Nat} (hhigh : x.interval.high ≤ highest)
    (h : x.interval.holds k n = true) : n * Nat.pow 10 k ≤ largestDecimal := by
  have hlargest : highest ≤ largestDecimal * (4 * unitsInOne) := by decide +kernel
  exact Nat.le_of_mul_le_mul_right
    ((Interval.mul_le_of_holds h).trans (hhigh.trans hlargest)) x.interval_den_pos

/-- Rounding adds a half at most. -/
lemma two_mul_nearest_mul_le (n : Nat) {d : Nat} (hd : 0 < d) :
    2 * (nearest n d * d) ≤ 2 * n + d := by
  have hdiv := Nat.div_add_mod n d
  have hlt := Nat.mod_lt n hd
  have hcomm : n / d * d = d * (n / d) := Nat.mul_comm ..
  unfold nearest
  simp only
  split
  · rw [Nat.add_mul, Nat.one_mul]
    omega
  · omega

/-- A number lies in its interval. -/
lemma value_le_high (x : Binary64) : x.interval.value ≤ x.interval.high := by
  show 4 * (x.mantissa * Nat.pow 2 x.scale) ≤ (4 * x.mantissa + 2) * Nat.pow 2 x.scale
  rw [← Nat.mul_assoc]
  exact Nat.mul_le_mul_right _ (Nat.le_add_right ..)

/-- Nor is such a number beyond it, when it is rounded to seventeen digits. -/
lemma nearest_mul_le (hhigh : x.interval.high ≤ highest) {k : Nat} (hk : k ≤ largestExponent) :
    nearest x.interval.value (x.interval.den * Nat.pow 10 k) * Nat.pow 10 k ≤ largestDecimal := by
  have hpos := x.interval_den_pos
  have hvalue := x.value_le_high.trans hhigh
  have hlargest : 2 * highest + 4 * unitsInOne * Nat.pow 10 largestExponent
      ≤ 2 * (largestDecimal * (4 * unitsInOne)) := by decide +kernel
  have hden : x.interval.den = 4 * unitsInOne := rfl
  have hgrid := pow_ten_le_pow_ten hk
  rw [← hden] at hlargest
  generalize x.interval.value = value at *
  generalize x.interval.den = den at *
  have hround := two_mul_nearest_mul_le value (Nat.mul_pos hpos (pow_ten_pos k))
  generalize nearest value (den * Nat.pow 10 k) = n at *
  generalize Nat.pow 10 k = grid at *
  have hproduct : 2 * (n * grid * den) ≤ 2 * (largestDecimal * den) := by
    calc
      2 * (n * grid * den) = 2 * (n * (den * grid)) := by ring
      _ ≤ 2 * value + den * grid := hround
      _ ≤ 2 * highest + den * Nat.pow 10 largestExponent :=
        Nat.add_le_add (Nat.mul_le_mul_left 2 hvalue) (Nat.mul_le_mul_left den hgrid)
      _ ≤ 2 * (largestDecimal * den) := hlargest
  exact Nat.le_of_mul_le_mul_right (Nat.le_of_mul_le_mul_left hproduct (by decide)) hpos

/-- The largest number. -/
def largest (negative : Bool) : Binary64 := ⟨negative, 2 * leastFull - 1, topScale, by decide⟩

lemma eq_largest (hmantissa : x.mantissa = 2 * leastFull - 1) (hscale : x.scale = topScale) :
    x = largest x.negative := by
  obtain ⟨negative, mantissa, scale, h⟩ := x
  cases hmantissa
  cases hscale
  rfl

/-- Of the largest number, the decimal is known. -/
lemma shortest_largest (negative : Bool) :
    shortest .even (largest negative) = ⟨17976931348623157, largestExponent⟩ := by
  cases negative <;> decide +kernel

/-- The exponent of the first digit is the top power at most. -/
lemma leading_le (hx : x.isZero = false) : x.leading ≤ topPower := by
  obtain ⟨hlow, -⟩ := leads_leading hx
  by_contra hlarge
  have hneg : (-x.leading).toNat = 0 := by omega
  have hpow : Nat.pow 10 (topPower + 1) ≤ Nat.pow 10 x.leading.toNat :=
    pow_ten_le_pow_ten (by omega)
  have hvalue : x.interval.value ≤ 4 * maxUnits := Nat.mul_le_mul_left 4 x.units_le_maxUnits
  have hbound : 4 * maxUnits < 4 * unitsInOne * Nat.pow 10 (topPower + 1) := by decide +kernel
  rw [hneg, pow_ten_zero, Nat.mul_one] at hlow
  have hle : 4 * unitsInOne * Nat.pow 10 (topPower + 1) ≤ 4 * maxUnits :=
    (Nat.mul_le_mul_left _ hpow).trans (hlow.trans hvalue)
  exact absurd hle (Nat.not_le_of_lt hbound)

/-- The shortest decimal is not beyond the largest decimal. -/
lemma shortest_le (hx : x.isZero = false) {k : Nat} (hk : (shortest .even x).exponent = k) :
    (shortest .even x).significand * Nat.pow 10 k ≤ largestDecimal := by
  by_cases hlargest : x.mantissa = 2 * leastFull - 1 ∧ x.scale = topScale
  · rw [eq_largest hlargest.1 hlargest.2, shortest_largest] at hk ⊢
    have hlast : largestExponent = k := Int.ofNat.inj hk
    rw [← hlast, ← largestDecimal_eq]
  have hhigh : x.interval.high ≤ highest := interval_high_le (by omega)
  obtain ⟨n, hn, hexponent, -, hfound⟩ := exists_grid x
  rw [hk] at hexponent
  rw [← hexponent] at hfound
  rcases hfound with hholds | ⟨rfl, hnearest⟩
  · exact mul_le_of_holds hhigh hholds
  · have hlast : k ≤ largestExponent := by
      have hle := leading_le hx
      unfold topPower at hle
      unfold largestExponent
      omega
    have hdown : (-(k : Int)).toNat = 0 := by omega
    rw [hdown, Int.toNat_natCast, pow_ten_zero, Nat.mul_one] at hnearest
    rw [hnearest]
    exact nearest_mul_le hhigh hlast

end RuleTemplate.Binary64
