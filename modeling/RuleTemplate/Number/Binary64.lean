/-!
# Binary64 numbers

A finite binary64 number is `± mantissa · 2 ^ scale` units of `2 ^ -1074`. Each number has one such
form: the mantissa has at most 53 bits, and it has all of them unless the scale is zero.

* `ofRatio?`: the number nearest to a quotient, a tie going to the even mantissa; none when the
  quotient rounds beyond the largest number.
* `ofDecimal?`: the number that a decimal significand and exponent are read as. It rounds the
  significand, then scales it by powers of ten, rounding again at each step.
* `ofDecimalNearest?`: the number nearest to a decimal significand and exponent, rounded once.
-/

namespace RuleTemplate

/-- The least mantissa of 53 bits. -/
def Binary64.leastFull : Nat := 0x10000000000000

/-- A finite binary64 number. -/
structure Binary64 where
  negative : Bool
  mantissa : Nat
  scale : Nat
  canonical : mantissa < 2 * Binary64.leastFull ∧ scale ≤ 2045
    ∧ (scale = 0 ∨ Binary64.leastFull ≤ mantissa)
deriving DecidableEq, Repr

namespace Binary64

/-- Zero, with a sign. -/
def zero (negative : Bool) : Binary64 := ⟨negative, 0, 0, by decide⟩

instance : Inhabited Binary64 := ⟨zero false⟩

/-- How many units of `2 ^ -1074` make one. -/
def unitsInOne : Nat := Nat.pow 2 1074

/-- The magnitude in units of `2 ^ -1074`. -/
def units (x : Binary64) : Nat := x.mantissa * Nat.pow 2 x.scale

/-- Whether the number is zero, of either sign. -/
def isZero (x : Binary64) : Bool := x.mantissa == 0

/-- The same magnitude with the given sign. -/
def withSign (negative : Bool) (x : Binary64) : Binary64 := { x with negative }

/-- The whole number nearest to `num / den`, a tie going to the even one. -/
def nearest (num den : Nat) : Nat :=
  let q := num / den
  let r := 2 * (num % den)
  if den < r ∨ (r = den ∧ q % 2 = 1) then q + 1 else q

/-- The number nearest to `num / den`, or none when that is beyond the largest one. -/
def ofRatio? (negative : Bool) (num den : Nat) : Option Binary64 :=
  let units := num * unitsInOne
  let scale := (units / den).log2 - 52
  let mantissa := nearest units (den * Nat.pow 2 scale)
  -- rounding up may fill the 54th bit, which leaves a power of two
  if mantissa < 2 * leastFull then
    if h : mantissa < 2 * leastFull ∧ scale ≤ 2045 ∧ (scale = 0 ∨ leastFull ≤ mantissa) then
      some ⟨negative, mantissa, scale, h⟩
    else none
  else
    if h : scale + 1 ≤ 2045 then
      some ⟨negative, leastFull, scale + 1, by decide, h, .inr (Nat.le_refl _)⟩
    else none

/-- The number nearest to a whole number. -/
def ofNat? (n : Nat) : Option Binary64 := ofRatio? false n 1

/-- The product of two magnitudes, rounded. -/
def mul? (x y : Binary64) : Option Binary64 :=
  ofRatio? false (x.units * y.units) (unitsInOne * unitsInOne)

/-- The quotient of two magnitudes, rounded. -/
def div? (x y : Binary64) : Option Binary64 := ofRatio? false x.units y.units

/-- The largest power of ten that scaling uses in one step. -/
def topPower : Nat := 308

/-- The number nearest to `10 ^ n`. -/
def power? (n : Nat) : Option Binary64 := ofRatio? false (Nat.pow 10 n) 1

/-- `x · 10 ^ exponent` by rounded multiplications and divisions, at most `steps` of them. A number
that has become zero stays zero; beyond the top power only divisions are repeated. -/
def scaled? (x : Binary64) (exponent : Int) : (steps : Nat) → Option Binary64
  | 0 => some (zero false)
  | steps + 1 =>
    if exponent.natAbs ≤ topPower then do
      let power ← power? exponent.natAbs
      if 0 ≤ exponent then mul? x power else div? x power
    else if x.isZero then some x
    else if 0 ≤ exponent then none
    else do scaled? (← div? x (← power? topPower)) (exponent + topPower) steps

/-- The number that `± significand · 10 ^ exponent` is read as; none when it is out of range. A
significand of twenty digits is nothing after the third division by the top power. -/
def ofDecimal? (negative : Bool) (significand : Nat) (exponent : Int) : Option Binary64 := do
  return ((← scaled? (← ofNat? significand) exponent 4).withSign negative)

/-- Decimal digits of a natural number, counted. -/
def digitCount (n : Nat) : Nat := (Nat.toDigits 10 n).length

/-- The number nearest to `± significand · 10 ^ exponent`; none when that is beyond the largest. -/
def ofDecimalNearest? (negative : Bool) (significand : Nat) (exponent : Int) : Option Binary64 :=
  let magnitude := exponent + digitCount significand
  -- far outside the range the powers of ten need not be formed
  if significand = 0 ∨ magnitude < -330 then some (zero negative)
  else if 310 < magnitude then none
  else if 0 ≤ exponent then ofRatio? negative (significand * Nat.pow 10 exponent.toNat) 1
  else ofRatio? negative significand (Nat.pow 10 (-exponent).toNat)

/-- Whether `x ≤ y` as numbers; the two zeros are equal. -/
def le (x y : Binary64) : Bool :=
  match x.negative, y.negative with
  | false, false => x.units ≤ y.units
  | true, true => y.units ≤ x.units
  | true, false => true
  | false, true => x.isZero && y.isZero

end Binary64

end RuleTemplate
