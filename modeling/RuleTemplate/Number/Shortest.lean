import RuleTemplate.Number.Binary64

/-!
# The shortest decimal of a binary64 number

Among the decimals that round to a number, the shortest is the one with the fewest digits; of two
such with equally many, the one nearer to the number; of two equally near, the one that the rule for
ties (`Tie`) says.

`shortest` works on whole numbers only. The reals that round to a number form an interval, whose
ends belong to it when the mantissa is even. For 1, 2, … 17 digits the two neighbours of the number
on that decimal grid are tried.
-/

namespace RuleTemplate.Binary64

/-- Which of two neighbours a number half-way between them goes to. -/
inductive Tie where
  | even | up
deriving DecidableEq, Repr

/-- The whole number nearest to `num / den`. -/
def Tie.round (tie : Tie) (num den : Nat) : Nat :=
  match tie with
  | .even => nearest num den
  | .up => (2 * num + den) / (2 * den)

/-- The decimal `significand · 10 ^ exponent`. -/
structure Decimal where
  significand : Nat
  exponent : Int
deriving DecidableEq, Repr

/-- The reals that round to a number: from `low / den` to `high / den`, around `value / den`. -/
structure Interval where
  low : Nat
  value : Nat
  high : Nat
  den : Nat
  closed : Bool

/-- The interval of a positive number. Below a power of two the numbers lie twice as close. -/
def interval (x : Binary64) : Interval where
  low := (if x.mantissa = leastFull ∧ 0 < x.scale then 4 * x.mantissa - 1 else 4 * x.mantissa - 2)
    * Nat.pow 2 x.scale
  value := 4 * x.units
  high := (4 * x.mantissa + 2) * Nat.pow 2 x.scale
  den := 4 * unitsInOne
  closed := x.mantissa % 2 = 0

/-- Whether `c · 10 ^ exponent` lies in the interval. -/
def Interval.holds (i : Interval) (exponent : Int) (c : Nat) : Bool :=
  let up := Nat.pow 10 exponent.toNat
  let down := Nat.pow 10 (-exponent).toNat
  let point := c * up * i.den
  if i.closed then i.low * down ≤ point && point ≤ i.high * down
  else i.low * down < point && point < i.high * down

/-- The exponent of the first digit of `num / den`, for a positive quotient. -/
def leadingExponent (num den : Nat) : Int :=
  if den ≤ num then (digitCount (num / den) : Int) - 1
  else
    -- the least number of tenfold steps that brings the quotient up to one
    Int.negOfNat (((List.range 400).find? fun k => den ≤ num * Nat.pow 10 k).getD 400)

/-- The decimal on the grid `10 ^ exponent` that rounds back and is nearest, if there is one. -/
def Interval.onGrid? (i : Interval) (tie : Tie) (exponent : Int) : Option Decimal :=
  let up := Nat.pow 10 exponent.toNat
  let down := Nat.pow 10 (-exponent).toNat
  let num := i.value * down
  let den := i.den * up
  let floor := num / den
  let nearer := tie.round num den
  let other := if nearer = floor then floor + 1 else floor
  if i.holds exponent nearer then some ⟨nearer, exponent⟩
  else if i.holds exponent other then some ⟨other, exponent⟩
  else none

/-- The shortest decimal of the magnitude of a number that is not zero. -/
def shortest (tie : Tie) (x : Binary64) : Decimal :=
  let i := x.interval
  let first := leadingExponent i.value i.den
  ((List.range 17).findSome? fun (n : Nat) => i.onGrid? tie (first - n)).getD
    ⟨tie.round (i.value * Nat.pow 10 (16 - first).toNat) (i.den * Nat.pow 10 (first - 16).toNat),
      first - 16⟩

end RuleTemplate.Binary64
