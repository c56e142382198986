import RuleTemplate.Json.Basic

/-!
# Numbers as they are written in JSON

A `Numeral` holds the digits of a number by part, and a `Numeral.Stage` says where in it a reader
stands. `extend?` takes the next character; `number?` gives the number that is denoted.

Significant digits count up to `2 ^ 64`. The digits of the whole part that no longer fit move the
decimal point, those of the fraction are passed over.
-/

namespace RuleTemplate.Json

/-- The digits of a number; there is a fraction or an exponent exactly when it has digits. -/
structure Numeral where
  negative : Bool := false
  whole : List Nat := []
  fraction : List Nat := []
  exponentNegative : Bool := false
  exponent : List Nat := []
deriving DecidableEq

namespace Numeral

/-- What of a number was read last. -/
inductive Stage where
  /-- The sign. -/
  | minus
  /-- A leading zero, which no digit may follow. -/
  | zero
  /-- A digit of the whole part. -/
  | whole
  /-- The decimal point. -/
  | point
  /-- A digit of the fraction. -/
  | fraction
  /-- The letter before the exponent. -/
  | mark
  /-- The sign of the exponent. -/
  | markSign
  /-- A digit of the exponent. -/
  | power
deriving DecidableEq

/-- Whether a number may end here. -/
def Stage.complete : Stage → Bool
  | .zero | .whole | .fraction | .power => true
  | .minus | .point | .mark | .markSign => false

/-- Starts a number with its first character. -/
def start? (c : Char) : Option (Numeral × Stage) :=
  if c = '-' then some ({ negative := true }, .minus)
  else if c = '0' then some ({ whole := [0] }, .zero)
  else (Text.digit? c).map fun d => ({ whole := [d] }, .whole)

/-- Continues a number by a point or an exponent, as may follow its whole part. -/
def afterWhole? (n : Numeral) (c : Char) : Option (Numeral × Stage) :=
  if c = '.' then some (n, .point) else if c = 'e' ∨ c = 'E' then some (n, .mark) else none

/-- Continues a number by a digit of its exponent. -/
def power? (n : Numeral) (c : Char) : Option (Numeral × Stage) :=
  (Text.digit? c).map fun d => ({ n with exponent := n.exponent ++ [d] }, .power)

/-- Continues a number by a digit of its fraction. -/
def fraction? (n : Numeral) (c : Char) : Option (Numeral × Stage) :=
  (Text.digit? c).map fun d => ({ n with fraction := n.fraction ++ [d] }, .fraction)

/-- Continues a number by its next character, if that may follow. -/
def extend? (n : Numeral) (stage : Stage) (c : Char) : Option (Numeral × Stage) :=
  match stage with
  | .minus =>
    if c = '0' then some ({ n with whole := [0] }, .zero)
    else (Text.digit? c).map fun d => ({ n with whole := [d] }, .whole)
  | .zero => afterWhole? n c
  | .whole =>
    match Text.digit? c with
    | some d => some ({ n with whole := n.whole ++ [d] }, .whole)
    | none => afterWhole? n c
  | .point => fraction? n c
  | .fraction =>
    match fraction? n c with
    | some next => some next
    | none => if c = 'e' ∨ c = 'E' then some (n, .mark) else none
  | .mark =>
    if c = '+' then some (n, .markSign)
    else if c = '-' then some ({ n with exponentNegative := true }, .markSign)
    else power? n c
  | .markSign | .power => power? n c

/-- Whether a number that `c` does not continue may end before `c`. -/
def Stage.endsBefore (stage : Stage) (c : Char) : Bool :=
  stage.complete && !(stage == .zero && (Text.digit? c).isSome)

/-- Appends digits to `n` as long as the result stays below `2 ^ 64`; the digits that are left. -/
def absorb (n : Nat) : List Nat → Nat × List Nat
  | [] => (n, [])
  | d :: digits =>
    if 10 * n + d < 0x10000000000000000 then absorb (10 * n + d) digits else (n, d :: digits)

/-- The number that digits denote. -/
def valueOf (digits : List Nat) : Nat := digits.foldl (fun n d => 10 * n + d) 0

/-- The number of a whole numeral: an integer if it fits, else a binary64. Minus zero is one. -/
def integer? (negative : Bool) (n : Nat) : Option Number :=
  if negative then
    if h : 0 < n ∧ n ≤ 0x8000000000000000 then some (.integer (-n) (by omega))
    else (Binary64.ofDecimal? true n 0).map .real
  else Number.ofNat? n <|> (Binary64.ofDecimal? false n 0).map .real

/-- The number denoted, or none when it is out of the range of binary64. -/
def number? (n : Numeral) : Option Number :=
  let (whole, excess) := absorb 0 n.whole
  if excess = [] ∧ n.fraction = [] ∧ n.exponent = [] then integer? n.negative whole
  else
    let (significand, left) := absorb whole n.fraction
    let shift : Int := excess.length - (n.fraction.length - left.length)
    let power : Int := valueOf n.exponent
    let exponent := if n.exponentNegative then shift - power else shift + power
    (Binary64.ofDecimal? n.negative significand exponent).map .real

end Numeral

end RuleTemplate.Json
