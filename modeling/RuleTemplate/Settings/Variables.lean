import RuleTemplate.Settings.Tree

/-!
# Variables

Settings may come from the variables of the environment. A variable whose name begins with
`FORMATTER_`, in any case, assigns its value to the key that follows, where two underscores stand
for a point. The value is read as a truth value, an integer or another number if it can be.
-/

namespace RuleTemplate

/-- Variables by name, no name twice. -/
abbrev Variables := List (Text × Text)

namespace Settings

/-! ## Values -/

/-- A sign and what follows it. -/
def signed (t : Text) : Bool × Text :=
  match t with
  | '-' :: rest => (true, rest)
  | '+' :: rest => (false, rest)
  | _ => (false, t)

/-- An integer of 64 bits. -/
def integer? (t : Text) : Option Json.Number :=
  let (negative, digits) := signed t
  (Text.toNat? digits).bind fun n =>
    let i : Int := if negative then -n else n
    if h : -0x8000000000000000 ≤ i ∧ i < 0x8000000000000000 then some (.integer i (by omega))
    else none

/-- Digits, of which there may be none, as a number. -/
def digits? (t : Text) : Option Nat := if t = [] then some 0 else Text.toNat? t

/-- An exponent behind its letter, where there is none when there is no letter. -/
def exponent? : Text → Option Int
  | [] => some 0
  | _ :: t =>
    let (negative, digits) := signed t
    (Text.toNat? digits).map fun n => if negative then -n else n

/-- A decimal number without sign: significand and exponent. -/
def decimal? (t : Text) : Option (Nat × Int) := do
  let isMark (c : Char) : Bool := c = 'e' || c = 'E'
  let power ← exponent? (t.dropWhile fun c => !isMark c)
  let mantissa := t.takeWhile fun c => !isMark c
  let whole := mantissa.takeWhile (· ≠ '.')
  let fraction := (mantissa.drop whole.length).drop 1
  if whole = [] ∧ fraction = [] then failure
  let significand := (← digits? whole) * Nat.pow 10 fraction.length + (← digits? fraction)
  return (significand, power - fraction.length)

/-- The text of infinity with a sign. -/
def infinity (negative : Bool) : Text := if negative then "-inf" else "inf"

/-- A number that is not an integer of 64 bits; what no binary64 is near to is kept by its text. -/
def real? (t : Text) : Option Json :=
  let (negative, magnitude) := signed t
  if Text.sameLetters magnitude "inf" ∨ Text.sameLetters magnitude "infinity" then
    some (.string (infinity negative))
  else if Text.sameLetters magnitude "nan" then some (.string "NaN")
  else (decimal? magnitude).map fun (significand, exponent) =>
    match Binary64.ofDecimalNearest? negative significand exponent with
    | some x => .number (.real x)
    | none => .string (infinity negative)

/-- The value that a variable assigns. -/
def valueOf (t : Text) : Json :=
  if Text.sameLetters t "true" then .bool true
  else if Text.sameLetters t "false" then .bool false
  else ((integer? t).map Json.number <|> real? t).getD (.string t)

/-! ## Names -/

/-- What the names of variables for settings begin with. -/
def variableScope : Text := "formatter_"

/-- A text with a point for every two underscores, counted from the left. -/
def pointed : Text → Text
  | '_' :: '_' :: t => '.' :: pointed t
  | c :: t => c :: pointed t
  | [] => []

/-- The key to which a variable assigns. -/
def variableKey? (name : Text) : Option Text :=
  (Text.stripLead? variableScope (Text.lower name)).map pointed

/-- What variables assign. -/
def ofVariables (vars : Variables) : Source :=
  vars.filterMap fun v => (variableKey? v.1).map fun key => (key, valueOf v.2)

end Settings

end RuleTemplate
