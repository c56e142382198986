import RuleTemplate.Number.Shortest
import RuleTemplate.Text.Basic

/-!
# Layout of decimal numbers

How a number is written as text is one record, `Layout`: which magnitudes are written positionally,
what marks a whole number, how a positive exponent is signed, and which of two equally short and
equally near decimals is taken.
-/

namespace RuleTemplate

open Binary64 (Decimal Tie)

/-- A way to write numbers. -/
structure Layout where
  /-- Exponents of the first digit that are written positionally; none means all of them. -/
  positional : Option (Int × Int)
  /-- What follows a number without a fraction in positional notation. -/
  wholeMark : Text
  /-- The sign of a positive exponent. -/
  plus : Text
  /-- Which of two equally near decimals is taken. -/
  tie : Tie

/-- Numbers in data: positional from `0.00001` up to below `10 ^ 16`, always with a fraction; the
last digit is even in a tie. -/
def Layout.data : Layout := ⟨some (-5, 15), ".0", "+", .even⟩

/-- Numbers in running text: always positional, a whole number without a fraction; the greater
magnitude is taken in a tie. -/
def Layout.plain : Layout := ⟨none, "", "", .up⟩

namespace Decimal

/-- The significant digits, without the zeros at the end. -/
def digits (d : Decimal) : Text :=
  ((Text.ofNat d.significand).reverse.dropWhile (· = '0')).reverse

/-- The exponent of the first digit. -/
def leading (d : Decimal) : Int := (Text.ofNat d.significand).length - 1 + d.exponent

/-- A positive decimal with all its zeros written out. -/
def positional (wholeMark : Text) (d : Decimal) : Text :=
  let digits := digits d
  if leading d < 0 then
    "0." ++ List.replicate ((-leading d).toNat - 1) '0' ++ digits
  else
    let whole := (leading d).toNat + 1
    if digits.length ≤ whole then
      digits ++ List.replicate (whole - digits.length) '0' ++ wholeMark
    else digits.take whole ++ '.' :: digits.drop whole

/-- A positive decimal as one digit, a fraction if there are more, and an exponent. -/
def scientific (plus : Text) (d : Decimal) : Text :=
  let exponent := if 0 ≤ leading d then plus ++ Text.ofInt (leading d) else Text.ofInt (leading d)
  match digits d with
  | [] => 'e' :: exponent
  | [c] => c :: 'e' :: exponent
  | c :: fraction => c :: '.' :: fraction ++ 'e' :: exponent

end Decimal

namespace Layout

/-- A positive decimal in this layout. -/
def decimal (l : Layout) (d : Decimal) : Text :=
  match l.positional with
  | none => Decimal.positional l.wholeMark d
  | some (low, high) =>
    if low ≤ Decimal.leading d ∧ Decimal.leading d ≤ high then Decimal.positional l.wholeMark d
    else Decimal.scientific l.plus d

/-- A binary64 number in this layout, by its shortest decimal. -/
def binary64 (l : Layout) (x : Binary64) : Text :=
  let magnitude := if x.isZero then '0' :: l.wholeMark else l.decimal (x.shortest l.tie)
  if x.negative then '-' :: magnitude else magnitude

end Layout

end RuleTemplate
