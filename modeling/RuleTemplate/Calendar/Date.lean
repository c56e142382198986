import RuleTemplate.Text.Basic

/-!
# Dates

A day of the Gregorian calendar, extended to all years. The years that can be named run from -262143
to 262142.
-/

namespace RuleTemplate

/-- Whether a year has 366 days. -/
def isLeapYear (year : Int) : Bool := year % 4 = 0 && (year % 100 ≠ 0 || year % 400 = 0)

/-- The number of days of a month. -/
def daysInMonth (year : Int) (month : Nat) : Nat :=
  if month = 2 then (if isLeapYear year then 29 else 28)
  else if month = 4 ∨ month = 6 ∨ month = 9 ∨ month = 11 then 30
  else 31

/-- Whether year, month and day name a day in range. -/
def isDate (year : Int) (month day : Nat) : Bool :=
  decide (-262143 ≤ year) && decide (year ≤ 262142) && decide (1 ≤ month) && decide (month ≤ 12)
    && decide (1 ≤ day) && decide (day ≤ daysInMonth year month)

/-- A day. -/
structure Date where
  year : Int
  month : Nat
  day : Nat
  valid : isDate year month day = true
deriving DecidableEq, Repr

namespace Date

/-- The day with this year, month and day, if there is one. -/
def ofNumbers? (year : Int) (month day : Nat) : Option Date :=
  if h : isDate year month day = true then some ⟨year, month, day, h⟩ else none

/-- The day after, unless it is the last one. -/
def next? (d : Date) : Option Date :=
  ofNumbers? d.year d.month (d.day + 1) <|> ofNumbers? d.year (d.month + 1) 1
    <|> ofNumbers? (d.year + 1) 1 1

/-- The day before, unless it is the first one. -/
def previous? (d : Date) : Option Date :=
  ofNumbers? d.year d.month (d.day - 1)
    <|> ofNumbers? d.year (d.month - 1) (daysInMonth d.year (d.month - 1))
    <|> ofNumbers? (d.year - 1) 12 31

/-- A year with at least four digits; one outside 0 to 9999 carries its sign. -/
def yearText (year : Int) : Text :=
  let digits := Text.padded 4 year.natAbs
  if year < 0 then '-' :: digits else if 9999 < year then '+' :: digits else digits

/-- Year, month and day between hyphens. -/
def text (d : Date) : Text :=
  yearText d.year ++ '-' :: (Text.padded 2 d.month ++ '-' :: Text.padded 2 d.day)

end Date

end RuleTemplate
