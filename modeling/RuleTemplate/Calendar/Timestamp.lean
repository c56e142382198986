import RuleTemplate.Calendar.Date

/-!
# Moments

A moment of universal time, to the nanosecond. The second 60 is a leap second and may follow any
minute.

* `text`: the full form, with three, six or nine digits of the fraction or none.
* `textToSecond`: without the fraction.
* `dateText`, `clockText`: the day, and the day with the time on a clock of twelve hours.
-/

namespace RuleTemplate

/-- A moment of universal time. -/
structure Timestamp where
  date : Date
  hour : Nat
  minute : Nat
  second : Nat
  nanosecond : Nat
  valid : hour < 24 ∧ minute < 60 ∧ second ≤ 60 ∧ nanosecond < 1000000000
deriving DecidableEq, Repr

namespace Timestamp

/-- The decimal fraction of a second in the fewest of 0, 3, 6 and 9 digits that lose nothing. -/
def fractionText (nanosecond : Nat) : Text :=
  if nanosecond = 0 then []
  else if nanosecond % 1000000 = 0 then '.' :: Text.padded 3 (nanosecond / 1000000)
  else if nanosecond % 1000 = 0 then '.' :: Text.padded 6 (nanosecond / 1000)
  else '.' :: Text.padded 9 nanosecond

/-- Hour, minute and second between colons, behind the day and `T`. -/
def stem (t : Timestamp) : Text :=
  t.date.text ++ 'T' :: (Text.padded 2 t.hour ++ ':' :: (Text.padded 2 t.minute
    ++ ':' :: Text.padded 2 t.second))

/-- The full form. -/
def text (t : Timestamp) : Text := t.stem ++ fractionText t.nanosecond ++ ['Z']

/-- The form without the fraction of the second. -/
def textToSecond (t : Timestamp) : Text := t.stem ++ ['Z']

/-- The day alone. -/
def dateText (t : Timestamp) : Text := t.date.text

/-- The hour on a clock of twelve hours. -/
def clockHour (t : Timestamp) : Nat := if t.hour % 12 = 0 then 12 else t.hour % 12

/-- The day and the time on a clock of twelve hours, all between hyphens. -/
def clockText (t : Timestamp) : Text :=
  t.dateText ++ '-' :: (Text.padded 2 t.clockHour ++ '-' :: (Text.padded 2 t.minute
    ++ '-' :: Text.padded 2 t.second))

/-- The universal time of a local time that is `offset` minutes ahead of it, unless it falls on a
day out of range. An offset is less than a day. -/
def ofLocal? (t : Timestamp) (offset : Int) : Option Timestamp :=
  let minutes : Int := t.hour * 60 + t.minute - offset
  let date :=
    if minutes < 0 then t.date.previous? else if 1440 ≤ minutes then t.date.next? else some t.date
  date.map fun date =>
    { t with
      date
      hour := (minutes % 1440).toNat / 60
      minute := (minutes % 1440).toNat % 60
      valid := by have := t.valid; omega }

end Timestamp

end RuleTemplate
