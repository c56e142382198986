import RuleTemplate.Calendar.Timestamp
import RuleTemplate.Text.Basic

/-!
# Reading moments

A moment is read more freely than it is written. Day and time are separated by `T`, `t` or a space;
blanks may stand before each number and around the signs between the numbers; numbers may have fewer
digits; a year of more than four digits needs a sign; fraction digits beyond the ninth are dropped.
It ends with its distance from universal time: `Z`, `z`, `UTC` in any case, or a sign, two digits of
hours, colons or blanks if any, and two digits of minutes.
-/

namespace RuleTemplate.Timestamp

/-- Why a text is no moment. -/
inductive Fault where
  | invalid
  | tooShort
  | tooLong
  | outOfRange
  | impossible
deriving DecidableEq, Repr

/-- The wording of a fault. -/
def Fault.message : Fault → Text
  | .invalid => "input contains invalid characters"
  | .tooShort => "premature end of input"
  | .tooLong => "trailing input"
  | .outOfRange => "input is out of range"
  | .impossible => "no possible date and time matching input"

/-- Up to `most` digits as a number below `2 ^ 63`; the first of them must be there. -/
def digits (most : Nat) (t : Text) : Except Fault (Nat × Text) :=
  match t with
  | [] => throw .tooShort
  | c :: _ =>
    if (Text.digit? c).isNone then throw .invalid
    else
      let run := (t.take most).takeWhile fun c => (Text.digit? c).isSome
      let n := (Text.toNat? run).getD 0
      if n < 0x8000000000000000 then return (n, t.drop run.length) else throw .outOfRange

/-- A number of up to two digits within bounds, blanks before it passed over. -/
def number (low high : Nat) (t : Text) : Except Fault (Nat × Text) := do
  let (n, t) ← digits 2 (Text.trimStart t)
  if low ≤ n ∧ n ≤ high then return (n, t) else throw .outOfRange

/-- A year: up to four digits, or a sign and any number of them. -/
def yearNumber (t : Text) : Except Fault (Int × Text) := do
  let t := Text.trimStart t
  let (year, t) ← match t with
    | '-' :: t => do let (n, t) ← digits t.length t; pure (-(n : Int), t)
    | '+' :: t => do let (n, t) ← digits t.length t; pure ((n : Int), t)
    | _ => do let (n, t) ← digits 4 t; pure ((n : Int), t)
  if -0x80000000 ≤ year ∧ year < 0x80000000 then return (year, t) else throw .outOfRange

/-- A given sign between two numbers, blanks before it passed over. -/
def mark (c : Char) (t : Text) : Except Fault Text :=
  match Text.trimStart t with
  | [] => throw .tooShort
  | d :: t => if d = c then return t else throw .invalid

/-- The fraction of a second in nanoseconds, if there is one. -/
def fraction (t : Text) : Except Fault (Nat × Text) :=
  match t with
  | '.' :: t => do
    let (n, rest) ← digits 9 t
    let count := t.length - rest.length
    return (n * Nat.pow 10 (9 - count), rest.dropWhile fun c => (Text.digit? c).isSome)
  | _ => return (0, t)

/-- Two digits; the first of them up to `five` makes minutes, a greater one is out of range. -/
def twoDigits (tens : Nat) (t : Text) : Except Fault (Nat × Text) :=
  match t with
  | a :: b :: rest =>
    match Text.digit? a, Text.digit? b with
    | some m, some n => if m ≤ tens then return (10 * m + n, rest) else throw .outOfRange
    | _, _ => if Text.byteSize t < 2 then throw .tooShort else throw .invalid
  | _ => if Text.byteSize t < 2 then throw .tooShort else throw .invalid

/-- The distance from universal time in minutes. -/
def offset (t : Text) : Except Fault (Int × Text) :=
  if Text.sameLetters (t.take 3) "utc" then return (0, t.drop 3)
  else match t with
    | [] => throw .tooShort
    | c :: t => do
      if c = 'Z' ∨ c = 'z' then return (0, t)
      let negative ←
        if c = '+' then pure false
        else if c = '-' ∨ c = '\u2212' then pure true
        else throw .invalid
      let (hours, t) ← twoDigits 9 t
      let (minutes, t) ← twoDigits 5 (t.dropWhile fun c => c = ':' || Text.isBlank c)
      let distance : Int := 60 * hours + minutes
      return (if negative then -distance else distance, t)

/-- Reads a moment. -/
def read (t : Text) : Except Fault Timestamp := do
  let (year, t) ← yearNumber t
  let t ← mark '-' t
  let (month, t) ← number 1 12 t
  let t ← mark '-' t
  let (day, t) ← number 1 31 t
  let t ← match t with
    | [] => throw .tooShort
    | c :: t => if c = 'T' ∨ c = 't' ∨ c = ' ' then pure t else throw .invalid
  let (hour, t) ← number 0 23 t
  let t ← mark ':' t
  let (minute, t) ← number 0 59 t
  let t ← mark ':' t
  let (second, t) ← number 0 60 t
  let (nanosecond, t) ← fraction t
  let (distance, t) ← offset (Text.trimStart t)
  if Text.trimStart t ≠ [] then throw .tooLong
  match Date.ofNumbers? year month day with
  | none => throw .outOfRange
  | some date =>
    if h : hour < 24 ∧ minute < 60 ∧ second ≤ 60 ∧ nanosecond < 1000000000 then
      if distance.natAbs < 1440 then
        match ofLocal? ⟨date, hour, minute, second, nanosecond, h⟩ distance with
        | some moment => return moment
        | none => throw .impossible
      else throw .outOfRange
    else throw .outOfRange

end RuleTemplate.Timestamp
