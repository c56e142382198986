import RuleTemplate.Text.Basic

/-!
# Identifiers

A UUID is thirty-two hexadecimal digits. It is written in small letters, with hyphens between groups
of 8, 4, 4, 4 and 12 digits. It is read in either case, with the hyphens or without them; the
hyphenated form may stand in braces or behind `urn:uuid:`.
-/

namespace RuleTemplate

/-- A universally unique identifier. -/
structure Uuid where
  digits : List (Fin 16)
  length_digits : digits.length = 32
deriving DecidableEq, Repr

namespace Uuid

/-- The identifier of zeros. -/
def zero : Uuid := ⟨List.replicate 32 0, by simp⟩

instance : Inhabited Uuid := ⟨zero⟩

/-- A digit in lower case. -/
def digitChar (d : Fin 16) : Char := Nat.digitChar d

/-- The lengths of the groups of the hyphenated form. -/
def groupLengths : List Nat := [8, 4, 4, 4, 12]

/-- The text of the identifier. -/
def text (u : Uuid) : Text :=
  let digits := u.digits.map digitChar
  digits.take 8 ++ '-' :: ((digits.drop 8).take 4 ++ '-' :: ((digits.drop 12).take 4
    ++ '-' :: ((digits.drop 16).take 4 ++ '-' :: digits.drop 20)))

/-- Why a text is no identifier. -/
inductive Fault where
  | length (found : Nat)
  | character (found : Char) (offset : Nat)
  | groupCount (found : Nat)
  | groupLength (group expected found : Nat)
deriving DecidableEq, Repr

/-- The wording of a fault. -/
def Fault.message : Fault → Text
  | .length n => "invalid length: found " ++ Text.ofNat n
  | .character c n => "invalid character: found \x60" ++ c :: "\x60 at " ++ Text.ofNat n
  | .groupCount n => "invalid group count: expected 5, found " ++ Text.ofNat n
  | .groupLength i m n =>
    "invalid group length in group " ++ Text.ofNat i ++ ": expected " ++ Text.ofNat m
      ++ ", found " ++ Text.ofNat n

/-- A hexadecimal digit. -/
def digit? (c : Char) : Option (Fin 16) := (Text.hexDigit? c).map (Fin.ofNat 16)

/-- Thirty-two digits without hyphens. -/
def ofDigits? (t : Text) : Option Uuid :=
  match t.mapM digit? with
  | some digits => if h : digits.length = 32 then some ⟨digits, h⟩ else none
  | none => none

/-- The hyphenated form. -/
def ofGroups? (t : Text) : Option Uuid :=
  let groups := Text.splitAt '-' t
  if groups.map List.length = groupLengths then ofDigits? groups.flatten else none

/-- What stands in front of an identifier that is written as a name. -/
def scheme : Text := "urn:uuid:"

/-- The text behind the scheme, which ignores case. -/
def behindScheme? (t : Text) : Option Text :=
  if Text.sameLetters (t.take scheme.length) scheme then some (t.drop scheme.length) else none

/-- The text between braces. -/
def inBraces? : Text → Option Text
  | '\x7b' :: t => if t.getLast? = some '\x7d' then some t.dropLast else none
  | _ => none

/-- The text that should be the hyphenated form, in a text that is as long as one of the forms with
hyphens; braces and the scheme are taken off. -/
def hyphenated? (t : Text) : Option Text :=
  if Text.byteSize t = 36 then some t
  else if Text.byteSize t = 38 then inBraces? t
  else if Text.byteSize t = 45 then behindScheme? t
  else none

/-- Reads an identifier, if the text is one. -/
def read? (t : Text) : Option Uuid :=
  match hyphenated? t with
  | some inner => ofGroups? inner
  | none => ofDigits? t

/-! ## What is wrong with a text -/

/-- The first character that is neither a digit nor a hyphen, with its offset in bytes. -/
def stray? (offset : Nat) : Text → Option (Char × Nat)
  | [] => none
  | c :: t =>
    if c = '-' ∨ (digit? c).isSome then stray? (offset + c.utf8Size) t else some (c, offset)

/-- The first group of a wrong length among those before the last. -/
def wrongGroup? (index : Nat) : List Nat → List Text → Option Fault
  | expected :: lengths@(_ :: _), group :: groups =>
    if group.length = expected then wrongGroup? (index + 1) lengths groups
    else some (.groupLength index expected group.length)
  | _, _ => none

/-- The fault of a text that is not the hyphenated form: a stray character first, then the number of
groups, then their lengths. The last group is taken to be all that follows the others in `size`
bytes. -/
def groupFault (offset size : Nat) (t : Text) : Fault :=
  match stray? offset t with
  | some (c, n) => .character c n
  | none =>
    let groups := Text.splitAt '-' t
    if groups.length ≠ 5 then .groupCount groups.length
    else (wrongGroup? 0 groupLengths groups).getD (.groupLength 4 12 (size - 24))

/-- The length of the longest form. -/
def longest : Nat := 45

/-- The fault of a text that is as long as no form with hyphens. -/
def shapeFault (t : Text) : Fault :=
  let size := Text.byteSize t
  if longest < size then .length size
  else match inBraces? t, behindScheme? t with
    | some inner, _ => groupFault 1 size inner
    | none, some inner => groupFault scheme.length size inner
    | none, none =>
      if '-' ∈ t ∨ (stray? 0 t).isSome then groupFault 0 size t else .length size

/-- The fault of a text that is no identifier. -/
def fault (t : Text) : Fault :=
  match hyphenated? t with
  | some inner => groupFault 0 (Text.byteSize inner) inner
  | none => shapeFault t

/-- Reads an identifier. -/
def read (t : Text) : Except Fault Uuid :=
  match read? t with
  | some u => .ok u
  | none => .error (fault t)

end Uuid

end RuleTemplate
