import RuleTemplate.Template.Answer
import RuleTemplate.Text.Slice

/-!
# Scanning templates

A template is searched for markers from left to right. `Scan` is the state of the search: two
offsets into the template, the parts that were found, and the values to be waited for, one for each
part that is pending.

* `Scan.visit` takes one marker and what is behind it;
* `Scan.run` goes from marker to marker, until there is none or one of them has failed;
* `assemble` puts the values in the places of the pending parts.

A marker that stays is the first character of the literal part that follows. Offsets count bytes
from the start of the template.
-/

namespace RuleTemplate

/-- The character that may start a placeholder. -/
def marker : Char := '$'

/-- What stands for a placeholder without a value. -/
def fallback : Text := "null"

/-- A part of a template. -/
inductive Part where
  /-- A text that stays. -/
  | literal (text : Text)
  /-- The place of the next value. -/
  | pending
deriving DecidableEq, Repr

/-- How far a template is scanned, and what was found. -/
structure Scan where
  /-- Where the text begins that is in no part yet. -/
  literalStart : Nat := 0
  /-- Where the next marker is looked for. -/
  cursor : Nat := 0
  parts : List Part := []
  pending : List Pending := []
  /-- The markers that were looked at, with what is behind them. -/
  visited : List (Nat × Answer) := []
  /-- The error that ended the scan. -/
  failure : Option FormatError := none

namespace Scan

/-- Where the next marker is. -/
def next? (s : Scan) (t : Text) : Option Nat :=
  (Text.find? marker (t.dropBytes s.cursor)).map (s.cursor + ·)

/-- Takes the marker at `offset`, behind which the text means `a`. -/
def visit (s : Scan) (t : Text) (offset : Nat) (a : Answer) : Scan :=
  let parts := s.parts ++ [.literal (t.slice s.literalStart offset)]
  let visited := s.visited ++ [(offset, a)]
  match a.slot? with
  | some (value, consumed) =>
    { s with
      literalStart := offset + 1 + consumed
      cursor := offset + 1 + consumed
      parts := parts ++ [.pending]
      pending := s.pending ++ [value]
      visited }
  | none => { s with literalStart := offset, cursor := offset + 1, parts, visited }

/-- Takes the rest of the template as the last part. -/
def close (s : Scan) (t : Text) : Scan :=
  { s with parts := s.parts ++ [.literal (t.dropBytes s.literalStart)] }

theorem cursor_visit (s : Scan) (t : Text) (offset : Nat) (a : Answer) :
    (s.visit t offset a).cursor = offset + 1 + a.slot?.elim 0 (·.2) := by
  unfold visit
  split <;> next h => simp [h]

/-- A marker lies between the cursor and the end of the template. -/
theorem le_of_next? {s : Scan} {t : Text} {offset : Nat} (h : s.next? t = some offset) :
    s.cursor ≤ offset ∧ offset < t.byteSize := by
  obtain ⟨n, hn, rfl⟩ := Option.map_eq_some_iff.1 h
  have hlt := Text.lt_byteSize_of_find? hn
  have hle := Text.byteSize_dropBytes_le s.cursor t
  omega

/-- Less of the template is left behind each marker. -/
theorem lt_of_visit {s : Scan} {t : Text} {offset : Nat} (h : s.next? t = some offset)
    (a : Answer) : t.byteSize - (s.visit t offset a).cursor < t.byteSize - s.cursor := by
  have := le_of_next? h
  rw [cursor_visit]
  omega

/-- Scans the rest of a template. -/
def run (answer : Nat → Text → Answer) (t : Text) (s : Scan) : Scan :=
  match _h : s.next? t with
  | none => s.close t
  | some offset =>
    let a := answer offset (t.dropBytes (offset + 1))
    match a.failure? with
    | some error => { s.visit t offset a with failure := some error }
    | none => run answer t (s.visit t offset a)
termination_by t.byteSize - s.cursor
decreasing_by exact lt_of_visit _h _

end Scan

/-- The rendered text: the literal parts as they are, and the values in the places of the pending
ones, as long as there are values. -/
def assemble : List Part → List (Option Text) → Text
  | [], _ => []
  | .literal text :: parts, values => text ++ assemble parts values
  | .pending :: parts, [] => fallback ++ assemble parts []
  | .pending :: parts, value :: values => value.getD fallback ++ assemble parts values

/-- The text of a scanned template, when its values are waited for. -/
def Scan.result (s : Scan) : Except FormatError Text :=
  match s.failure with
  | some error => .error error
  | none => (Pending.join s.pending).map (assemble s.parts)

end RuleTemplate
