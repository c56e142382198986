import RuleTemplate.Json.Sorted

/-!
# Pointers into JSON values

A pointer names a place inside a value by the names of members and the positions of items on the way
to it, each behind a slash. In a name `~1` stands for a slash and `~0` for a tilde.
-/

namespace RuleTemplate.Json

/-- A name as a pointer writes it, turned back into the name. -/
def pointerName : Text → Text
  | '~' :: '1' :: t => '/' :: pointerName t
  | '~' :: '0' :: t => '~' :: pointerName t
  | c :: t => c :: pointerName t
  | [] => []

/-- The position that a pointer writes: decimal digits without a leading zero, below `2 ^ 64`. -/
def pointerIndex? (t : Text) : Option Nat :=
  match t with
  | '0' :: _ :: _ => none
  | _ => (Text.toNat? t).filter (· < 0x10000000000000000)

/-- The value reached by names and positions. -/
def Sorted.descend? (v : Sorted) : List Text → Option Sorted
  | [] => some v
  | step :: steps =>
    let next :=
      match v.json with
      | .object _ => v.member? step
      | .list _ => (pointerIndex? step).bind v.item?
      | _ => none
    match next with
    | some w => w.descend? steps
    | none => none

/-- The value that a pointer names; the empty pointer names the whole. -/
def Sorted.at? (v : Sorted) (pointer : Text) : Option Sorted :=
  match pointer with
  | [] => some v
  | '/' :: t => v.descend? ((Text.splitAt '/' t).map pointerName)
  | _ => none

end RuleTemplate.Json
