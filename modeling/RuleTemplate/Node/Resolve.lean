import RuleTemplate.Node.Fields

/-!
# Walking paths

A path is a list of segments. From each node its segment leads to a child, by the rule of the kind
of the node: keys of maps and of JSON objects are compared exactly, items of JSON lists are counted
from zero, a user is asked for claims first and then for fields, records are asked for fields. Null
values in maps and JSON values are no children.
-/

namespace RuleTemplate

/-- The position that a segment denotes, below `2 ^ 64`: digits behind a plus sign or none. -/
def Text.index? (t : Text) : Option Nat :=
  let digits := match t with
    | '+' :: rest => rest
    | _ => t
  (Text.toNat? digits).filter (· < 0x10000000000000000)

/-- The part of a JSON value that is not null and to which a segment leads. -/
def Json.Sorted.child? (v : Json.Sorted) (segment : Text) : Option Json.Sorted :=
  let child := match v.json with
    | .object _ => v.member? segment
    | .list _ => (Text.index? segment).bind v.item?
    | _ => none
  child.filter fun v => !v.isNull

/-- What a user is by a segment: the claim of that type, where `name` stands for the name to be
shown, else the field of that name. -/
def User.child? (u : User) (segment : Text) : Option Node :=
  let kind := if Text.sameLetters segment "name" then Claim.displayName else segment
  match u.claim? kind with
  | some value => some (.text value)
  | none => (Record.user u).field? segment

namespace Node

/-- The node to which a segment leads. -/
def child? (n : Node) (segment : Text) : Option Node :=
  match n with
  | .null | .text _ => none
  | .json v => (v.child? segment).map .json
  | .data d => (d.field? segment).map .field
  | .field f => ((f.get? segment).filter fun v => !v.isNull).map .json
  | .user u => u.child? segment
  | .record r => r.field? segment

/-- The node at the end of a path, unless it is null, and the segments that cannot be followed. -/
def resolve (n : Node) : List Text → Option Node × List Text
  | [] => (if n.isNull then none else some n, [])
  | segment :: path =>
    match n.child? segment with
    | some next => next.resolve path
    | none => (none, segment :: path)

end Node

end RuleTemplate
