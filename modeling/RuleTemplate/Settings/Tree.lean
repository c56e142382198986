import RuleTemplate.KeyMap
import RuleTemplate.Number.Layout
import RuleTemplate.Settings.Basic

/-!
# Settings from several sources

The sources of settings are laid over one another in a tree, a JSON object whose members may be
objects and lists again. To assign an object to a member is to assign its members one by one, so
that a source changes only what it speaks of; anything else replaces what was there. The case of
names does not count: a tree holds them in small letters.

A key is a path into the tree (`keyPath`). A path makes what it leads through: an object where it
goes on to a member, a list with `null` in the places left open where it goes on to an item.

`Settings.ofTree?` reads the settings off a tree. It is less strict than decoding: numbers and truth
values do for texts, and the case of a choice does not count.
-/

namespace RuleTemplate.Settings

/-- The members of a tree; what is no object has none. -/
def branches : Json → Json.Members
  | .object members => members
  | _ => []

/-- A tree with one member replaced. -/
def withBranch (tree : Json) (name : Text) (v : Json) : Json :=
  .object (put (Text.lower name) v (branches tree))

/-- A member of a tree; `null` when it is not there. -/
def branch (tree : Json) (name : Text) : Json :=
  ((branches tree).lookup (Text.lower name)).getD .null

mutual

/-- Assigns a value to a member of a tree. -/
def assign (tree : Json) (name : Text) : Json → Json
  | .object members =>
    withBranch tree name (assignAll ((branches tree).lookup (Text.lower name) |>.getD (.object []))
      members)
  | v => withBranch tree name v

/-- Assigns members to a tree, one by one. -/
def assignAll (tree : Json) : List (Text × Json) → Json
  | [] => tree
  | (name, v) :: members => assignAll (assign tree name v) members

end

/-! ## Paths -/

/-- A step of a path. -/
inductive PathStep where
  /-- To a member of an object. -/
  | member (name : Text)
  /-- To an item of a list; a negative index counts from the end. -/
  | item (index : Int)
deriving DecidableEq, Repr

/-- The items of a tree; what is no list has none. -/
def items : Json → List Json
  | .list items => items
  | _ => []

/-- The position in a list of that length which an index denotes. -/
def position (index : Int) (length : Nat) : Nat :=
  if 0 ≤ index then index.toNat else (length + index).toNat

/-- A tree with one item replaced. -/
def withItem (tree : Json) (index : Int) (v : Json) : Json :=
  let old := items tree
  let n := position index old.length
  .list ((old ++ List.replicate (n + 1 - old.length) Json.null).set n v)

/-- An item of a tree; `null` when it is not there. -/
def item (tree : Json) (index : Int) : Json :=
  ((items tree)[position index (items tree).length]?).getD .null

/-- Assigns a value at the end of a path. -/
def assignAt (tree : Json) (v : Json) : (path : List PathStep) → Json
  | [] => tree
  | [.member name] => assign tree name v
  | [.item index] => withItem tree index v
  | .member name :: path => withBranch tree name (assignAt (branch tree name) v path)
  | .item index :: path => withItem tree index (assignAt (item tree index) v path)

/-- Whether a character may stand in a name of a path. -/
def isNameChar (c : Char) : Bool := c.isAlphanum || c = '_' || c = '-' || c = ' '

/-- Whether a character is a space or a tab. -/
def isGap (c : Char) : Bool := c = ' ' || c = '\t'

/-- A text without the spaces and tabs at both ends. -/
def trimGaps (t : Text) : Text :=
  ((t.dropWhile isGap).reverse.dropWhile isGap).reverse

/-- The index that a text denotes: a minus sign if any, and digits, within 64 bits. -/
def index? (t : Text) : Option Int :=
  let i? : Option Int := match t with
    | '-' :: digits => (Text.toNat? digits).map fun n => -n
    | digits => (Text.toNat? digits).map fun n => n
  i?.filter fun i => -0x8000000000000000 ≤ i && i < 0x8000000000000000

/-- The step to an item that an opening bracket and an index behind it write. -/
def subscript? : Text → Option PathStep
  | '[' :: t => (index? (trimGaps t)).map .item
  | _ => none

/-- The steps that indices in brackets write. -/
def subscripts? (t : Text) : Option (List PathStep) :=
  let pieces := Text.splitAt ']' t
  if pieces.getLast? = some [] then pieces.dropLast.mapM subscript? else none

/-- The steps that a name with indices behind it writes. -/
def pathSteps? (t : Text) : Option (List PathStep) :=
  let name := t.takeWhile isNameChar
  if name = [] then none else (subscripts? (t.drop name.length)).map (.member name :: ·)

/-- The path that a key stands for: names, with indices if any, between points. Any other key is a
name as a whole. -/
def keyPath (key : Text) : List PathStep :=
  match (Text.splitAt '.' key).mapM pathSteps? with
  | some steps => steps.flatten
  | none => [.member key]

/-- What a source assigns, by key. -/
abbrev Source := List (Text × Json)

/-- Lays a source over a tree. -/
def overlay (tree : Json) (s : Source) : Json :=
  s.foldl (fun tree e => assignAt tree e.2 (keyPath e.1)) tree

/-! ## Reading settings off a tree -/

/-- The text of a number; what does not fit a signed integer of 64 bits is a binary64. -/
def numberText : Json.Number → Text
  | .integer i _ =>
    if i < 0x8000000000000000 then Text.ofInt i
    else (Binary64.ofNat? i.toNat).elim [] Layout.plain.binary64
  | .real x => Layout.plain.binary64 x

/-- The text of a value, if it does for one. -/
def text? : Json → Option Text
  | .string t => some t
  | .number n => some (numberText n)
  | .bool true => some "true"
  | .bool false => some "false"
  | .null | .list _ | .object _ => none

/-- The format of a name, in any case. -/
def formatNamed? (t : Text) : Option LogFormat :=
  LogFormat.all.find? fun f => Text.sameLetters f.name t

/-- The format that a value names, itself or by its one member. -/
def format? : Json → Option LogFormat
  | .string t => formatNamed? t
  | .object [(t, _)] => formatNamed? t
  | _ => none

/-- A member of a record, which is written as an object, or as the list of its values; the default
when it is not there. -/
def part? {α : Type} (record : Json) (position : Nat) (name : Text) (read? : Json → Option α)
    (default : α) : Option α :=
  match record with
  | .object members => (members.lookup name).elim (some default) read?
  | .list items => items[position]?.elim (some default) read?
  | _ => none

/-- The settings of links in a tree. -/
def urls? (v : Json) : Option Urls := do
  return ⟨← part? v 0 "base_url" text? Urls.standard.baseUrl⟩

/-- The settings of the log in a tree. -/
def logging? (v : Json) : Option Logging := do
  return ⟨← part? v 0 "level" text? Logging.standard.level,
    ← part? v 1 "format" format? Logging.standard.format⟩

/-- The settings in a tree. -/
def ofTree? (v : Json) : Option Settings := do
  return ⟨← part? v 0 "urls" urls? .standard, ← part? v 1 "logging" logging? .standard⟩

end RuleTemplate.Settings
