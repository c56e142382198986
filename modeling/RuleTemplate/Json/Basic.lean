import RuleTemplate.Number.Layout

/-!
# JSON values

A `Json` keeps what a text says: the members of an object stay in their order, and a name may come
more than once. `Json.Sorted` holds the values in which each object lists its members by name and
names each once.

Integers from `-2 ^ 63` up to below `2 ^ 64` are kept as integers; every other number is a binary64.
-/

namespace RuleTemplate

/-- A number of a JSON text. -/
inductive Json.Number where
  /-- A whole number written without fraction and exponent, within 64 bits. -/
  | integer (value : Int) (bounded : -0x8000000000000000 ≤ value ∧ value < 0x10000000000000000)
  /-- Any other number. -/
  | real (value : Binary64)
deriving DecidableEq

/-- A JSON value as it is written. -/
inductive Json where
  | null
  | bool (value : Bool)
  | number (value : Json.Number)
  | string (value : Text)
  | list (items : List Json)
  | object (members : List (Text × Json))

namespace Json

instance : Inhabited Json := ⟨.null⟩

/-- The members of an object, in the order in which they are written. -/
abbrev Members := List (Text × Json)

mutual

/-- Whether two values are the same, down to the order of members. -/
def decEq : (a b : Json) → Decidable (a = b)
  | .null, .null => isTrue rfl
  | .bool a, .bool b =>
    if h : a = b then isTrue (by rw [h]) else isFalse fun e => h (Json.bool.inj e)
  | .number a, .number b =>
    if h : a = b then isTrue (by rw [h]) else isFalse fun e => h (Json.number.inj e)
  | .string a, .string b =>
    if h : a = b then isTrue (by rw [h]) else isFalse fun e => h (Json.string.inj e)
  | .list a, .list b =>
    match decEqItems a b with
    | isTrue h => isTrue (by rw [h])
    | isFalse h => isFalse fun e => h (Json.list.inj e)
  | .object a, .object b =>
    match decEqMembers a b with
    | isTrue h => isTrue (by rw [h])
    | isFalse h => isFalse fun e => h (Json.object.inj e)
  | .null, .bool _ | .null, .number _ | .null, .string _ | .null, .list _ | .null, .object _
  | .bool _, .null | .bool _, .number _ | .bool _, .string _ | .bool _, .list _
  | .bool _, .object _ | .number _, .null | .number _, .bool _ | .number _, .string _
  | .number _, .list _ | .number _, .object _ | .string _, .null | .string _, .bool _
  | .string _, .number _ | .string _, .list _ | .string _, .object _ | .list _, .null
  | .list _, .bool _ | .list _, .number _ | .list _, .string _ | .list _, .object _
  | .object _, .null | .object _, .bool _ | .object _, .number _ | .object _, .string _
  | .object _, .list _ => isFalse nofun

/-- `decEq` on the items of a list. -/
def decEqItems : (a b : List Json) → Decidable (a = b)
  | [], [] => isTrue rfl
  | x :: xs, y :: ys =>
    match decEq x y, decEqItems xs ys with
    | isTrue h, isTrue t => isTrue (by rw [h, t])
    | isFalse h, _ => isFalse fun e => h (List.cons.inj e).1
    | _, isFalse t => isFalse fun e => t (List.cons.inj e).2
  | [], _ :: _ | _ :: _, [] => isFalse nofun

/-- `decEq` on the members of an object. -/
def decEqMembers : (a b : List (Text × Json)) → Decidable (a = b)
  | [], [] => isTrue rfl
  | (k, x) :: xs, (l, y) :: ys =>
    if n : k = l then
      match decEq x y, decEqMembers xs ys with
      | isTrue h, isTrue t => isTrue (by rw [n, h, t])
      | isFalse h, _ => isFalse fun e => h (Prod.mk.inj (List.cons.inj e).1).2
      | _, isFalse t => isFalse fun e => t (List.cons.inj e).2
    else isFalse fun e => n (Prod.mk.inj (List.cons.inj e).1).1
  | [], _ :: _ | _ :: _, [] => isFalse nofun

end

instance : DecidableEq Json := decEq

/-- Whether the value is `null`. -/
def isNull : Json → Bool
  | .null => true
  | _ => false

/-- A natural number as an integer, if it fits. -/
def Number.ofNat? (n : Nat) : Option Number :=
  if h : n < 0x10000000000000000 then some (.integer n (by omega)) else none

/-- A natural number that fits. -/
def ofNat (n : Nat) : Json := (Number.ofNat? n).elim .null .number

/-- A 64-bit signed integer. -/
def ofInt64 (i : Int64) : Json :=
  .number (.integer i.toInt (by have := i.le_toInt; have := i.toInt_lt; omega))

mutual

/-- How deeply lists and objects are nested; a list or object that holds none is one deep. -/
def depth : Json → Nat
  | .list items => depthItems items + 1
  | .object members => depthMembers members + 1
  | _ => 0

/-- The greatest depth of the items. -/
def depthItems : List Json → Nat
  | [] => 0
  | v :: items => max (depth v) (depthItems items)

/-- The greatest depth of the members. -/
def depthMembers : List (Text × Json) → Nat
  | [] => 0
  | (_, v) :: members => max (depth v) (depthMembers members)

end

end Json

end RuleTemplate
