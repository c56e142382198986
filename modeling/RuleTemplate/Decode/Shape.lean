import RuleTemplate.Decode.Basic

/-!
# Records

A `Shape` lists the members of a record with their decoders, in the order in which they are
declared; shapes are put together by `<$>` and `<*>`. An object is decoded in two passes:

* `Shape.check` goes through the members of the object from left to right, decodes those that are
  known and refuses one that comes twice;
* `Shape.build` takes the members of the record in the order of declaration, so that the first one
  missing is told.

Unknown members are passed over. A record may also be written as the list of its values in the order
of declaration, where those with a default may be left out at the end.
-/

namespace RuleTemplate

/-- The members of a record and how it is made of them. -/
structure Shape (α : Type) where
  /-- The names that are known, each with the test of its value. -/
  fields : List (Text × Decoder Unit)
  /-- The record that members make; `missing` tells of one that is not there. -/
  build : (missing : Text → DecodeError) → Scope → Json.Members → Except DecodeError α

namespace Shape

variable {α β : Type}

/-- The test that a value can be decoded. -/
def test (decode : Decoder α) : Decoder Unit := fun scope v => (decode scope v).map fun _ => ()

/-- A member that has to be there. -/
def required (name : Text) (decode : Decoder α) : Shape α where
  fields := [(name, test decode)]
  build missing scope members :=
    match members.lookup name with
    | some v => decode scope v
    | none => .error (missing name)

/-- A member that has a value also when it is not there. -/
def optional (name : Text) (decode : Decoder α) (default : α) : Shape α where
  fields := [(name, test decode)]
  build _ scope members :=
    match members.lookup name with
    | some v => decode scope v
    | none => .ok default

/-- Shapes side by side: the members of both, and the record made of what both give. -/
instance : Applicative Shape where
  pure a := ⟨[], fun _ _ _ => .ok a⟩
  seq f x :=
    { fields := f.fields ++ (x ()).fields
      build := fun missing scope members => do
        let g ← f.build missing scope members
        return g (← (x ()).build missing scope members) }

/-- The names of the members, in the order of declaration. -/
def names (s : Shape α) : List Text := s.fields.map (·.1)

/-- Decodes the members that are known, from left to right; `seen` are the known names that came
already. -/
def check (s : Shape α) (scope : Scope) (seen : List Text) : Json.Members → Except DecodeError Unit
  | [] => .ok ()
  | (name, v) :: members =>
    match s.fields.lookup name with
    | none => check s scope seen members
    | some test =>
      if name ∈ seen then .error (.duplicateField name)
      else do
        test scope v
        check s scope (name :: seen) members

/-- The record that the members of an object make. -/
def ofMembers (s : Shape α) (scope : Scope) (members : Json.Members) : Except DecodeError α := do
  s.check scope [] members
  s.build .missingField scope members

/-- The error for a list with items left over. -/
def surplus (scope : Scope) (length arity : Nat) : DecodeError :=
  match scope with
  | .event => .invalidLength length (.items arity)
  | .document => .invalidLength length .fewerItems

/-- The record whose values a list gives in the order of declaration. -/
def ofItems (s : Shape α) (record : Text) (scope : Scope) (items : List Json) :
    Except DecodeError α := do
  let arity := s.names.length
  let missing name := .invalidLength (s.names.idxOf name) (.values record arity)
  let a ← s.build missing scope (s.names.zip items)
  if arity < items.length then throw (surplus scope items.length arity)
  return a

/-- A record, written as an object or as a list. -/
def decoder (s : Shape α) (record : Text) : Decoder α
  | scope, .object members => s.ofMembers scope members
  | scope, .list items => s.ofItems record scope items
  | _, v => Decoder.wrongType v (.record record)

end Shape

end RuleTemplate
