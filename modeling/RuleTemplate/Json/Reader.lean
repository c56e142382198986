import RuleTemplate.Json.Numeral

/-!
# Reading JSON

A text is read from the left, one character at a time, and the first problem met decides. The reader
is a machine: its state holds the lists and objects that are still open (`Frame`) and what may come
next (`Phase`).

* `Reader.settle` ends a number before a character that does not continue it;
* `Reader.advance` takes the character;
* `Reader.step` does both, and `Reader.finish` says what the text is when there is no more of it.

A text is no document either because it stops early (`Fault.ended`) or because of a character that
may not stand where it stands, or a number out of range (`Fault.malformed`). Lists and objects nest
up to a limit; to open one beyond it is malformed.
-/

namespace RuleTemplate.Json

/-- Why a text is no JSON document. -/
inductive Fault where
  /-- The text stops before the document is complete. -/
  | ended
  /-- The text cannot be continued to a document. -/
  | malformed
deriving DecidableEq, Repr

/-- A list or object that is open and waits for a value; what it holds is kept newest first. -/
inductive Frame where
  | list (items : List Json)
  | object (members : Members) (name : Text)

/-- Where in a character of a string the reader stands. -/
inductive Escape where
  /-- Between two characters. -/
  | none
  /-- After a backslash. -/
  | backslash
  /-- Among the four digits of a numbered character, which may follow a leading surrogate. -/
  | hex (lead : Option Nat) (seen : Text)
  /-- After a leading surrogate, where a backslash must follow. -/
  | pair (lead : Nat)
  /-- After a leading surrogate and a backslash, where `u` must follow. -/
  | pairMark (lead : Nat)

/-- What a string is read as. -/
inductive Role where
  | value
  | name (members : Members)

/-- What may come next. -/
inductive Phase where
  /-- A value. -/
  | value
  /-- The first item of a list, or its end. -/
  | firstItem
  /-- The first name of an object, or its end. -/
  | firstName
  /-- The next name of an object. -/
  | name (members : Members)
  /-- The colon after a name. -/
  | colon (members : Members) (name : Text)
  /-- The rest of a word. -/
  | word (rest : Text) (value : Json)
  /-- The rest of a string; what was read of it is kept newest first. -/
  | string (role : Role) (written : Text) (escape : Escape)
  /-- The rest of a number, if any. -/
  | number (numeral : Numeral) (stage : Numeral.Stage)
  /-- What follows a complete value. -/
  | done (value : Json)

/-- The state of reading. -/
structure Reader where
  stack : List Frame
  phase : Phase

namespace Reader

/-- The state before the first character. -/
def start : Reader := ⟨[], .value⟩

/-- The blanks of JSON. -/
def isSpace (c : Char) : Bool := c = ' ' || c = '\n' || c = '\t' || c = '\r'

/-- Takes the first character of a value. -/
def beginValue (limit : Nat) (stack : List Frame) (c : Char) : Except Fault Reader :=
  if c = '"' then .ok ⟨stack, .string .value [] .none⟩
  else if c = '[' then
    if stack.length < limit then .ok ⟨stack, .firstItem⟩ else .error .malformed
  else if c = '\x7b' then
    if stack.length < limit then .ok ⟨stack, .firstName⟩ else .error .malformed
  else if c = 't' then .ok ⟨stack, .word "rue" (.bool true)⟩
  else if c = 'f' then .ok ⟨stack, .word "alse" (.bool false)⟩
  else if c = 'n' then .ok ⟨stack, .word "ull" .null⟩
  else match Numeral.start? c with
    | some (numeral, stage) => .ok ⟨stack, .number numeral stage⟩
    | none => .error .malformed

/-- Takes the character that follows a complete value. -/
def afterValue (stack : List Frame) (v : Json) (c : Char) : Except Fault Reader :=
  match stack with
  | [] => .error .malformed
  | .list items :: outer =>
    if c = ',' then .ok ⟨.list (v :: items) :: outer, .value⟩
    else if c = ']' then .ok ⟨outer, .done (.list (v :: items).reverse)⟩
    else .error .malformed
  | .object members name :: outer =>
    if c = ',' then .ok ⟨outer, .name ((name, v) :: members)⟩
    else if c = '\x7d' then .ok ⟨outer, .done (.object ((name, v) :: members).reverse)⟩
    else .error .malformed

/-- The character that a letter after a backslash stands for. -/
def escaped? (c : Char) : Option Char :=
  if c = '"' ∨ c = '\\' ∨ c = '/' then some c
  else if c = 'b' then some '\x08'
  else if c = 'f' then some '\x0c'
  else if c = 'n' then some '\n'
  else if c = 'r' then some '\r'
  else if c = 't' then some '\t'
  else none

/-- The number that four hexadecimal digits denote. -/
def hexValue? : Text → Option Nat
  | [a, b, c, d] => do
    return (((← Text.hexDigit? a) * 16 + (← Text.hexDigit? b)) * 16 + (← Text.hexDigit? c)) * 16
      + (← Text.hexDigit? d)
  | _ => none

/-- What four bytes of a numbered character, behind `lead` if there is one, add to a string. A
leading surrogate waits for its partner; a surrogate without partner is malformed. -/
def numbered (lead : Option Nat) (digits written : Text) : Except Fault (Text × Escape) :=
  match lead, hexValue? digits with
  | _, none => .error .malformed
  | none, some n =>
    if 0xDC00 ≤ n ∧ n ≤ 0xDFFF then .error .malformed
    else if 0xD800 ≤ n ∧ n ≤ 0xDBFF then .ok (written, .pair n)
    else .ok (Char.ofNat n :: written, .none)
  | some first, some n =>
    if 0xDC00 ≤ n ∧ n ≤ 0xDFFF then
      .ok (Char.ofNat ((first - 0xD800) * 0x400 + (n - 0xDC00) + 0x10000) :: written, .none)
    else .error .malformed

/-- Takes a character inside a string that does not end it. The digits of a numbered character are
judged when four bytes of them have come. -/
def inString (written : Text) (escape : Escape) (c : Char) : Except Fault (Text × Escape) :=
  match escape with
  | .none =>
    if c = '\\' then .ok (written, .backslash)
    else if c.toNat < 0x20 then .error .malformed
    else .ok (c :: written, .none)
  | .backslash =>
    if c = 'u' then .ok (written, .hex none [])
    else match escaped? c with
      | some e => .ok (e :: written, .none)
      | none => .error .malformed
  | .hex lead seen =>
    let seen := seen ++ [c]
    if Text.byteSize seen < 4 then .ok (written, .hex lead seen) else numbered lead seen written
  | .pair lead => if c = '\\' then .ok (written, .pairMark lead) else .error .malformed
  | .pairMark lead => if c = 'u' then .ok (written, .hex (some lead) []) else .error .malformed

/-- Ends a number before a character that does not continue it. -/
def settle (r : Reader) (c : Char) : Except Fault Reader :=
  match r.phase with
  | .number numeral stage =>
    match numeral.extend? stage c with
    | some _ => .ok r
    | none =>
      if stage.endsBefore c then
        match numeral.number? with
        | some n => .ok ⟨r.stack, .done (.number n)⟩
        | none => .error .malformed
      else .error .malformed
  | _ => .ok r

/-- Takes the next character; lists and objects may nest up to `limit`. -/
def advance (limit : Nat) (r : Reader) (c : Char) : Except Fault Reader :=
  match r.phase with
  | .value => if isSpace c then .ok r else beginValue limit r.stack c
  | .firstItem =>
    if isSpace c then .ok r
    else if c = ']' then .ok ⟨r.stack, .done (.list [])⟩
    else beginValue limit (.list [] :: r.stack) c
  | .firstName =>
    if isSpace c then .ok r
    else if c = '\x7d' then .ok ⟨r.stack, .done (.object [])⟩
    else if c = '"' then .ok ⟨r.stack, .string (.name []) [] .none⟩
    else .error .malformed
  | .name members =>
    if isSpace c then .ok r
    else if c = '"' then .ok ⟨r.stack, .string (.name members) [] .none⟩
    else .error .malformed
  | .colon members name =>
    if isSpace c then .ok r
    else if c = ':' then .ok ⟨.object members name :: r.stack, .value⟩
    else .error .malformed
  | .word [] v => .ok ⟨r.stack, .done v⟩
  | .word (w :: rest) v =>
    if c ≠ w then .error .malformed
    else if rest = [] then .ok ⟨r.stack, .done v⟩
    else .ok ⟨r.stack, .word rest v⟩
  | .string role written .none =>
    if c = '"' then
      match role with
      | .value => .ok ⟨r.stack, .done (.string written.reverse)⟩
      | .name members => .ok ⟨r.stack, .colon members written.reverse⟩
    else do
      let (written, escape) ← inString written .none c
      return ⟨r.stack, .string role written escape⟩
  | .string role written escape => do
    let (written, escape) ← inString written escape c
    return ⟨r.stack, .string role written escape⟩
  | .number numeral stage =>
    match numeral.extend? stage c with
    | some (numeral, stage) => .ok ⟨r.stack, .number numeral stage⟩
    | none => .error .malformed
  | .done v => if isSpace c then .ok r else afterValue r.stack v c

/-- One character. -/
def step (limit : Nat) (r : Reader) (c : Char) : Except Fault Reader := do
  advance limit (← settle r c) c

/-- All characters of a text, up to the first problem. -/
def run (limit : Nat) (r : Reader) (t : Text) : Except Fault Reader := t.foldlM (step limit) r

/-- The state at the end of the text: a number is complete there if it may end at all. -/
def close (r : Reader) : Except Fault Reader :=
  match r.phase with
  | .number numeral stage =>
    if stage.complete then
      match numeral.number? with
      | some n => .ok ⟨r.stack, .done (.number n)⟩
      | none => .error .malformed
    else .error .ended
  | _ => .ok r

/-- The document, when there are no more characters. -/
def finish (r : Reader) : Except Fault Json := do
  match ← close r with
  | ⟨[], .done v⟩ => return v
  | _ => throw .ended

end Reader

/-- How deeply documents may nest. -/
def nestingLimit : Nat := 127

/-- Reads a document that nests up to `limit`. -/
def readWithin (limit : Nat) (t : Text) : Except Fault Json := do
  (← Reader.start.run limit t).finish

/-- Reads a document. -/
def read (t : Text) : Except Fault Json := readWithin nestingLimit t

end RuleTemplate.Json
