import RuleTemplate.Files
import RuleTemplate.Settings.Variables
import RuleTemplate.Text.Alphanumeric

/-!
# Files of variables

Variables that are not set may be set by the entries of a file, one after the other
(`withEntries`). A value is made of characters and of references to variables, which stand for what
these are at that moment: the environment may have set them, or an entry in front.

The file has lines `NAME=value`, in front of which `export` may stand (`VariableFile.read`). Blank
lines say nothing, nor do comments: lines that begin with `#`, and what follows a `#` behind a
blank. A value ends with the first blank, unless it stands between quotes; quotes may go on over
several lines. Between single quotes all characters stand for themselves. Elsewhere a backslash
escapes the next character, and `$NAME` and `${NAME}` refer to a variable. What stands from the
first line on that cannot be read does not count.
-/

namespace RuleTemplate

namespace VariableFile

/-! ## Entries -/

/-- A part of a value. -/
inductive Part where
  | char (c : Char)
  /-- The value of a variable, or nothing when it is not set. -/
  | reference (name : Text)
deriving DecidableEq, Repr

/-- The name of a variable, and the value that it is given. -/
abbrev Entry := Text × List Part

/-- What a part stands for. -/
def Part.textIn (vars : Variables) : Part → Text
  | char c => [c]
  | reference name => (vars.lookup name).getD []

/-- The text of a value. -/
def valueIn (vars : Variables) (value : List Part) : Text := value.flatMap (Part.textIn vars)

/-- Variables after an entry, which counts if there is no variable of its name. -/
def withEntry (vars : Variables) (entry : Entry) : Variables :=
  if vars.any (·.1 = entry.1) then vars else vars ++ [(entry.1, valueIn vars entry.2)]

/-- Variables after some entries. -/
def withEntries (vars : Variables) (entries : List Entry) : Variables :=
  entries.foldl withEntry vars

/-! ## Values -/

/-- Where the reading of a value stands; outside of single quotes it is noted whether there are
double quotes around. -/
inductive ValueState where
  /-- Where a character stands for itself, unless it opens or closes something. -/
  | plain (quoted : Bool)
  /-- Between single quotes. -/
  | single
  /-- Behind a backslash. -/
  | escaped (quoted : Bool)
  /-- In a name behind a dollar sign. -/
  | named (quoted : Bool) (name : Text)
  /-- In a name behind a dollar sign and an opening brace. -/
  | braced (quoted : Bool) (name : Text)
  /-- Behind the blank that ends the value. -/
  | ended
  /-- In a comment. -/
  | comment
deriving DecidableEq, Repr

/-- The character that an escaped one stands for. -/
def unescaped? (c : Char) : Option Char :=
  if c = 'n' then some '\n'
  else if c ∈ ['\\', '\'', '"', '$', ' '] then some c
  else none

namespace ValueState

/-- What one character adds to a value, and where the reading stands then; none when it must not
stand there. -/
def step (c : Char) : ValueState → Option (List Part × ValueState)
  | plain quoted =>
    if c = '$' then some ([], named quoted [])
    else if c = '\\' then some ([], escaped quoted)
    else if c = '"' then some ([], plain !quoted)
    else if quoted then some ([.char c], plain true)
    else if c = '\'' then some ([], single)
    else if Settings.isGap c then some ([], ended)
    else some ([.char c], plain false)
  | single => if c = '\'' then some ([], plain false) else some ([.char c], single)
  | escaped quoted => (unescaped? c).map fun d => ([.char d], plain quoted)
  | named quoted name =>
    if Text.isAlphanumeric c then some ([], named quoted (name ++ [c]))
    else if c = '\x7b' ∧ name = [] then some ([], braced quoted [])
    else if c = '$' then some ([.reference name], named quoted [])
    -- whatever ends a name stands for itself, be it a quote or a blank
    else some ([.reference name, .char c], plain quoted)
  | braced quoted name =>
    if c = '\x7d' then some ([.reference name], plain quoted)
    else some ([], braced quoted (name ++ [c]))
  | ended =>
    if Settings.isGap c then some ([], ended)
    else if c = '#' then some ([], comment)
    else none
  | comment => some ([], comment)

/-- What the end of the text adds to a value; none when something is still open there. -/
def finish? : ValueState → Option (List Part)
  | plain false | escaped false | ended | comment => some []
  | named false name => some [.reference name]
  | _ => none

end ValueState

/-- The value that a text writes from some state on. -/
def value? : ValueState → Text → Option (List Part)
  | st, [] => st.finish?
  | st, c :: t => do
    let (parts, st) ← st.step c
    return parts ++ (← value? st t)

/-! ## Lines -/

/-- Whether a character may begin the name of a variable. -/
def beginsName (c : Char) : Bool := c.isAlpha || c = '_'

/-- Whether a character may stand in the name of a variable. -/
def inName (c : Char) : Bool := c.isAlphanum || c = '_' || c = '.'

/-- The name at the start of a text, and what follows it. -/
def name? : Text → Option (Text × Text)
  | c :: t => if beginsName c then some (c :: t.takeWhile inName, t.dropWhile inName) else none
  | [] => none

/-- The name at the start of a text, and what stands behind the equals sign after it. -/
def assignment? (t : Text) : Option (Text × Text) := do
  let (name, rest) ← name? t
  match Text.trimStart rest with
  | '=' :: value => some (name, Text.trimStart value)
  | _ => none

/-- The same, where `export` may stand in front. It may also be a name. -/
def exported? (t : Text) : Option (Text × Text) :=
  match assignment? t, name? t with
  | none, some (['e', 'x', 'p', 'o', 'r', 't'], rest) => assignment? (Text.trimStart rest)
  | found, _ => found

/-- The entry of a line, if there is one; none when the line cannot be read. -/
def readLine? (line : Text) : Option (Option Entry) :=
  let line := Text.trim line
  if line = [] ∨ line.head? = some '#' then some none
  else do
    let (name, t) ← exported? line
    let value ← if t.head? = some '#' then some [] else value? (.plain false) t
    return some (name, value)

/-! ## Comments, and lines that go on -/

/-- What is open at some place of a line. -/
inductive LineState where
  | closed
  /-- A blank, behind which a comment begins with `#`. -/
  | blank
  | escape
  /-- Quotes that end with a mark. -/
  | quotes (mark : Char)
  /-- An escape between quotes. -/
  | quotedEscape (mark : Char)
deriving DecidableEq, Repr

namespace LineState

/-- What a character opens. -/
def opened (c : Char) : LineState :=
  if c = '\\' then escape else if c = '"' ∨ c = '\'' then quotes c else closed

/-- What is open behind a character. Of two blanks the second one is not open. -/
def step (c : Char) : LineState → LineState
  | closed => if Text.isBlank c ∧ c ≠ '\n' ∧ c ≠ '\r' then blank else opened c
  | blank => opened c
  | escape => closed
  | quotes mark => if c = '\\' then quotedEscape mark else if c = mark then closed else quotes mark
  | quotedEscape mark => quotes mark

end LineState

/-- What a line says in front of a comment, and what is open at its end. -/
def saidBy : LineState → Text → Text × LineState
  | st, [] => ([], st)
  | st, c :: t =>
    if st = .blank ∧ c = '#' then ([], .closed)
    else
      let (said, ends) := saidBy (st.step c) t
      (c :: said, ends)

/-! ## The file -/

/-- The entries of lines, the first of which goes on from `begun`, where `st` is open. A line may be
no text at all. -/
def entriesOf (begun : Text) (st : LineState) : List (Option Text) → List Entry
  | [] | none :: _ => []
  | some line :: lines =>
    if (Text.trimStart (begun ++ line)).head? = some '#' then entriesOf [] .closed lines
    else
      let (said, ends) := saidBy st line
      if ends ≠ .closed then entriesOf (begun ++ line) ends lines
      else match readLine? (begun ++ said) with
        | none => []
        | some none => entriesOf [] .closed lines
        | some (some entry) => entry :: entriesOf [] .closed lines

/-- A text without the mark that may stand at the start of a file. -/
def behindMark (t : Text) : Text := (Text.stripLead? ['\ufeff'] t).getD t

/-- The lines of a file behind its mark. -/
def lines (bytes : ByteArray) : List (Option Text) :=
  match Text.linesOfBytes bytes with
  | some l :: lines => some (behindMark l) :: lines
  | lines => lines

/-- The entries of a file. -/
def read (bytes : ByteArray) : List Entry := entriesOf [] .closed (lines bytes)

end VariableFile

/-- What finds the entries of a file of variables. -/
abbrev VariableReader := ByteArray → List VariableFile.Entry

end RuleTemplate
