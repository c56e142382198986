import RuleTemplate.Text.Basic

/-!
# Files

What the program sees of the file system: the bytes under a path, if it can read them.

`Files.ofList` is the file system whose files are listed. Its paths lead from the working directory
step by step, and each step starts in a directory that is there.
-/

namespace RuleTemplate

/-- The bytes of the files that can be read, by path. -/
abbrev Files := Text → Option ByteArray

/-- Why a text cannot be had. -/
inductive FileFault where
  /-- There is no such file. -/
  | notFound
  /-- The bytes are not UTF-8. -/
  | notText
deriving DecidableEq, Repr

/-- The wording of a fault. -/
def FileFault.message : FileFault → Text
  | .notFound => "No such file or directory"
  | .notText => "stream did not contain valid UTF-8"

/-- The text that bytes hold as UTF-8. -/
def Text.ofBytes? (bytes : ByteArray) : Option Text := (String.fromUTF8? bytes).map String.toList

/-- A list cut behind every `last`. -/
def Text.cutBehind {α : Type} [DecidableEq α] (last : α) : List α → List (List α)
  | [] => []
  | a :: as =>
    if a = last then [a] :: cutBehind last as
    else match cutBehind last as with
      | [] => [[a]]
      | first :: others => (a :: first) :: others

/-- The lines that bytes hold, each as a text if it is one, with the line feed that ends it. -/
def Text.linesOfBytes (bytes : ByteArray) : List (Option Text) :=
  (cutBehind (10 : UInt8) bytes.data.toList).map fun l => ofBytes? ⟨l.toArray⟩

/-- The steps of a path that lead somewhere. -/
def Text.pathSteps (path : Text) : List Text :=
  (splitAt '/' path).filter fun step => step ≠ [] ∧ step ≠ ['.']

namespace Files

/-- The text of a file. -/
def text (files : Files) (path : Text) : Except FileFault Text :=
  match files path with
  | none => .error .notFound
  | some bytes => match Text.ofBytes? bytes with
    | none => .error .notText
    | some t => .ok t

/-! ## Listed files -/

/-- A place below the working directory: the steps that lead to it, the last one first. -/
abbrev Place := List Text

/-- The place of a listed file. -/
def placeOf (path : Text) : Place := (Text.pathSteps path).reverse

/-- Whether a place is a directory when the places of the files are these. -/
def isDirectory (files : List Place) (place : Place) : Bool :=
  place.isEmpty || files.any fun file => place.isSuffixOf file && place.length < file.length

/-- The place to which steps lead. No step leads on from a file, nor from a place that is not there.
A step may lead nowhere or up. -/
def walk (files : List Place) : (start : Place) → (steps : List Text) → Option Place
  | start, [] => some start
  | start, step :: steps =>
    if !isDirectory files start then none
    else if step = [] ∨ step = ['.'] then walk files start steps
    else if step = ['.', '.'] then
      match start with
      | [] => none
      | _ :: above => walk files above steps
    else walk files (step :: start) steps

/-- The file system in which these files stand below the working directory, and in which nothing
else can be read. -/
def ofList (listed : List (Text × ByteArray)) : Files :=
  let placed := listed.map fun file => (placeOf file.1, file.2)
  fun path =>
    if path = [] ∨ path.head? = some '/' then none
    else (walk (placed.map (·.1)) [] (Text.splitAt '/' path)).bind (List.lookup · placed)

end Files

end RuleTemplate
