import DryRun.Document.Reader
import DryRun.Grade
import DryRun.Text.Utf8

/-!
# Exercise files

An exercise file is a document whose fields describe an exercise. Every field may be missing: the
name of the file, without its ending, then names the exercise.
-/

set_option autoImplicit false

namespace DryRun

/-- A file: its name and its bytes. -/
structure File where
  name : Text
  bytes : List UInt8
  deriving DecidableEq, Repr

namespace File

/-- The last part of the path that the name is. -/
def baseName (name : Text) : Text := (name.reverse.takeWhile (· != '/')).reverse

/-- The name split before the dot of its ending. A dot at either end of the name makes no ending. -/
def splitEnding (name : Text) : Text × Text :=
  let base := baseName name
  let tail := base.reverse.takeWhile (· != '.')
  let stem := (base.reverse.drop (tail.length + 1)).reverse
  if tail.isEmpty || stem.isEmpty then (base, []) else (stem, '.' :: tail.reverse)

def stem (name : Text) : Text := (splitEnding name).1

/-- The ending of the name, with its dot. -/
def ending (name : Text) : Text := (splitEnding name).2

/-- The text of the file with its line ends unified. -/
def text (f : File) : Except Utf8.DecodingError Text :=
  (Utf8.decode f.bytes).map Text.unifyFeeds

end File

/-- Why a file is no exercise. -/
inductive ExerciseFileError where
  | encoding (error : Utf8.DecodingError)
  | document (text : Text) (error : DocumentError)
  /-- The document has no fields but is of the named kind. -/
  | noFields (kind : String)
  deriving DecidableEq, Repr

namespace ExerciseFileError

def message : ExerciseFileError → Text
  | .encoding error => error.message
  | .document text error => error.message text
  | .noFields kind =>
    '\x27' :: kind.toList ++ "' object has no attribute 'get'".toList

/-- Whether the file can be read but does not describe an exercise. -/
def isMisshapen : ExerciseFileError → Bool
  | .document _ (.misfit ..) | .noFields _ => true
  | .encoding _ | .document _ (.longInteger _) | .document _ (.tooDeep _) => false

end ExerciseFileError

namespace Exercise

/-- The text of a field that counts as missing when it is blank. -/
def fieldOr (value : Option Value) (fallback : Text) : Text :=
  match value with
  | some v => if v.isBlank then fallback else v.toText
  | none => fallback

/-- The text of a field that is missing only where it is absent or null. -/
def optionalField : Option Value → Option Text
  | none | some .null => none
  | some v => some v.toText

def ofValue (fallbackId : Text) : Value → Except ExerciseFileError Exercise
  | .fields entries => .ok
    { id := fieldOr (Value.field? entries "id") fallbackId
      tag := some (fieldOr (Value.field? entries "language") Settings.defaultTag)
      starter := some ((optionalField (Value.field? entries "starter")).getD [])
      expected := optionalField (Value.field? entries "expected") }
  | v => .error (.noFields v.kind)

def ofFile (f : File) : Except ExerciseFileError Exercise :=
  match f.text with
  | .error e => .error (.encoding e)
  | .ok text =>
    match Document.value text with
    | .error e => .error (.document text e)
    | .ok v => ofValue (File.stem f.name) v

end Exercise

end DryRun

/-!
## Folders

A folder holds files and no other folders. A path is looked up part by part; parts that are empty or
a single dot stay where they are.
-/

namespace DryRun

/-- What a path leads to. -/
inductive Entry where
  | absent
  | directory
  | file (bytes : List UInt8)
  deriving DecidableEq, Repr

abbrev Folder := List File

namespace Folder

/-- Whether a part of a path stays where it is. -/
def staysPut (part : Text) : Bool := part.isEmpty || part == ['.']

/-- Whether a part of a path leads to a directory, whatever the folder holds. -/
def isStep (part : Text) : Bool := staysPut part || part == ['.', '.']

/-- What a path leads to in a folder. A path out of the folder leads to nothing but the directories
above it. -/
def look (folder : Folder) (path : Text) : Entry :=
  let parts := Text.pieces (· == '/') path
  if path.isEmpty then .absent
  else if parts.all isStep then .directory
  else if path.head? == some '/' then .absent
  else
    match parts.dropWhile staysPut with
    | [name] =>
      match folder.reverse.find? (·.name == name) with
      | some f => .file f.bytes
      | none => .absent
    | _ => .absent

end Folder

end DryRun
