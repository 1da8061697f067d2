import DryRun.Number.FloatText
import DryRun.Number.Numeral
import DryRun.Text.Quoted

/-!
# Values of a document

A document holds a value: nothing, a truth value, a number, a string, a list, or fields by name. A
string may hold a lone half of a surrogate pair, which no text can, so strings are lists of glyphs.
-/

set_option autoImplicit false

namespace DryRun

/-- A value of a document. -/
inductive Value where
  | null
  | bool (b : Bool)
  | int (i : Int)
  | float (x : Float)
  | string (glyphs : List Text.Glyph)
  | list (items : List Value)
  | fields (entries : List (List Text.Glyph × Value))

namespace Value

/-- The name of the kind of a value. -/
def kind : Value → String
  | .null => "NoneType"
  | .bool _ => "bool"
  | .int _ => "int"
  | .float _ => "float"
  | .string _ => "str"
  | .list _ => "list"
  | .fields _ => "dict"

/-- Whether a value counts as missing: nothing, false, zero, or without any part. -/
def isBlank : Value → Bool
  | .null => true
  | .bool b => !b
  | .int i => i == 0
  | .float x => x == 0
  | .string glyphs => glyphs.isEmpty
  | .list items => items.isEmpty
  | .fields entries => entries.isEmpty

/-- Give a field a value: at its place if there is one of that name, else at the end. -/
def setField (name : List Text.Glyph) (value : Value) :
    List (List Text.Glyph × Value) → List (List Text.Glyph × Value)
  | [] => [(name, value)]
  | (other, old) :: rest =>
    if other = name then (name, value) :: rest else (other, old) :: setField name value rest

def field? (entries : List (List Text.Glyph × Value)) (name : String) : Option Value :=
  entries.lookup (name.toList.map .char)

/-- The text of an integer without a bound on its digits. -/
def intText (i : Int) : Text := (if i < 0 then ['-'] else []) ++ Nat.toDigits 10 i.natAbs

mutual

/-- A value as it is shown inside of another one: strings are quoted. -/
def shown : Value → Text
  | .null => "None".toList
  | .bool b => (if b then "True" else "False").toList
  | .int i => intText i
  | .float x => FloatText.ofFloat x
  | .string glyphs => Text.quotedGlyphs glyphs
  | .list items => '[' :: Text.join [',', ' '] (shownItems items) ++ [']']
  | .fields entries => '\x7b' :: Text.join [',', ' '] (shownEntries entries) ++ ['\x7d']

/-- The items of a list as they are shown. -/
def shownItems : List Value → List Text
  | [] => []
  | v :: rest => shown v :: shownItems rest

/-- The fields of a value as they are shown. -/
def shownEntries : List (List Text.Glyph × Value) → List Text
  | [] => []
  | (name, v) :: rest =>
    (Text.quotedGlyphs name ++ ':' :: ' ' :: shown v) :: shownEntries rest

end

/-- The character that stands for a lone half of a surrogate pair. -/
def glyphChar : Text.Glyph → Char
  | .char c => c
  | .lone _ => '\ufffd'

/-- The text of a value: a string is its own text. -/
def toText : Value → Text
  | .string glyphs => glyphs.map glyphChar
  | v => shown v

end Value

end DryRun
