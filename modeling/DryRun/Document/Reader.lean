import DryRun.Document.Value

/-!
# Reading a document

A document is one value in the notation with braces, brackets and double quotes, and blanks around
it. Beyond the numbers of that notation there are `NaN`, `Infinity` and `-Infinity`. Reading stops
at the first thing that does not fit and says what was expected there.

A reader consumes characters at a cursor, which knows its position. Values nest, at most
`nestingLimit` deep. Reading also takes a bound on its steps; twice the length of the document is
always enough.
-/

set_option autoImplicit false

namespace DryRun

/-- What does not fit at a place of a document. -/
inductive Misfit where
  | value
  | fieldName
  | colon
  | comma
  /-- A string that begins here does not end. -/
  | openString
  /-- A string holds a control character. -/
  | control
  /-- There is no such escape. -/
  | escape
  /-- The number of a character is not four digits, or the document ends right after them. -/
  | codeEscape
  | extra
  /-- The document begins with a byte order mark. -/
  | byteOrderMark
  deriving DecidableEq, Repr

def Misfit.message : Misfit → String
  | .value => "Expecting value"
  | .fieldName => "Expecting property name enclosed in double quotes"
  | .colon => "Expecting ':' delimiter"
  | .comma => "Expecting ',' delimiter"
  | .openString => "Unterminated string starting at"
  | .control => "Invalid control character at"
  | .escape => "Invalid \\escape"
  | .codeEscape => "Invalid \\uXXXX escape"
  | .extra => "Extra data"
  | .byteOrderMark => "Unexpected UTF-8 BOM (decode using utf-8-sig)"

/-- What values are nested in. -/
inductive Nest where
  | list
  | fields
  deriving DecidableEq, Repr

def Nest.name : Nest → String
  | .list => "array"
  | .fields => "object"

/-- Why a document cannot be read. -/
inductive DocumentError where
  /-- Something does not fit at a position. -/
  | misfit (what : Misfit) (position : Nat)
  /-- An integer has too many digits. -/
  | longInteger (digits : Nat)
  /-- Values are nested too deep; the nest is the first one beyond the limit. -/
  | tooDeep (nest : Nest)
  deriving DecidableEq, Repr

namespace Document

/-- A place in a document: what is left and the position of its first character. -/
structure Cursor where
  rest : Text
  position : Nat
  deriving DecidableEq, Repr

namespace Cursor

/-- The cursor a number of characters further on. -/
def advance (c : Cursor) (count : Nat) : Cursor := ⟨c.rest.drop count, c.position + count⟩

/-- Whether a character is a blank of the notation. -/
def isGap (c : Char) : Bool := c == ' ' || c == '\t' || c == '\n' || c == '\r'

def skip (c : Cursor) : Cursor := c.advance (c.rest.takeWhile isGap).length

end Cursor

abbrev Read (α : Type) := Except DocumentError (α × Cursor)

def misfit {α : Type} (what : Misfit) (position : Nat) : Except DocumentError α :=
  .error (.misfit what position)

def hexCode? (a b c d : Char) : Option Nat :=
  match Text.hexValue? a, Text.hexValue? b, Text.hexValue? c, Text.hexValue? d with
  | some a, some b, some c, some d => some (((a * 16 + b) * 16 + c) * 16 + d)
  | _, _, _, _ => none

def glyph (code : Nat) : Text.Glyph :=
  if 0xd800 ≤ code && code < 0xe000 then .lone code else .char (Char.ofNat code)

/-- Whether a number is that of the first half of a surrogate pair. -/
def isHighHalf (code : Nat) : Bool := 0xd800 ≤ code && code < 0xdc00

/-- Whether a number is that of the second half of a surrogate pair. -/
def isLowHalf (code : Nat) : Bool := 0xdc00 ≤ code && code < 0xe000

/-- The glyph of two halves of a surrogate pair. -/
def joinHalves (high low : Nat) : Text.Glyph :=
  .char (Char.ofNat (0x10000 + (high - 0xd800) * 0x400 + (low - 0xdc00)))

/-- The character that an escape of two characters stands for. -/
def simpleEscape? (c : Char) : Option Char :=
  match c with
  | '\x22' => some '\x22'
  | '\\' => some '\\'
  | '/' => some '/'
  | 'b' => some '\x08'
  | 'f' => some '\x0c'
  | 'n' => some '\n'
  | 'r' => some '\r'
  | 't' => some '\t'
  | _ => none

/-- Put a glyph in front of the glyphs that are read next. -/
def consGlyph (g : Text.Glyph) (read : Read (List Text.Glyph)) : Read (List Text.Glyph) :=
  read.map fun (glyphs, cursor) => (g :: glyphs, cursor)

/-- The number in the escape at the front of a text, if it has the form of one that is followed by
something; the inner option is empty where its digits are none. -/
def nextCode? (s : Text) : Option (Option Nat) :=
  match s with
  | '\\' :: 'u' :: a :: b :: c :: d :: _ :: _ => some (hexCode? a b c d)
  | _ => none

/-- The glyphs of a string up to its closing quote. The string's opening quote is at `opening`. -/
def readGlyphs (opening position : Nat) (s : Text) : Read (List Text.Glyph) :=
  match s with
  | [] => misfit .openString opening
  | '\x22' :: rest => .ok ([], ⟨rest, position + 1⟩)
  | '\\' :: [] => misfit .openString opening
  | '\\' :: 'u' :: a :: b :: c :: d :: e :: rest =>
    match hexCode? a b c d with
    | none => misfit .codeEscape (position + 1)
    | some code =>
      -- Two halves in a row make one character. A lone half stays as it is.
      match if isHighHalf code then nextCode? (e :: rest) else none with
      | some none => misfit .codeEscape (position + 7)
      | some (some next) =>
        if isLowHalf next then
          consGlyph (joinHalves code next) (readGlyphs opening (position + 12) (rest.drop 5))
        else consGlyph (glyph code) (readGlyphs opening (position + 6) (e :: rest))
      | none => consGlyph (glyph code) (readGlyphs opening (position + 6) (e :: rest))
  | '\\' :: 'u' :: _ => misfit .codeEscape (position + 1)
  | '\\' :: c :: rest =>
    match simpleEscape? c with
    | none => misfit .escape position
    | some c => consGlyph (.char c) (readGlyphs opening (position + 2) rest)
  | c :: rest =>
    if c.toNat < 32 then misfit .control position
    else consGlyph (.char c) (readGlyphs opening (position + 1) rest)
  termination_by s.length
  decreasing_by all_goals simp only [List.length_cons, List.length_drop]; omega

/-- The parts of a number: its sign, its digits before and after the point, and its exponent. -/
structure NumberParts where
  negative : Bool
  whole : Text
  fraction : Text
  exponent : Option Int
  /-- The number of characters of the number. -/
  length : Nat

def digitsValue (digits : Text) : Nat := Numeral.value (digits.map fun c => c.toNat - 48)

/-- The digits after a point at the front of a text. -/
def fractionOf (s : Text) : Text :=
  match s with
  | '.' :: rest => rest.takeWhile Text.isAsciiDigit
  | _ => []

/-- The exponent at the front of a text and its length. -/
def exponentOf (s : Text) : Option (Int × Nat) :=
  match s with
  | mark :: rest =>
    let (negative, digits, signLength) := match rest with
      | '+' :: rest => (false, rest.takeWhile Text.isAsciiDigit, 1)
      | '-' :: rest => (true, rest.takeWhile Text.isAsciiDigit, 1)
      | rest => (false, rest.takeWhile Text.isAsciiDigit, 0)
    if (mark == 'e' || mark == 'E') && !digits.isEmpty then
      let size : Int := digitsValue digits
      some (if negative then -size else size, 1 + signLength + digits.length)
    else none
  | [] => none

/-- The number at the front of a text. -/
def numberOf? (s : Text) : Option NumberParts :=
  let negative := s.head? == some '-'
  let body := if negative then s.drop 1 else s
  let whole := match body with
    | '0' :: _ => ['0']
    | body => body.takeWhile Text.isAsciiDigit
  if whole.isEmpty then none
  else
    let afterWhole := body.drop whole.length
    let fraction := fractionOf afterWhole
    let fractionLength := if fraction.isEmpty then 0 else fraction.length + 1
    let power := exponentOf (afterWhole.drop fractionLength)
    let exponentLength := match power with
      | some (_, length) => length
      | none => 0
    some { negative, whole, fraction, exponent := power.map Prod.fst
           length := (if negative then 1 else 0) + whole.length + fractionLength + exponentLength }

/-- The value that the parts of a number write: an integer unless there is a fraction or an
exponent. -/
def numberValue (n : NumberParts) : Except DocumentError Value :=
  if n.fraction.isEmpty && n.exponent.isNone then
    if Numeral.digitLimit < n.whole.length then .error (.longInteger n.whole.length)
    else
      let size : Int := digitsValue n.whole
      .ok (.int (if n.negative then -size else size))
  else
    let x := Numeral.scale (digitsValue (n.whole ++ n.fraction))
      (n.exponent.getD 0 - n.fraction.length)
    .ok (.float (if n.negative then -x else x))

def words : List (String × Value) :=
  [("null", .null), ("true", .bool true), ("false", .bool false), ("NaN", .float (0.0 / 0.0)),
   ("Infinity", .float (1.0 / 0.0)), ("-Infinity", .float (-1.0 / 0.0))]

/-- The word at the front of a text that stands for a value, and its length. -/
def wordOf? (s : Text) : Option (Value × Nat) :=
  words.findSome? fun (word, value) =>
    if word.toList.isPrefixOf s then some (value, word.length) else none

def readAtom (c : Cursor) : Read Value :=
  match wordOf? c.rest with
  | some (value, length) => .ok (value, c.advance length)
  | none =>
    match numberOf? c.rest with
    | none => misfit .value c.position
    | some n => (numberValue n).map fun value => (value, c.advance n.length)

/-- Read the name of a field and the colon after it. -/
def readFieldName (c : Cursor) : Read (List Text.Glyph) :=
  match c.rest with
  | '\x22' :: rest =>
    match readGlyphs c.position (c.position + 1) rest with
    | .error e => .error e
    | .ok (name, c) =>
      match c.skip.rest with
      | ':' :: _ => .ok (name, (c.skip.advance 1).skip)
      | _ => misfit .colon c.skip.position
  | _ => misfit .fieldName c.position

/-- How many lists and fields may stand inside of each other. -/
def nestingLimit : Nat := 988

mutual

/-- Read a value inside of `nests` lists and fields. -/
def readValue (nests : Nat) : Nat → Cursor → Read Value
  | 0, c => misfit .value c.position
  | steps + 1, c =>
    match c.rest with
    | '\x22' :: rest =>
      (readGlyphs c.position (c.position + 1) rest).map fun (glyphs, c) => (.string glyphs, c)
    | '[' :: _ =>
      if nestingLimit ≤ nests then .error (.tooDeep .list)
      else
        let inner := (c.advance 1).skip
        match inner.rest with
        | ']' :: _ => .ok (.list [], inner.advance 1)
        | _ => (readItems (nests + 1) steps inner).map fun (items, c) => (.list items, c)
    | '\x7b' :: _ =>
      if nestingLimit ≤ nests then .error (.tooDeep .fields)
      else
        let inner := (c.advance 1).skip
        match inner.rest with
        | '\x7d' :: _ => .ok (.fields [], inner.advance 1)
        | _ => (readFields (nests + 1) steps [] inner).map fun (entries, c) => (.fields entries, c)
    | _ => readAtom c

/-- Read the items of a list and its closing bracket. -/
def readItems (nests : Nat) : Nat → Cursor → Read (List Value)
  | 0, c => misfit .value c.position
  | steps + 1, c =>
    match readValue nests steps c with
    | .error e => .error e
    | .ok (value, c) =>
      let c := c.skip
      match c.rest with
      | ']' :: _ => .ok ([value], c.advance 1)
      | ',' :: _ =>
        (readItems nests steps (c.advance 1).skip).map fun (items, c) => (value :: items, c)
      | _ => misfit .comma c.position

/-- Read fields and their closing brace; some have been read already. -/
def readFields (nests : Nat) : Nat → List (List Text.Glyph × Value) → Cursor →
    Read (List (List Text.Glyph × Value))
  | 0, _, c => misfit .fieldName c.position
  | steps + 1, entries, c =>
    match readFieldName c with
    | .error e => .error e
    | .ok (name, c) =>
      match readValue nests steps c with
      | .error e => .error e
      | .ok (value, c) =>
        let entries := Value.setField name value entries
        let c := c.skip
        match c.rest with
        | '\x7d' :: _ => .ok (entries, c.advance 1)
        | ',' :: _ => readFields nests steps entries (c.advance 1).skip
        | _ => misfit .comma c.position

end

def value (s : Text) : Except DocumentError Value :=
  if s.head? == some '\ufeff' then misfit .byteOrderMark 0
  else
    match readValue 0 (2 * s.length + 2) (Cursor.mk s 0).skip with
    | .error e => .error e
    | .ok (value, c) =>
      if c.skip.rest.isEmpty then .ok value else misfit .extra c.skip.position

end Document

namespace DocumentError

/-- The wording of an error in a document. A position is also given as line and column. -/
def message (document : Text) : DocumentError → Text
  | .misfit what position =>
    let before := document.take position
    let line := before.count '\n' + 1
    let column := (before.reverse.takeWhile (· != '\n')).length + 1
    what.message.toList ++ ": line ".toList ++ Nat.toDigits 10 line ++ " column ".toList ++
      Nat.toDigits 10 column ++ " (char ".toList ++ Nat.toDigits 10 position ++ [')']
  | .longInteger digits =>
    "Exceeds the limit (4300 digits) for integer string conversion: value has ".toList ++
      Nat.toDigits 10 digits ++
      " digits; use sys.set_int_max_str_digits() to increase the limit".toList
  | .tooDeep nest =>
    "maximum recursion depth exceeded while decoding a JSON ".toList ++ nest.name.toList ++
      " from a unicode string".toList

end DocumentError

end DryRun
