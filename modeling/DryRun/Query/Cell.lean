import DryRun.Number.FloatText
import DryRun.Number.Numeral
import DryRun.Text.Case
import DryRun.Text.Quoted

/-!
# Cells and how they compare

A cell is nothing, a truth value, an integer of any size, a float or a text. Truth values, integers
and floats are numbers and compare by value, exactly: an integer is never rounded to compare it
with a float. Every number but "not a number" has a place on one line (`Number.place?`), and two
places decide a comparison.
-/

set_option autoImplicit false

namespace DryRun

/-- A value in a table. -/
inductive Cell where
  | null
  | bool (b : Bool)
  | int (i : Int)
  | float (x : Float)
  | text (s : Text)
  deriving DecidableEq

/-- A number of either kind. -/
inductive Number where
  | int (i : Int)
  | float (x : Float)
  deriving DecidableEq

namespace Number

/-- Where a float stands: below all integers, above them, or at a multiple of `2 ^ -1074`. -/
def placeOfParts : FloatParts → Option (Int × Int)
  | .nan => none
  | .infinite negative => some (if negative then -1 else 1, 0)
  | .finite negative mantissa exponent =>
    let n := (mantissa * Nat.pow 2 (exponent + 1074).toNat : Nat)
    some (0, if negative then -(n : Int) else n)

/-- Where a number stands on the line of all numbers: the first part tells the infinities from the
finite numbers, the second is the number in units of `2 ^ -1074`. -/
def place? : Number → Option (Int × Int)
  | .int i => some (0, i * (Nat.pow 2 1074 : Nat))
  | .float x => placeOfParts (.ofFloat x)

def comparePlaces (a b : Int × Int) : Ordering := (compare a.1 b.1).then (compare a.2 b.2)

/-- How two numbers compare; "not a number" compares with nothing. -/
def compare? (a b : Number) : Option Ordering :=
  match a.place?, b.place? with
  | some p, some q => some (comparePlaces p q)
  | _, _ => none

end Number

/-- One of the six comparisons. -/
inductive Comparison where
  | eq
  | ne
  | lt
  | le
  | gt
  | ge
  deriving DecidableEq, Repr

namespace Comparison

/-- Whether a comparison holds, given how the two sides compare. -/
def holds (op : Comparison) (order : Option Ordering) : Bool :=
  match op with
  | .eq => order == some .eq
  | .ne => order != some .eq
  | .lt => order == some .lt
  | .le => order == some .lt || order == some .eq
  | .gt => order == some .gt
  | .ge => order == some .gt || order == some .eq

def sign : Comparison → String
  | .eq => "=="
  | .ne => "!="
  | .lt => "<"
  | .le => "<="
  | .gt => ">"
  | .ge => ">="

end Comparison

namespace Cell

def number? : Cell → Option Number
  | .bool b => some (.int (if b then 1 else 0))
  | .int i => some (.int i)
  | .float x => some (.float x)
  | .null | .text _ => none

/-- The name of the kind of a cell. -/
def kind : Cell → String
  | .null => "NoneType"
  | .bool _ => "bool"
  | .int _ => "int"
  | .float _ => "float"
  | .text _ => "str"

end Cell

/-- Why a query could not be answered. -/
inductive QueryError where
  /-- A row has no cell in a column. -/
  | missingCell (column : Text)
  /-- Two cells have no order. -/
  | unordered (op : Comparison) (left right : String)
  /-- A row count has too many digits. -/
  | longNumeral (digits : Nat)
  /-- An integer in a cell has too many digits to be shown. -/
  | longInteger
  deriving DecidableEq, Repr

namespace QueryError

def message : QueryError → Text
  | .missingCell column => Text.quoted column
  | .unordered op left right =>
    '\x27' :: op.sign.toList ++ "' not supported between instances of '".toList ++ left.toList ++
      "' and '".toList ++ right.toList ++ ['\x27']
  | .longNumeral digits =>
    "Exceeds the limit (4300 digits) for integer string conversion: value has ".toList ++
      Nat.toDigits 10 digits ++
      " digits; use sys.set_int_max_str_digits() to increase the limit".toList
  | .longInteger =>
    ("Exceeds the limit (4300 digits) for integer string conversion; " ++
      "use sys.set_int_max_str_digits() to increase the limit").toList

end QueryError

namespace Cell

def text? : Cell → Except QueryError Text
  | .null => .ok "None".toList
  | .bool b => .ok (if b then "True" else "False").toList
  | .int i => match Numeral.intText? i with
    | some s => .ok s
    | none => .error .longInteger
  | .float x => .ok (FloatText.ofFloat x)
  | .text s => .ok s

/-- Whether one cell comes before another: numbers by value, texts by their characters. -/
def precedes (a b : Cell) : Except QueryError Bool :=
  match a, b with
  | .text s, .text t => .ok (Text.order s t == .lt)
  | a, b =>
    match a.number?, b.number? with
    | some m, some n => .ok (Comparison.lt.holds (m.compare? n))
    | _, _ => .error (.unordered .lt a.kind b.kind)

end Cell

end DryRun
