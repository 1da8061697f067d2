import DryRun.Query.Cell

/-!
# Conditions

A condition compares the cell of a column with a literal. A text is compared with the text of the
literal, both in upper case, so every literal can be compared with a text. A number is compared
with a number, and a literal that is none selects no row of a column of numbers.

A condition is read from a query that has single spaces for all its blanks, so that its literal
stands on one line. `Condition.ofText?` does not insist on that: it also takes a literal with a line
feed.
-/

set_option autoImplicit false

/-!
## Literals of a query

A literal between a pair of quote marks is the text between them. Any other literal is an integer
if it can be read as one, else a float if it can be read as one, else the text itself.
-/

namespace DryRun

/-- A value written in a query. -/
inductive Literal where
  | int (i : Int)
  | float (x : Float)
  | text (s : Text)
  deriving DecidableEq

namespace Literal

def quoteMarks : List Char := ['\x27', '\x22']

def ofText (s : Text) : Literal :=
  let body := Text.strip s
  match Text.between? quoteMarks body with
  | some inner => .text inner
  | none =>
    match Numeral.int? body with
    | some i => .int i
    | none =>
      match Numeral.float? body with
      | some x => .float x
      | none => .text body

def toText : Literal → Text
  | .int i => (if i < 0 then ['-'] else []) ++ Nat.toDigits 10 i.natAbs
  | .float x => FloatText.ofFloat x
  | .text s => s

def number? : Literal → Option Number
  | .int i => some (.int i)
  | .float x => some (.float x)
  | .text _ => none

/-- The name of the kind of a literal. -/
def kind : Literal → String
  | .int _ => "int"
  | .float _ => "float"
  | .text _ => "str"

end Literal

end DryRun

namespace DryRun

/-- A row of a table: its cells by column. -/
abbrev Row := Record Cell

/-- A comparison of a column with a literal. -/
structure Condition where
  column : Text
  op : Comparison
  /-- What the cells are compared with. -/
  literal : Literal
  deriving DecidableEq

namespace Condition

/-- The signs of the comparisons. A sign stands before the signs that it begins with. -/
def signs : List (String × Comparison) :=
  [("<>", .ne), ("!=", .ne), (">=", .ge), ("<=", .le), ("=", .eq), (">", .gt), ("<", .lt)]

/-- The comparison whose sign opens a text and is followed by something, and that something. -/
def operator? (s : Text) : Option (Comparison × Text) :=
  signs.findSome? fun (sign, op) =>
    if sign.toList.isPrefixOf s && !(s.drop sign.length).isEmpty then
      some (op, s.drop sign.length)
    else none

/-- The condition that a text states: a column, a comparison sign and a literal, with blanks
between them where one likes. -/
def ofText? (s : Text) : Option Condition :=
  let body := Text.stripLeft s
  let column := body.takeWhile Text.isWordChar
  if column.isEmpty then none
  else
    (operator? (Text.stripLeft (body.dropWhile Text.isWordChar))).map fun (op, literal) =>
      ⟨Text.lower column, op, Literal.ofText literal⟩

def selectsCell (c : Condition) (cell : Cell) : Except QueryError Bool :=
  match cell, c.literal.number? with
  | .text s, _ =>
    .ok (c.op.holds (some (Text.order (Text.upper s) (Text.upper c.literal.toText))))
  | _, none => .ok false
  | cell, some n =>
    match cell.number?, c.op with
    | some m, op => .ok (op.holds (m.compare? n))
    -- A cell that is no number is unequal to every number, and in no order with it.
    | none, .eq => .ok false
    | none, .ne => .ok true
    | none, op => .error (.unordered op cell.kind c.literal.kind)

def selects (c : Condition) (row : Row) : Except QueryError Bool :=
  match row.get? c.column with
  | some cell => c.selectsCell cell
  | none => .error (.missingCell c.column)

/-- The rows that a condition selects, in order. -/
def filter (c : Condition) : List Row → Except QueryError (List Row)
  | [] => .ok []
  | row :: rest => do
    let selected ← c.selects row
    let others ← c.filter rest
    pure (if selected then row :: others else others)

end Condition

end DryRun
