import DryRun.Query.Grid
import DryRun.Query.Sorting
import DryRun.Query.Statement

/-!
# Tables and the answers to queries

A table answers a query with lines of text. Only a selection looks at the rows; the other commands
are acknowledged and change nothing, and anything else is a syntax error. A condition or an order
on a column that the table does not have is ignored.
-/

set_option autoImplicit false

namespace DryRun

/-- A table. -/
structure Table where
  columns : List Text
  rows : List Row

namespace Table

/-- The table with the given rows; the first row names the columns. -/
def ofRows (rows : List Row) : Table := ⟨(rows.head?.getD []).names, rows⟩

def user (id : Int) (name role : String) (active age : Int) : Row :=
  [("id".toList, .int id), ("name".toList, .text name.toList), ("role".toList, .text role.toList),
   ("active".toList, .int active), ("age".toList, .int age)]

def users : Table :=
  ofRows [user 1 "Alice" "Admin" 1 30, user 2 "Bob" "User" 0 25, user 3 "Charlie" "User" 1 35,
    user 4 "David" "Guest" 1 20]

/-- The table whose rows pair the column names with cells from the left; the built-in one if there
are no rows. -/
def ofCells (columns : List Text) (rows : List (List Cell)) : Table :=
  if rows.isEmpty then users
  else ofRows (rows.map fun cells => Record.ofList (columns.zip cells))

/-- The rows that meet all conditions on columns of the table. -/
def filterRows (columns : List Text) : List Condition → List Row → Except QueryError (List Row)
  | [], rows => .ok rows
  | c :: rest, rows =>
    if columns.contains c.column then do
      let rows ← c.filter rows
      filterRows columns rest rows
    else filterRows columns rest rows

/-- The cell by which a row is ordered: texts in lower case. -/
def sortKey (column : Text) (row : Row) : Except QueryError (Cell × Row) :=
  match row.get? column with
  | some (.text s) => .ok (.text (Text.lower s), row)
  | some cell => .ok (cell, row)
  | none => .error (.missingCell column)

/-- The rows in the order that a selection asks for. -/
def sortRows (columns : List Text) (order : Option SortOrder) (rows : List Row) :
    Except QueryError (List Row) :=
  match order with
  | none => .ok rows
  | some order =>
    if columns.contains order.column then do
      let keyed ← rows.mapM (sortKey order.column)
      let before := fun (a b : Cell × Row) => a.1.precedes b.1
      let sorted ←
        if order.descending then Sorting.sortDescending before keyed
        else Sorting.sort before keyed
      pure (sorted.map Prod.snd)
    else .ok rows

def limitRows (limit : Option (List Nat)) (rows : List Row) : Except QueryError (List Row) :=
  match limit with
  | none => .ok rows
  | some digits =>
    if Numeral.digitLimit < digits.length then .error (.longNumeral digits.length)
    else .ok (rows.take (Numeral.value digits))

/-- The columns that a selection shows, in the order of the table. -/
def shownColumns (columns : List Text) (named : Option (List Text)) : List Text :=
  match named with
  | none => columns
  | some names => columns.filter names.contains

def select (t : Table) (s : Selection) : Except QueryError (List Text) := do
  let rows ← filterRows t.columns s.conditions t.rows
  let rows ← sortRows t.columns s.order rows
  let rows ← limitRows s.limit rows
  Grid.answer (shownColumns t.columns s.columns) rows

def run (t : Table) : Statement → Except QueryError (List Text)
  | .select s => t.select s
  | .insert | .delete => .ok ["✔ Query OK, 1 row affected".toList]
  | .update => .ok ["✔ Query OK, 1 row affected, 1 warning".toList]
  | .unknown word =>
    .ok ["⚠ Syntax Error: Unknown command starting at \x22".toList ++ word ++ ['\x22']]

def answer (t : Table) (query : Text) : Except QueryError (List Text) :=
  t.run (Statement.ofText query)

end Table

end DryRun
