import DryRun.Query.Condition

/-!
# Grids

A grid shows rows as aligned columns between bars. Every column is as wide as its widest entry, its
name included, and never narrower than `minimumWidth`.
-/

set_option autoImplicit false

namespace DryRun.Grid

def minimumWidth : Nat := 8

/-- A column as it is shown: its name and the texts of its cells from top to bottom. -/
structure Column where
  name : Text
  texts : List Text
  deriving DecidableEq, Repr

def Column.width (column : Column) : Nat :=
  column.texts.foldl (fun width s => max width s.length) (max column.name.length minimumWidth)

/-- The text of a cell of a row. -/
def cellText (name : Text) (row : Row) : Except QueryError Text :=
  match row.get? name with
  | some cell => cell.text?
  | none => .error (.missingCell name)

/-- The column of that name over some rows. -/
def column (rows : List Row) (name : Text) : Except QueryError Column := do
  pure ⟨name, ← rows.mapM (cellText name)⟩

def barred (entries : List Text) : Text :=
  "| ".toList ++ Text.join " | ".toList entries ++ " |".toList

/-- The line above and below the header and at the end. -/
def divider (columns : List Column) : Text :=
  "+-".toList ++ Text.join "-+-".toList (columns.map fun c => List.replicate c.width '-') ++
    "-+".toList

def header (columns : List Column) : Text :=
  barred (columns.map fun c => Text.padRight ' ' c.width c.name)

/-- The line of the row with the given number. -/
def rowLine (columns : List Column) (index : Nat) : Text :=
  barred (columns.map fun c => Text.padRight ' ' c.width (c.texts.getD index []))

/-- All lines of a grid with the given number of rows, from the first divider to the last. -/
def lines (columns : List Column) (count : Nat) : List Text :=
  [divider columns, header columns, divider columns] ++ (List.range count).map (rowLine columns) ++
    [divider columns]

/-- What is answered to a selection: a line that counts the rows, the grid, and the count again. -/
def answer (names : List Text) (rows : List Row) : Except QueryError (List Text) := do
  let columns ← names.mapM (column rows)
  let count := Nat.toDigits 10 rows.length
  pure (["✔ Query OK, ".toList ++ count ++ " rows retrieved".toList, []] ++
    lines columns rows.length ++ ['(' :: count ++ " rows)".toList])

end DryRun.Grid
