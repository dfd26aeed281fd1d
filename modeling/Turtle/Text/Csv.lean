import Turtle.Number.Notation

/-!
# Comma-separated tables

A table is written one row a line, each line ended by a newline. A field is quoted when it holds
a comma, a double quote or a newline (the line end; a carriage return alone is written as it is),
and a double quote inside a quoted field is doubled.
Cells are written as a data table writes them: integers in decimal, doubles in their shortest
round-trip form with a missing value (NaN) left empty, and truth values as `True` and `False`.
-/

namespace Turtle

/-- A value in a table cell. -/
inductive Cell where
  | text (s : String)
  | int (n : Int)
  | float (x : Float)
  | bool (b : Bool)

/-- The text of a cell. -/
def Cell.shown : Cell → String
  | .text s => s
  | .int n => toString n
  | .float x => if x.isNaN then "" else Float.shown x
  | .bool b => if b then "True" else "False"

namespace Csv

/-- The field has to be quoted. -/
def needsQuotes (s : String) : Bool :=
  s.any fun c => c == ',' || c == '\x22' || c == '\n'

/-- A field as written in a line. -/
def field (s : String) : String :=
  if needsQuotes s then "\"" ++ s.replace "\"" "\"\"" ++ "\"" else s

/-- A line of fields, without its newline. -/
def line (fields : List String) : String := ",".intercalate (fields.map field)

/-- A table with a header line, every line ended by a newline. -/
def table (header : List String) (rows : List (List Cell)) : String :=
  String.join ((header :: rows.map (·.map Cell.shown)).map fun r => line r ++ "\n")

end Csv

end Turtle
