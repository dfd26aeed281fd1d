import Turtle.Number.Notation
import Turtle.Number.Reading
import Turtle.Text.Quoted

/-!
# Editor data

The editor hands the library untyped data: the value typed into a field, the kind chosen from a
menu, a layout read from a file. `Datum` is that data: nothing, a truth value, an integer, a
double, a text, a list or a record.

* `Datum.display` writes a datum the way error messages quote it: `None`, `True`, integers in
  decimal, doubles as `Float.shown`, texts as `Text.quoted`, `[a, b]`, `{'k': v}`.
* `Datum.typeName` is the name of its type in messages (`NoneType`, `str`, …).
* `Datum.asInt` turns editor input into an integer parameter: an integer stays, a truth value is
  0 or 1, a double is truncated, a text is read as integer text and else as decimal text and
  truncated; whatever has no integer value becomes 0.
-/

namespace Turtle

/-- Untyped data from the editor. -/
inductive Datum where
  /-- nothing -/
  | none
  /-- a truth value -/
  | bool (b : Bool)
  /-- an integer of any size -/
  | int (n : Int)
  /-- a double -/
  | float (x : Float)
  /-- a text -/
  | text (s : String)
  /-- a list of data -/
  | list (xs : List Datum)
  /-- a record of named data, in order -/
  | record (fields : List (String × Datum))
deriving Inhabited

namespace Datum

mutual

/-- A datum written as error messages quote it. -/
def display : Datum → String
  | .none => "None"
  | .bool b => if b then "True" else "False"
  | .int n => toString n
  | .float x => Float.shown x
  | .text s => Text.quoted s
  | .list xs => "[" ++ ", ".intercalate (displayAll xs) ++ "]"
  | .record fs => "\x7b" ++ ", ".intercalate (displayFields fs) ++ "\x7d"

/-- Each datum of a list, written. -/
def displayAll : List Datum → List String
  | [] => []
  | x :: xs => display x :: displayAll xs

/-- Each field of a record, written as its quoted name, a colon and its datum. -/
def displayFields : List (String × Datum) → List String
  | [] => []
  | (k, v) :: fs => (Text.quoted k ++ ": " ++ display v) :: displayFields fs

end

/-- The name of a datum's type in messages. -/
def typeName : Datum → String
  | .none => "NoneType"
  | .bool _ => "bool"
  | .int _ => "int"
  | .float _ => "float"
  | .text _ => "str"
  | .list _ => "list"
  | .record _ => "dict"

/-- Editor input as an integer parameter; input without an integer value gives 0. -/
def asInt : Datum → Int
  | .int n => n
  | .bool b => if b then 1 else 0
  | .float x => (Float.truncate x).toOption.getD 0
  | .text s =>
    match readInteger? s with
    | some n => n
    | Option.none => ((readDecimal? s).bind fun x => (Float.truncate x).toOption).getD 0
  | _ => 0

end Datum

end Turtle
