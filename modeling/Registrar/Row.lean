import Registrar.Json.Printer
import Registrar.Number.Numeral
import Registrar.Text.Blank
import Registrar.Text.Pieces

/-!
Rows are records in data form. A dotted path names a value inside a row, every value has a text
form, and two values compare as numbers if both are numbers or texts of numbers, else by their text
forms. Main statement: comparing in the other direction reverses the answer.
-/

namespace Registrar.Row

open Json Number

def descend : List String → Value → Option Value
  | [], v => some v
  | key :: r, v =>
    match v.field? key with
    | some inner => descend r inner
    | none => none

/-- The value at a path; null counts as missing. -/
def extract (row : Value) (path : String) : Option Value :=
  match descend (Text.split '.' path) row with
  | some v => if v.isNull then none else some v
  | none => none

mutual

/-- The text form of a value. An object with an `id` shows that alone. -/
def text : Value → String
  | .null => ""
  | .bool b => if b then "true" else "false"
  | .int n => intText n
  | .float x => x.text
  | .text s => s
  | .list items => (Value.list items).print
  | .object entries =>
    match idText? entries with
    | some s => s
    | none => (Value.object entries).print

def idText? : List (String × Value) → Option String
  | [] => none
  | (key, v) :: r => if key = "id" then some (text v) else idText? r

end

def textAt (row : Value) (path : String) : String := (extract row path).elim "" text

/-- Numbers, and texts that hold one. -/
def number? : Value → Option Double
  | .int n => some (.ofInt n)
  | .float x => some x
  | .text s => readDouble? (Text.trimmed s.toList)
  | _ => none

/-- The order of two values; nothing if one is a text for "not a number" and the other a number or
such a text too. -/
def compare? (left right : Value) : Option Ordering :=
  match number? left, number? right with
  | some a, some b => a.compare? b
  | _, _ => some (compare (text left) (text right))

theorem compare?_swap (left right : Value) :
    compare? right left = (compare? left right).map Ordering.swap := by
  have h : compare (text right) (text left) = (compare (text left) (text right)).swap :=
    Std.OrientedCmp.eq_swap
  unfold compare?
  cases number? left with
  | none => cases number? right <;> simp [h]
  | some a =>
    cases number? right with
    | none => simp [h]
    | some b => exact Double.compare?_swap a b

end Registrar.Row
