import Registrar.Error
import Registrar.Revision
import Registrar.Row
import Registrar.Schema

/-!
Comparing two revisions of a record, field by field. A reference is shown as the name of the record
it points to, as far as one can be found.
-/

namespace Registrar

open Json

/-- Finds what records are called. -/
structure Resolver where
  /-- The name of a record, which has to be there. -/
  display : String → String → Except Error String
  /-- The name that is left of a record. -/
  leftover : String → String → Except Error (Option String)

/-- One field in two revisions; a side without a revision is empty. -/
structure ComparedField where
  field : String
  label : String
  left : Option String
  right : Option String
deriving DecidableEq, Repr

def ComparedField.toValue (c : ComparedField) : Value :=
  .ofPairs ([("field", .text c.field), ("name", .text c.label)] ++
    c.left.toList.map (fun text => ("revLeftPropertyValue", .text text)) ++
    c.right.toList.map (fun text => ("revRightPropertyValue", .text text)))

structure Comparison where
  key : String
  leftNumber : Int
  rightNumber : Int
  left : Option Revision
  right : Option Revision
  fields : List ComparedField
deriving Repr

/-- Shown for a record that cannot be found. -/
def notAvailable : String := "N/A"

/-- The name of a record. What a missing record is known by may lead to a name that is left. -/
def Resolver.render (resolver : Resolver) (entityType key : String) : String :=
  match resolver.display entityType key with
  | .ok text => text
  | .error (.stale staleType staleKey) =>
    match resolver.leftover staleType staleKey with
    | .ok (some text) => text
    | _ => notAvailable
  | .error _ => notAvailable

/-- The key in the data form of a reference, unless it is empty. -/
def referenceKey? (v : Value) : Option String :=
  let key :=
    match v with
    | .object entries => (Entries.get? "id" entries).map Row.text
    | .text _ | .int _ | .float _ => some (Row.text v)
    | _ => none
  key.filter fun key => key ≠ ""

namespace Comparison

def fieldText (resolver : Resolver) (f : Field) (content : Value) : String :=
  let v := (content.field? f.name).getD .null
  if v.isNull then ""
  else
    match f.target? with
    | some target => ((referenceKey? v).map (resolver.render target)).getD ""
    | none => Row.text v

def rows (resolver : Resolver) (s : Schema) (left right : Option Revision) : List ComparedField :=
  s.comparable.map fun f => {
    field := f.name
    label := f.label
    left := left.map fun r => fieldText resolver f r.content
    right := right.map fun r => fieldText resolver f r.content }

/-- Compares the revisions with two numbers, as far as the trail has them. -/
def ofTrail (resolver : Resolver) (s : Schema) (key : String) (trail : List Revision)
    (leftNumber rightNumber : Int) : Comparison :=
  let left := trail.find? fun r => r.number == leftNumber
  let right := trail.find? fun r => r.number == rightNumber
  { key, leftNumber, rightNumber, left, right, fields := rows resolver s left right }

def toValue (c : Comparison) : Value :=
  .ofPairs ([
    ("entityId", .text c.key),
    ("revLeft", .int c.leftNumber),
    ("revRight", .int c.rightNumber),
    ("rows", .list (c.fields.map ComparedField.toValue))] ++
    c.left.toList.map (fun r => ("left", r.toValue)) ++
    c.right.toList.map (fun r => ("right", r.toValue)))

end Comparison
end Registrar
