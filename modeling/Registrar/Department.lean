import Registrar.Kind

/-!
Departments, a forest of units with codes. A new department takes its code as identifier, and lists
without a search show the roots only.
-/

namespace Registrar

open Json

structure Department where
  id : Option String := none
  version : Int := 0
  code : String := ""
  name : String := ""
  parent : Option Reference := none
  description : Option String := none
  createdBy : Option String := none
  createdAt : Option Instant := none
deriving DecidableEq, Repr

namespace Department

def schema : Schema := Schema.auditable.extend {
  entityType := "department"
  label := "Department"
  fields := [
    { Field.text "code" "Code" with
      column := some { nullable := false, isUnique := true, length := 32 }, comparable := true },
    { Field.text "name" "Name" with
      column := some { nullable := false, length := 128 }, comparable := true },
    { Field.reference "parent" "Parent department" "department" with
      joinNullable := some true, comparable := true },
    { Field.text "description" "Description" with column := some { lob := true } }] }

def toValue (d : Department) : Value :=
  .ofPairs [
    ("id", .ofOption .text d.id),
    ("version", .int d.version),
    ("code", .text d.code),
    ("name", .text d.name),
    ("parent", .ofOption Reference.toValue d.parent),
    ("description", .ofOption .text d.description),
    ("createdBy", .ofOption .text d.createdBy),
    ("createdAt", .ofOption (fun t => .text t.text) d.createdAt)]

def fieldNames : List String :=
  ["id", "version", "code", "name", "parent", "description", "createdBy", "createdAt"]

def ofFields? (fields : Fields) (version : Int) : Option Department := do
  return {
    id := ← fields.optional? Value.text? "id"
    version
    code := ← fields.text? "code"
    name := ← fields.text? "name"
    parent := ← fields.optional? Reference.read? "parent"
    description := ← fields.optional? Value.text? "description"
    createdBy := ← fields.optional? Value.text? "createdBy"
    createdAt := ← fields.optional? Value.instant? "createdAt" }

def ofValue (v : Value) : Except Unreadable Department := do
  let some fields := v.fields? fieldNames | .error .other
  let version ← fields.int32 "version"
  match ofFields? fields version with
  | some d => .ok d
  | none => .error .other

def kind : Kind String Department where
  schema := schema
  blank := {}
  id := id
  setId i d := { d with id := some i }
  version := version
  setVersion n d := { d with version := n }
  display d := d.code ++ " " ++ d.name
  stamp actor now d := { d with createdBy := some actor, createdAt := some now }
  encode := toValue
  decode := ofValue

def isOwnParent (d : Department) : Bool := d.id.isSome && d.parent.map Reference.id == d.id

def policy : Policy Department where
  scope f _ := if f.isOpen then f.force (.missing "parent") else f
  prepare d _ := .ok (if kind.isNew d && d.code != "" then { d with id := some d.code } else d)
  refuseUpdate d _ := if d.isOwnParent then some .ownParent else none

end Department
end Registrar
