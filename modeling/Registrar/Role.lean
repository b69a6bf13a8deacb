import Registrar.Kind

/-!
Roles and their levels. A caller sees and handles roles up to the caller's own level, and the
reserved roles cannot be deleted.
-/

namespace Registrar

open Json

structure Role where
  id : Option String := none
  version : Int := 0
  code : String := ""
  name : String := ""
  level : Int := 0
  description : Option String := none
  disabled : Bool := false
  createdBy : Option String := none
  createdAt : Option Instant := none
deriving DecidableEq, Repr

namespace Role

def schema : Schema := Schema.auditable.extend {
  entityType := "role"
  label := "Role"
  fields := [
    { Field.text "code" "Code" with
      column := some { nullable := false, isUnique := true, length := 64 }
      pattern := some "ROLE_[A-Z0-9_]+"
      tooltips := some "Upper case, prefixed with ROLE_"
      comparable := true },
    { Field.text "name" "Name" with
      column := some { nullable := false, length := 128 }, comparable := true },
    { Field.integer "aclType" "ACL type" with
      column := some { nullable := false }, comparable := true },
    { Field.text "description" "Description" with column := some { lob := true } },
    { Field.boolean "disabled" "Disabled" with
      column := some { nullable := false }, comparable := true }] }

def toValue (r : Role) : Value :=
  .ofPairs [
    ("id", .ofOption .text r.id),
    ("version", .int r.version),
    ("code", .text r.code),
    ("name", .text r.name),
    ("aclType", .int r.level),
    ("description", .ofOption .text r.description),
    ("disabled", .bool r.disabled),
    ("createdBy", .ofOption .text r.createdBy),
    ("createdAt", .ofOption (fun t => .text t.text) r.createdAt)]

def fieldNames : List String :=
  ["id", "version", "code", "name", "aclType", "description", "disabled", "createdBy", "createdAt"]

def ofFields? (fields : Fields) (level version : Int) : Option Role := do
  return {
    id := ← fields.optional? Value.text? "id"
    version
    code := ← fields.text? "code"
    name := ← fields.text? "name"
    level
    description := ← fields.optional? Value.text? "description"
    disabled := ← fields.bool? "disabled"
    createdBy := ← fields.optional? Value.text? "createdBy"
    createdAt := ← fields.optional? Value.instant? "createdAt" }

def ofValue (v : Value) : Except Unreadable Role := do
  let some fields := v.fields? fieldNames | .error .other
  let level ← fields.int32 "aclType"
  let version ← fields.int32 "version"
  match ofFields? fields level version with
  | some r => .ok r
  | none => .error .other

def kind : Kind String Role where
  schema := schema
  blank := {}
  id := id
  setId i r := { r with id := some i }
  version := version
  setVersion n r := { r with version := n }
  display := name
  stamp actor now r := { r with createdBy := some actor, createdAt := some now }
  encode := toValue
  decode := ofValue

def reservedCodes : List String := ["ROLE_ADMIN", "ROLE_ANONYMOUSLY"]

def isReserved (r : Role) : Bool := reservedCodes.contains r.code

def exceeds? (r : Role) (caller : Caller) : Option Refusal :=
  match caller.level with
  | some own => if own < r.level then some (.levelExceeded r.level own) else none
  | none => none

def policy : Policy Role where
  refuseCreate := exceeds?
  refuseUpdate := exceeds?
  refuseDelete r _ := if r.isReserved then some (.reservedCode r.code) else none
  scope f caller :=
    match caller.level with
    | some own => f.force ⟨.atMost, ["aclType"], [.int own]⟩
    | none => f

end Role
end Registrar
