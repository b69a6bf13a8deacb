import Registrar.Kind

/-!
Users, who belong to a department and are enabled or disabled. A user's code is the identifier of
the department; a caller with scopes handles users whose code starts with one of them.
-/

namespace Registrar

open Json

structure User where
  id : Option Int := none
  version : Int := 0
  signinid : String := ""
  nick : String := ""
  password : Option String := none
  email : Option String := none
  /-- The code that scopes are compared with. -/
  code : Option String := none
  level : Int := 0
  department : Option Reference := none
  enabled : Bool := false
  createdBy : Option String := none
  createdAt : Option Instant := none
deriving DecidableEq, Repr

namespace User

def schema : Schema := Schema.auditable.extend {
  entityType := "user"
  label := "User"
  fields := [
    { Field.text "signinid" "Sign-in ID" with
      column := some { nullable := false, isUnique := true, updatable := false, length := 64 }
      comparable := true },
    { Field.text "nick" "Nickname" with column := some { length := 64 }, comparable := true },
    { Field.text "password" "Password" with column := some { length := 128 }, bindExempt := true },
    { Field.text "email" "Email" with column := some { length := 128 }, isEmail := true },
    { Field.text "aclCode" "ACL code" with column := some { length := 64 }, bindExempt := true },
    { Field.integer "aclType" "ACL type" with comparable := true },
    { Field.reference "department" "Department" "department" with
      joinNullable := some false, comparable := true },
    { Field.boolean "enabled" "Enabled" with
      column := some { nullable := false }, comparable := true }] }

def toValue (u : User) : Value :=
  .ofPairs [
    ("id", .ofOption .int u.id),
    ("version", .int u.version),
    ("signinid", .text u.signinid),
    ("nick", .text u.nick),
    ("password", .ofOption .text u.password),
    ("email", .ofOption .text u.email),
    ("aclCode", .ofOption .text u.code),
    ("aclType", .int u.level),
    ("department", .ofOption Reference.toValue u.department),
    ("enabled", .bool u.enabled),
    ("createdBy", .ofOption .text u.createdBy),
    ("createdAt", .ofOption (fun t => .text t.text) u.createdAt)]

def fieldNames : List String :=
  ["id", "version", "signinid", "nick", "password", "email", "aclCode", "aclType", "department",
    "enabled", "createdBy", "createdAt"]

def ofFields? (fields : Fields) (level version : Int) : Option User := do
  return {
    id := ← fields.optional? Identifier.ofValue? "id"
    version
    signinid := ← fields.text? "signinid"
    nick := ← fields.text? "nick"
    password := ← fields.optional? Value.text? "password"
    email := ← fields.optional? Value.text? "email"
    code := ← fields.optional? Value.text? "aclCode"
    level
    department := ← fields.optional? Reference.read? "department"
    enabled := ← fields.bool? "enabled"
    createdBy := ← fields.optional? Value.text? "createdBy"
    createdAt := ← fields.optional? Value.instant? "createdAt" }

def ofValue (v : Value) : Except Unreadable User := do
  let some fields := v.fields? fieldNames | .error .other
  let level ← fields.int32 "aclType"
  let version ← fields.int32 "version"
  match ofFields? fields level version with
  | some u => .ok u
  | none => .error .other

def stateName (enabled : Bool) : String := if enabled then "enabled" else "disabled"

def kind : Kind Int User where
  schema := schema
  blank := {}
  id := id
  setId i u := { u with id := some i }
  version := version
  setVersion n u := { u with version := n }
  display u := if u.nick = "" then u.signinid else u.nick ++ " (" ++ u.signinid ++ ")"
  state u := some (stateName u.enabled)
  stamp actor now u := { u with createdBy := some actor, createdAt := some now }
  encode := toValue
  decode := ofValue

/-- Callers without scopes handle any user; others those with a code they cover, and new ones. -/
def permit (u : User) (caller : Caller) : Except Error Unit :=
  if kind.isNew u || !caller.isRestricted || u.code.any caller.covers then .ok ()
  else .error (.outsideScope u.signinid)

/-- Takes the code from the department, which has to be in the caller's scope. -/
def prepare (u : User) (caller : Caller) : Except Error User :=
  let code := u.department.map Reference.id
  let covered :=
    match code with
    | some code => caller.covers code
    | none => !caller.isRestricted
  if covered then .ok { u with code } else .error .departmentOutsideScope

def policy : Policy User where
  permit := permit
  scope f caller :=
    if caller.isRestricted then f.force ⟨.inScope, ["aclCode"], caller.scopes.map .text⟩ else f
  prepare := prepare
  stateLabel
    | "enabled" => "Enabled"
    | "disabled" => "Disabled"
    | other => other

end User
end Registrar
