import Registrar.Kind

/-!
Freeform records: an identifier, a version, and any other entries. What a schema declares about them
is not tied to a type, so one kind of desk serves records of any design.
-/

namespace Registrar

open Json

structure Freeform (I : Type) where
  id : Option I
  version : Int
  entries : List (String × Value)
deriving Repr

namespace Freeform

/-- How the records of one freeform kind look. -/
structure Design where
  schema : Schema
  /-- The entries of a new record. -/
  defaults : List (String × Value) := []
  /-- The entry that names a record in lists; without one its identifier does. -/
  displayField : Option String := none
  stateField : Option String := none
  /-- The data form is a mere text and shows nothing of the record. -/
  isOpaque : Bool := false

variable {I : Type} [Identifier I]

/-- The entries without those that have a place of their own. -/
def rest (entries : List (String × Value)) : List (String × Value) :=
  entries.filter fun e => e.1 != "id" && e.1 != "version"

def toValue (r : Freeform I) : Value :=
  .object (Entries.put "id" (.ofOption Identifier.toValue r.id)
    (Entries.put "version" (.int r.version) r.entries))

def textIn? (r : Freeform I) (name : String) : Option String :=
  (Entries.get? name r.entries).bind Value.text?

def ofValue (v : Value) : Except Unreadable (Freeform I) := do
  let .object entries := v | .error .other
  let fields : Fields := fun name => Entries.get? name entries
  let some id := fields.optional? Identifier.ofValue? "id" | .error .other
  let version ← fields.int32 "version"
  return { id, version, entries := rest entries }

def kind (design : Design) : Kind I (Freeform I) where
  schema := design.schema
  blank := { id := none, version := 0, entries := rest design.defaults }
  id := id
  setId i r := { r with id := some i }
  version := version
  setVersion n r := { r with version := n }
  display r :=
    match design.displayField with
    | some name => (r.textIn? name).getD ""
    | none => r.id.elim "" Identifier.text
  state r := design.stateField.bind r.textIn?
  encode r := if design.isOpaque then .text design.schema.entityType else r.toValue
  decode := ofValue

end Freeform
end Registrar
