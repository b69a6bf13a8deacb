import Registrar.Instant
import Registrar.Json.Record

/-!
Revisions: what was done to a record, when, by whom, and the record's content behind it.
-/

namespace Registrar

open Json

inductive RevisionType where
  | add
  | modify
  | delete
deriving DecidableEq, Repr

namespace RevisionType

def name : RevisionType → String
  | .add => "ADD"
  | .modify => "MODIFY"
  | .delete => "DELETE"

def ofName? (name : String) : Option RevisionType :=
  [add, modify, delete].find? fun t => t.name == name

end RevisionType

/-- Who changes records, and through which operation. -/
structure Author where
  actor : String
  event : String
deriving DecidableEq, Repr

structure Revision where
  number : Int
  type : RevisionType
  time : Instant
  actor : String
  event : Option String
  entityType : String
  entityKey : String
  oldState : Option String
  newState : Option String
  /-- The labels of the two states, once they have been looked up. -/
  oldStateLabel : Option String := none
  newStateLabel : Option String := none
  display : String
  content : Value
deriving Repr

namespace Revision

def toValue (r : Revision) : Value :=
  let label (name : String) (text : Option String) : List (String × Value) :=
    text.toList.map fun text => (name, .text text)
  .ofPairs ([
    ("rev", .int r.number),
    ("revisionType", .text r.type.name),
    ("timestamp", .text r.time.text),
    ("actor", .text r.actor),
    ("operationEvent", .ofOption .text r.event),
    ("entityType", .text r.entityType),
    ("entityId", .text r.entityKey),
    ("oldState", .ofOption .text r.oldState),
    ("newState", .ofOption .text r.newState),
    ("display", .text r.display),
    ("entity", r.content)] ++
    label "oldStateDisplay" r.oldStateLabel ++ label "newStateDisplay" r.newStateLabel)

def fieldNames : List String :=
  ["rev", "revisionType", "timestamp", "actor", "operationEvent", "entityType", "entityId",
    "oldState", "newState", "oldStateDisplay", "newStateDisplay", "display", "entity"]

def read? (v : Value) : Option Revision := do
  let fields ← v.fields? fieldNames
  return {
    number := ← fields.int? Number.fitsInt64 "rev"
    type := ← ((← fields "revisionType").name?).bind RevisionType.ofName?
    time := ← (← fields.text? "timestamp") |> Instant.read?
    actor := ← fields.text? "actor"
    event := ← fields.optional? Value.text? "operationEvent"
    entityType := ← fields.text? "entityType"
    entityKey := ← fields.text? "entityId"
    oldState := ← fields.optional? Value.text? "oldState"
    newState := ← fields.optional? Value.text? "newState"
    oldStateLabel := ← fields.optional? Value.text? "oldStateDisplay"
    newStateLabel := ← fields.optional? Value.text? "newStateDisplay"
    display := ← fields.text? "display"
    content := ← fields "entity" }

end Revision
end Registrar
