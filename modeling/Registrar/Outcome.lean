import Registrar.Error
import Registrar.Json.Record

/-!
Outcomes: the envelope in which every changing operation answers.
-/

namespace Registrar

open Json

inductive OutcomeType where
  | success
  | warning
  | failure
deriving DecidableEq, Repr

def OutcomeType.name : OutcomeType → String
  | .success => "success"
  | .warning => "warning"
  | .failure => "failure"

def OutcomeType.ofName? (name : String) : Option OutcomeType :=
  [success, warning, failure].find? fun t => t.name == name

structure Outcome where
  type : OutcomeType
  message : String
  data : Option Value := none
  /-- Messages of single failures, by record. -/
  errors : Option (List (String × String)) := none
deriving Repr

namespace Outcome

def success (message : String) (data : Option Value := none) : Outcome :=
  { type := .success, message, data }

def ofError (e : Error) : Outcome := { type := .failure, message := e.message }

def errorCount (o : Outcome) : Nat := (o.errors.map List.length).getD 0

def toValue (o : Outcome) : Value :=
  .ofPairs ([("type", .text o.type.name), ("message", .text o.message)] ++
    o.data.toList.map (fun data => ("data", data)) ++
    o.errors.toList.map fun errors =>
      ("errors", .object (errors.map fun (key, text) => (key, .text text))))

def read? (v : Value) : Option Outcome := do
  let fields ← v.fields? ["type", "message", "data", "errors"]
  return {
    type := ← ((← fields "type").name?).bind OutcomeType.ofName?
    message := ← fields.text? "message"
    data := ← fields.optional? some "data"
    errors := ← fields.optional? (Value.entriesOf? Value.text?) "errors" }

end Outcome
end Registrar
