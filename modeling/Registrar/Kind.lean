import Registrar.Error
import Registrar.Filter
import Registrar.Identifier
import Registrar.Instant
import Registrar.Json.Record
import Registrar.Caller
import Registrar.Schema

/-!
Kinds of records. A kind says how its records carry their identifier and version and what their data
form is; its policy says who may do what with them.
-/

namespace Registrar

open Json

/-- How records of type `E` with identifiers of type `I` are handled. -/
structure Kind (I E : Type) where
  schema : Schema
  /-- A record before any value is given. -/
  blank : E
  id : E → Option I
  setId : I → E → E
  version : E → Int
  setVersion : Int → E → E
  /-- What the record is called in lists. -/
  display : E → String
  /-- The state that revisions keep. -/
  state : E → Option String := fun _ => none
  /-- Notes who creates the record, and when. -/
  stamp : String → Instant → E → E := fun _ _ e => e
  encode : E → Value
  decode : Value → Except Unreadable E

namespace Kind

variable {I E : Type} (k : Kind I E)

def entityType : String := k.schema.entityType

def label : String := k.schema.label

/-- The record as the data form of what is laid over it reads. -/
def overlay (entries : List (String × Value)) (e : E) : Except Unreadable E :=
  match k.encode e with
  | .object own => k.decode (.object (Entries.putAll own entries))
  | v => k.decode v

variable [Identifier I]

def idText? (e : E) : Option String := (k.id e).map Identifier.text

/-- The record has no identifier, or one that stands for none. -/
def isNew (e : E) : Bool := (k.id e).all Identifier.isUnset

end Kind

/-- Who may do what with the records of a kind. The defaults allow everything. -/
structure Policy (E : Type) where
  permit : E → Caller → Except Error Unit := fun _ _ => .ok ()
  refuseCreate : E → Caller → Option Refusal := fun _ _ => none
  refuseUpdate : E → Caller → Option Refusal := fun _ _ => none
  refuseDelete : E → Caller → Option Refusal := fun _ _ => none
  /-- Narrows a client's filter to the caller's scope. -/
  scope : Filter → Caller → Filter := fun f _ => f
  /-- Settles what follows from other fields before a record is saved. -/
  prepare : E → Caller → Except Error E := fun e _ => .ok e
  /-- The words for a state. -/
  stateLabel : String → String := id

def Policy.lenient {E : Type} : Policy E := {}

/-- Points to a record of another kind by the text of its identifier. -/
structure Reference where
  id : String
deriving DecidableEq, Repr

namespace Reference

def toValue (r : Reference) : Value := .ofPairs [("id", .text r.id)]

def read? (v : Value) : Option Reference := do
  let fields ← v.fields? ["id"]
  return ⟨← fields.text? "id"⟩

end Reference

namespace Json

def Value.instant? (v : Value) : Option Instant := v.text?.bind Instant.read?

def Fields.int32 (fields : Fields) (name : String) : Except Unreadable Int :=
  match fields name with
  | some (.int n) => if Number.fitsInt32 n then .ok n else .error (.integerOutOfRange n)
  | some .null => .error .nullInteger
  | _ => .error .other

end Json
end Registrar
