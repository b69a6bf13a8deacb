import Registrar.Kind
import Registrar.Params

/-!
Binding: request values laid over a record. A field takes the first value under its name, an
association the one under its name with `.id`; values that do not fit the field's type are refused.
Identifiers, collections, transient and exempt fields take none, and fixed columns none once the
record exists.
-/

namespace Registrar

open Json

/-- The value in a trimmed request text for a boolean. -/
def readFlag? (text : String) : Option Bool :=
  let text := Text.lowerAscii text
  if ["true", "on", "1", "yes"].contains text then some true
  else if ["false", "off", "0", "no"].contains text then some false
  else none

/-- The value in a trimmed request text that is not blank. -/
def ValueType.read? (type : ValueType) (text : String) : Option Value :=
  match type with
  | .text | .date => some (.text text)
  | .boolean => (readFlag? text).map .bool
  | .integer => (Number.readSigned Number.maxInt64 text.toList).toOption.map .int
  | .decimal =>
    match Number.readDouble? text.toList with
    | some x => if x.isFinite then some (.float x) else none
    | none => none

namespace Field

/-- The value a request text gives to a field of a type. A blank text clears the field. -/
def convert (f : Field) (type : ValueType) (raw : String) : Except Error Value :=
  let text := Text.trim raw
  match type with
  | .text => .ok (.text raw)
  | .boolean => if text = "" then .ok (.bool false) else read text
  | _ => if text = "" then .ok .null else read text
where
  read (text : String) : Except Error Value :=
    match type.read? text with
    | some v => .ok v
    | none => .error (.invalidValue f.label raw)

def parameter (f : Field) : String := if f.isReference then f.name ++ ".id" else f.name

/-- The value that the parameters give to the field, if any does. -/
def requested (f : Field) (params : Params) : Except Error (Option Value) :=
  match params.get? f.parameter with
  | none => .ok none
  | some raw =>
    match f.kind with
    | .value type => (f.convert type raw).map some
    | .reference _ =>
      let id := Text.trim raw
      .ok (some (if id = "" then .null else Reference.toValue ⟨id⟩))
    | .collection => .ok none

end Field

/-- The field takes request values, in a new record or in an existing one. -/
def Schema.binds (s : Schema) (isNew : Bool) (f : Field) : Bool :=
  f.name != "id" && !f.isTransient && !f.isCollection && !s.exempt.contains f.name &&
    (isNew || !f.isFixed)

def Schema.bindable (s : Schema) (isNew : Bool) : List Field := s.fields.filter (s.binds isNew)

/-- The values that the parameters give to the fields, up to the first that does not fit. -/
def requestedValues (params : Params) : List Field → Except Error (List (String × Value))
  | [] => .ok []
  | f :: r =>
    match f.requested params with
    | .error e => .error e
    | .ok value =>
      match requestedValues params r with
      | .error e => .error e
      | .ok values => .ok (value.toList.map (fun v => (f.name, v)) ++ values)

namespace Kind

variable {I E : Type} [Identifier I] (k : Kind I E)

/-- The record with the request's values in it; without any it stays as it is. -/
def bind (params : Params) (e : E) : Except Error E :=
  match k.encode e with
  | .object entries =>
    match requestedValues params (k.schema.bindable (k.isNew e)) with
    | .error fault => .error fault
    | .ok [] => .ok e
    | .ok values =>
      match k.decode (.object (Entries.putAll entries values)) with
      | .ok bound => .ok bound
      | .error fault => .error (.unreadable k.label fault)
  | _ => .error (.unbindable k.entityType)

end Kind
end Registrar
