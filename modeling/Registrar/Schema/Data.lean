import Registrar.Json.Value
import Registrar.Schema

/-!
The data form of schemas, as clients see it: one layer with all its declarations, unset ones null.
-/

namespace Registrar

open Json

def ValueType.name : ValueType → String
  | .text => "text"
  | .boolean => "boolean"
  | .integer => "integer"
  | .decimal => "decimal"
  | .date => "date"

def FieldKind.toValue : FieldKind → Value
  | .value type => .ofPairs [("kind", .text "value"), ("value_type", .text type.name)]
  | .reference target => .ofPairs [("kind", .text "reference"), ("target", .text target)]
  | .collection => .ofPairs [("kind", .text "collection")]

def DateDisplay.name : DateDisplay → String
  | .dateOnly => "date_only"
  | .dateTime => "date_time"

def Column.toValue (c : Column) : Value :=
  .ofPairs [("nullable", .bool c.nullable), ("unique", .bool c.isUnique),
    ("updatable", .bool c.updatable), ("length", .int c.length), ("lob", .bool c.lob)]

def SizeBounds.toValue (s : SizeBounds) : Value :=
  .ofPairs [("min", .int s.least), ("max", .int s.most)]

def Field.toValue (f : Field) : Value :=
  .ofPairs [
    ("name", .text f.name),
    ("label", .text f.label),
    ("kind", f.kind.toValue),
    ("column", .ofOption Column.toValue f.column),
    ("join_column", .ofOption .bool f.joinNullable),
    ("date_display", .ofOption (fun d => .text d.name) f.dateDisplay),
    ("size", .ofOption SizeBounds.toValue f.size),
    ("email", .bool f.isEmail),
    ("pattern", .ofOption .text f.pattern),
    ("comparable", .bool f.comparable),
    ("bind_exempt", .bool f.bindExempt),
    ("transient", .bool f.isTransient),
    ("tooltips", .ofOption .text f.tooltips)]

def Schema.toValue (s : Schema) : Value :=
  .ofPairs [("entity_type", .text s.entityType), ("label", .text s.label),
    ("fields", .list (s.own.fields.map Field.toValue))]

end Registrar
