import Registrar.Filter
import Registrar.Json.Record

/-!
The data form of filters.
-/

namespace Registrar

open Json

namespace Predicate

def toValue (p : Predicate) : Value :=
  .ofPairs [("match_type", .text p.test.code), ("properties", .list (p.properties.map .text)),
    ("values", .list p.values)]

def fieldNames : List String := ["match_type", "properties", "values"]

/-- Reads the data form; the values may be left out. -/
def read? (v : Value) : Option Predicate := do
  let fields ← v.fields? fieldNames <|> v.fields? (fieldNames.take 2)
  let test ← ((← fields "match_type").name?).bind Test.ofCode?
  let properties ← (← fields "properties") |> Value.listOf? Value.text?
  match fields "values" with
  | none => return ⟨test, properties, []⟩
  | some (.list values) => return ⟨test, properties, values⟩
  | some _ => none

end Predicate

def Filter.toValue (f : Filter) : Value :=
  .ofPairs [("filters", .list (f.client.map Predicate.toValue)),
    ("forced", .list (f.forced.map Predicate.toValue))]

end Registrar
