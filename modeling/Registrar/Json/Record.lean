import Registrar.Json.Value
import Registrar.Number.Digits

/-!
Records in data form: named fields of an object, or a list with the fields in order. Unknown names
are ignored; null and a missing name both mean that an optional field is unset.
-/

namespace Registrar.Json

abbrev Fields := String → Option Value

/-- The fields of a record with the given names. In a list every field has to be there. -/
def Value.fields? (names : List String) : Value → Option Fields
  | .object entries => some fun name => Entries.get? name entries
  | .list items =>
    if items.length = names.length then
      some fun name => ((names.zip items).find? fun e => e.1 == name).map (·.2)
    else none
  | _ => none

namespace Fields

def text? (fields : Fields) (name : String) : Option String := (fields name).bind Value.text?

def bool? (fields : Fields) (name : String) : Option Bool :=
  match fields name with
  | some (.bool b) => some b
  | _ => none

/-- A whole number in the range that `fits` describes. -/
def int? (fits : Int → Bool) (fields : Fields) (name : String) : Option Int :=
  match fields name with
  | some (.int n) => if fits n then some n else none
  | _ => none

/-- An optional field, which may be unset or null. -/
def optional? {α : Type} (read : Value → Option α) (fields : Fields) (name : String) :
    Option (Option α) :=
  match fields name with
  | none => some none
  | some v => if v.isNull then some none else (read v).map some

end Fields

/-- One of several names: a text, or an object with the name as its only key and no content. -/
def Value.name? : Value → Option String
  | .text s => some s
  | .object [(key, .null)] => some key
  | _ => none

/-- The elements of a list, each of which has to read. -/
def Value.listOf? {α : Type} (read : Value → Option α) : Value → Option (List α)
  | .list items => items.mapM read
  | _ => none

/-- The entries of an object, each of whose values has to read. -/
def Value.entriesOf? {α : Type} (read : Value → Option α) : Value → Option (List (String × α))
  | .object entries => entries.mapM fun (key, v) => (read v).map fun a => (key, a)
  | _ => none

end Registrar.Json
