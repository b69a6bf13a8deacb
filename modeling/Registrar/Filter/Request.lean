import Registrar.Filter
import Registrar.Params
import Registrar.Text.Blank

/-!
Predicates in request parameters. The key is the test's code, an underscore and the properties with
`_OR_` between them; the value is one text, or texts between commas for tests on several values.
-/

namespace Registrar

open Json

/-- The values in a request value, which has no blanks at its ends. -/
def Test.valuesOf (test : Test) (raw : String) : List Value :=
  match test with
  | .present | .missing => []
  | .oneOf | .between | .inScope =>
    (((Text.split ',' raw).map Text.trim).filter fun v => v ≠ "").map Value.text
  | _ => [.text raw]

def Predicate.propertiesOf (names : List Char) : List String :=
  ((Text.piecesBetween 0 "_OR_".toList names).map fun p => String.ofList (Text.trimmed p)).filter
    fun p => p ≠ ""

/-- The predicate of one parameter. Without a value only the tests that need none count. -/
def Predicate.ofParam? (key raw : String) : Option Predicate :=
  match Text.cut? '_' key.toList with
  | none => none
  | some (code, names) =>
    match Test.ofCode? (String.ofList code) with
    | none => none
    | some test =>
      let properties := propertiesOf names
      let raw := Text.trim raw
      if properties.isEmpty || (test.takesValue && raw == "") then none
      else some ⟨test, properties, test.valuesOf raw⟩

def Filter.ofParams (params : Params) : Filter where
  client := params.pairs.filterMap fun (key, value) => Predicate.ofParam? key value

end Registrar
