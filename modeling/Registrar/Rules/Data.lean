import Registrar.Json.Value
import Registrar.Rules

/-!
The data form of rules: of each field's constraints only those that are set.
-/

namespace Registrar

open Json

def Constraints.toValue (c : Constraints) : Value :=
  let flag (name : String) (b : Bool) : List (String × Value) :=
    if b then [(name, .bool true)] else []
  let count (name : String) (n : Option Nat) : List (String × Value) :=
    n.toList.map fun (n : Nat) => (name, .int n)
  .ofPairs (
    flag "required" c.required ++ flag "unique" c.isUnique ++ flag "readonly" c.isReadonly ++
    count "maxlength" c.maxLength ++ count "minlength" c.minLength ++
    flag "date" c.isDate ++ flag "timestamp" c.isTimestamp ++ flag "number" c.isNumber ++
    flag "integer" c.isInteger ++ flag "email" c.isEmail ++
    c.pattern.toList.map (fun p => ("regex", .text p.source)) ++
    c.tooltips.toList.map (fun t => ("tooltips", .text t)))

def RuleSet.toValue (rules : RuleSet) : Value :=
  .object (rules.map fun (name, c) => (name, c.toValue))

end Registrar
