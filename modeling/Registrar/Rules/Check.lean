import Registrar.Error
import Registrar.Row
import Registrar.Rules

/-!
Checking a record against its rules. Fields are taken in the order of their names; a blank value is
checked for being required only.
-/

namespace Registrar

open Json

/-- One `@` at least, something in front of the first one, and behind it a dot, neither first nor
last. -/
def looksLikeEmail (text : String) : Bool :=
  match Text.cut? '@' text.toList with
  | some (user, domain) =>
    !user.isEmpty && domain.contains '.' && domain.head? != some '.' && domain.getLast? != some '.'
  | none => false

namespace Constraints

/-- What is wrong with a value that is not blank. Its characters are counted in a word of 32 bits. -/
def violations (c : Constraints) (label text : String) : List Violation :=
  let length := text.toList.length % (Number.maxWord32 + 1)
  let check (failed : Bool) (v : Violation) : List Violation := if failed then [v] else []
  (match c.maxLength with
    | some most => check (most < length) (.tooLong label most)
    | none => []) ++
  (match c.minLength with
    | some least => check (length < least) (.tooShort label least)
    | none => []) ++
  check (c.isEmail && !looksLikeEmail text) (.noEmail label) ++
  (match c.pattern with
    | some p => check (!p.matches? text) (.badFormat label)
    | none => [])

def check (c : Constraints) (label text : String) : List Violation :=
  if Text.allBlank text then if c.required then [.missing label] else []
  else c.violations label text

end Constraints

namespace RuleSet

/-- The text of a field's own value, which the name finds without regard to dots in it. -/
def valueText (record : Value) (name : String) : String :=
  match record.field? name with
  | some v => Row.text v
  | none => ""

/-- Entries for the id of a reference are for clients; the reference itself is checked. -/
def isForClients (name : String) : Bool := ".id".toList.isSuffixOf name.toList

def violations (rules : RuleSet) (s : Schema) (record : Value) : List Violation :=
  rules.flatMap fun (name, c) =>
    if isForClients name then []
    else c.check ((s.find? name).elim name Field.label) (valueText record name)

def validate (rules : RuleSet) (s : Schema) (record : Value) : Except Error Unit :=
  match rules.violations s record with
  | [] => .ok ()
  | violations => .error (.violated violations)

theorem validate_eq_ok_iff {rules : RuleSet} {s : Schema} {record : Value} :
    rules.validate s record = .ok () ↔ rules.violations s record = [] := by
  unfold validate
  split <;> simp_all

end RuleSet
end Registrar
