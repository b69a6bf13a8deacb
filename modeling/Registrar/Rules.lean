import Registrar.Entries
import Registrar.Pattern.Whole
import Registrar.Schema

/-!
Validation rules: the constraints on the values of a record's fields, derived from the declarations
in its schema. A faulty declaration anywhere leaves the record without rules.
-/

namespace Registrar

structure Constraints where
  required : Bool := false
  isUnique : Bool := false
  isReadonly : Bool := false
  maxLength : Option Nat := none
  minLength : Option Nat := none
  isDate : Bool := false
  isTimestamp : Bool := false
  isNumber : Bool := false
  isInteger : Bool := false
  isEmail : Bool := false
  pattern : Option WholePattern := none
  tooltips : Option String := none
deriving DecidableEq, Repr

def Constraints.isEmpty (c : Constraints) : Bool := c == {}

/-- Constraints by field name. A reference also has them under the name of its id. -/
abbrev RuleSet := List (String × Constraints)

/-- A declaration that makes no sense, with the field's name. -/
inductive RuleFault where
  | zeroLength (name : String)
  | invertedSize (name : String) (least most : Nat)
  | badPattern (name : String)
deriving DecidableEq, Repr

def RuleFault.message : RuleFault → String
  | .zeroLength name => s!"{name}: column length must be positive"
  | .invertedSize name least most => s!"{name}: size bounds are inverted ({least} > {most})"
  | .badPattern name => s!"{name}: invalid pattern"

namespace Field

/-- The longest text a field can hold: a size bound wins over the column's length. -/
def maxLength (f : Field) : Option Nat :=
  let ofColumn :=
    match f.column with
    | some c => if f.valueType? == some .text && !c.lob then some c.length else none
    | none => none
  match f.size with
  | some s => if s.most < Number.maxWord32 then some s.most else ofColumn
  | none => ofColumn

def minLength (f : Field) : Option Nat :=
  match f.size with
  | some s => if 0 < s.least then some s.least else none
  | none => none

/-- Columns and associations that may not be missing; a boolean always has a value. -/
def isRequired (f : Field) : Bool :=
  f.column.any (fun c => !c.nullable && f.valueType? != some .boolean) ||
    f.joinNullable == some false

/-- The constraints of a field with the given compiled pattern. -/
def constraintsWith (f : Field) (pattern : Option WholePattern) : Constraints where
  required := f.isRequired
  isUnique := f.isUnique
  isReadonly := f.isFixed
  maxLength := f.maxLength
  minLength := f.minLength
  isDate := f.valueType? == some .date && f.dateDisplay != some .dateTime
  isTimestamp := f.valueType? == some .date && f.dateDisplay == some .dateTime
  isNumber := f.valueType? == some .decimal
  isInteger := f.valueType? == some .integer
  isEmail := f.isEmail
  pattern := pattern
  tooltips := f.tooltips

def constraints (f : Field) : Except RuleFault Constraints :=
  if f.column.any fun c => c.length == 0 then .error (.zeroLength f.name)
  else
    match f.size with
    | some s =>
      if s.most < s.least then .error (.invertedSize f.name s.least s.most) else compiled
    | none => compiled
where
  compiled : Except RuleFault Constraints :=
    match f.pattern with
    | some source =>
      match WholePattern.compile? source with
      | some pattern => .ok (f.constraintsWith (some pattern))
      | none => .error (.badPattern f.name)
    | none => .ok (f.constraintsWith none)

/-- Fields without rules of their own. -/
def isUnruled (f : Field) : Bool := f.name == "id" || f.isTransient || f.isCollection

end Field

namespace RuleSet

def add (rules : RuleSet) (f : Field) (c : Constraints) : RuleSet :=
  if c.isEmpty then rules
  else
    Entries.putNew f.name c (if f.isReference then Entries.put (f.name ++ ".id") c rules else rules)

/-- Adds the rules of the given fields, up to the first faulty one. -/
def addAll (rules : RuleSet) : List Field → Except RuleFault RuleSet
  | [] => .ok rules
  | f :: r =>
    if f.isUnruled then addAll rules r
    else
      match f.constraints with
      | .ok c => addAll (rules.add f c) r
      | .error fault => .error fault

def compile (s : Schema) : Except RuleFault RuleSet := addAll [] s.declared

/-- The rules of a schema, none if a declaration is faulty. -/
def ofSchema (s : Schema) : RuleSet :=
  match compile s with
  | .ok rules => rules
  | .error _ => []

end RuleSet
end Registrar
