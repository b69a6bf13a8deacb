import Registrar.Row
import Registrar.Text.Lower

/-!
Filters on rows. A predicate tests one of several properties; a filter holds the predicates of the
client and those forced on top of them, and a row has to pass all of both.
-/

namespace Registrar

open Json

/-- The test a predicate applies to a property's value. -/
inductive Test where
  | equal
  | notEqual
  | less
  | atMost
  | greater
  | atLeast
  | contains
  | beginsWith
  | endsWith
  | oneOf
  | present
  | missing
  | between
  /-- The text form starts with one of the values. -/
  | inScope
deriving DecidableEq, Repr

namespace Test

def code : Test → String
  | .equal => "EQ"
  | .notEqual => "NE"
  | .less => "LT"
  | .atMost => "LE"
  | .greater => "GT"
  | .atLeast => "GE"
  | .contains => "CN"
  | .beginsWith => "BW"
  | .endsWith => "EW"
  | .oneOf => "IN"
  | .present => "NN"
  | .missing => "NU"
  | .between => "BT"
  | .inScope => "ACLPREFIXS"

def all : List Test :=
  [.equal, .notEqual, .less, .atMost, .greater, .atLeast, .contains, .beginsWith, .endsWith, .oneOf,
    .present, .missing, .between, .inScope]

def ofCode? (code : String) : Option Test := all.find? fun t => t.code == code

def takesValue : Test → Bool
  | .present | .missing => false
  | _ => true

theorem ofCode?_code (t : Test) : ofCode? t.code = some t := by cases t <;> decide

end Test

/-- Passes when the test holds for one of the properties. -/
structure Predicate where
  test : Test
  properties : List String
  values : List Value
deriving Repr

structure Filter where
  client : List Predicate := []
  forced : List Predicate := []
deriving Repr

namespace Predicate

def equal (property : String) (value : Value) : Predicate := ⟨.equal, [property], [value]⟩

def missing (property : String) : Predicate := ⟨.missing, [property], []⟩

/-- Compares the values when both are there. -/
def order? (actual expected : Option Value) : Option Ordering :=
  match actual, expected with
  | some a, some b => Row.compare? a b
  | _, _ => none

/-- A relation between the small forms of two texts. -/
def textTest (relation : List Char → List Char → Bool) (actual expected : Option Value) : Bool :=
  match actual, expected with
  | some a, some b => relation (Text.lower (Row.text a)).toList (Text.lower (Row.text b)).toList
  | _, _ => false

def isEqual (o : Option Ordering) : Bool := o == some .eq
def isAtMost (o : Option Ordering) : Bool := o == some .lt || o == some .eq
def isAtLeast (o : Option Ordering) : Bool := o == some .gt || o == some .eq

def holdsFor (p : Predicate) (actual : Option Value) : Bool :=
  let first := p.values.head?
  match p.test with
  | .missing => actual.isNone
  | .present => actual.isSome
  | .equal => isEqual (order? actual first)
  | .notEqual => !isEqual (order? actual first)
  | .less => order? actual first == some .lt
  | .atMost => isAtMost (order? actual first)
  | .greater => order? actual first == some .gt
  | .atLeast => isAtLeast (order? actual first)
  | .contains => textTest (fun a b => Text.occursIn b a) actual first
  | .beginsWith => textTest (fun a b => b.isPrefixOf a) actual first
  | .endsWith => textTest (fun a b => b.isSuffixOf a) actual first
  | .oneOf => p.values.any fun v => isEqual (order? actual (some v))
  | .between =>
    match p.values with
    | low :: high :: _ =>
      isAtLeast (order? actual (some low)) && isAtMost (order? actual (some high))
    | _ => false
  | .inScope =>
    match actual with
    | some a => p.values.any fun v => (Row.text v).toList.isPrefixOf (Row.text a).toList
    | none => false

def holds (p : Predicate) (row : Value) : Bool :=
  p.properties.any fun property => p.holdsFor (Row.extract row property)

end Predicate

namespace Filter

def withClient (f : Filter) (p : Predicate) : Filter := { f with client := f.client ++ [p] }

def force (f : Filter) (p : Predicate) : Filter := { f with forced := f.forced ++ [p] }

def isOpen (f : Filter) : Bool := f.client.isEmpty

def accepts (f : Filter) (row : Value) : Bool := (f.client ++ f.forced).all fun p => p.holds row

theorem accepts_force (f : Filter) (p : Predicate) (row : Value) :
    (f.force p).accepts row = (f.accepts row && p.holds row) := by
  simp [accepts, force, Bool.and_assoc]

end Filter
end Registrar
