import Registrar.Entries
import Registrar.Number.Double

/-!
Data values. An object keeps its entries in ascending order of their keys, each key once.
-/

namespace Registrar.Json

inductive Value where
  | null
  | bool (b : Bool)
  | int (n : Int)
  | float (x : Number.Double)
  | text (s : String)
  | list (items : List Value)
  | object (entries : List (String × Value))
deriving Repr, Inhabited

namespace Value

def ofPairs (pairs : List (String × Value)) : Value := .object (Entries.putAll [] pairs)

def isNull : Value → Bool
  | .null => true
  | _ => false

def entries? : Value → Option (List (String × Value))
  | .object entries => some entries
  | _ => none

def field? (key : String) : Value → Option Value
  | .object entries => Entries.get? key entries
  | _ => none

def text? : Value → Option String
  | .text s => some s
  | _ => none

def ofOption {α : Type} (encode : α → Value) : Option α → Value
  | some a => encode a
  | none => .null

mutual

/-- Equality of data: a whole number and a float are different, floats compare by value. -/
def same : Value → Value → Bool
  | .null, .null => true
  | .bool a, .bool b => a == b
  | .int a, .int b => a == b
  | .float a, .float b => a.same b
  | .text a, .text b => a == b
  | .list a, .list b => sameItems a b
  | .object a, .object b => sameEntries a b
  | _, _ => false

def sameItems : List Value → List Value → Bool
  | [], [] => true
  | a :: r, b :: s => same a b && sameItems r s
  | _, _ => false

def sameEntries : List (String × Value) → List (String × Value) → Bool
  | [], [] => true
  | (k, a) :: r, (l, b) :: s => k == l && same a b && sameEntries r s
  | _, _ => false

end

end Value

end Registrar.Json
