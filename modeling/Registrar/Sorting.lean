import Registrar.Row
import Registrar.Sorting.Runs

/-!
Sorting rows by several properties. Each key is ascending or descending, missing values come before
all others, and rows that agree on every key keep their order. Values that are no order, such as some
numbers with a word between their texts, may leave the rows without a result.
-/

namespace Registrar

inductive Direction where
  | ascending
  | descending
deriving DecidableEq, Repr

def Direction.apply : Direction → Ordering → Ordering
  | .ascending, o => o
  | .descending, o => o.swap

structure SortKey where
  property : String
  direction : Direction
deriving DecidableEq, Repr

/-- Reads `name` or `name,desc`; any other second part means ascending. -/
def SortKey.read? (raw : String) : Option SortKey :=
  match (Text.split ',' raw).map Text.trim with
  | [] => none
  | property :: r =>
    if property = "" then none
    else
      let down :=
        match r with
        | direction :: _ => Text.lowerAscii direction == "desc"
        | [] => false
      some ⟨property, if down then .descending else .ascending⟩

namespace Sorting

open Json

/-- The order of two optional values, ascending; values that do not compare count as equal. -/
def compareOptions : Option Value → Option Value → Ordering
  | none, none => .eq
  | none, some _ => .lt
  | some _, none => .gt
  | some a, some b => (Row.compare? a b).getD .eq

def compareBy (key : SortKey) (a b : Value) : Ordering :=
  key.direction.apply (compareOptions (Row.extract a key.property) (Row.extract b key.property))

/-- The first key that tells two rows apart decides. -/
def compareRows (keys : List SortKey) (a b : Value) : Ordering :=
  match keys with
  | [] => .eq
  | key :: r => (compareBy key a b).then (compareRows r a b)

/-- The rows in the order of the keys, as long as the keys do not contradict themselves. Only rows of the
list are ever compared, which the type of the elements records. -/
def rows (keys : List SortKey) (given : List Value) : Option (List Value) :=
  if keys.isEmpty then some given
  else
    let less (a b : {row // row ∈ given}) : Bool := compareRows keys a b == .lt
    (sort? less 32 given.attach).map fun sorted => sorted.map Subtype.val

/-- Without sort keys the rows stay as they are. -/
@[simp] theorem rows_nil (given : List Value) : rows [] given = some given := rfl

end Sorting
end Registrar
