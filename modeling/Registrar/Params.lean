import Registrar.Text.Blank

/-!
Request parameters: key and value pairs in the order of the request. Keys may repeat.
-/

namespace Registrar

inductive Verb where
  | read
  | mutation
deriving DecidableEq, Repr

structure Params where
  verb : Verb
  pairs : List (String × String)
deriving Repr

namespace Params

def get? (params : Params) (key : String) : Option String :=
  (params.pairs.find? fun p => p.1 == key).map (·.2)

def getAll (params : Params) (key : String) : List String :=
  (params.pairs.filter fun p => p.1 == key).map (·.2)

def contains (params : Params) (key : String) : Bool := params.pairs.any fun p => p.1 == key

/-- The first value of a key, trimmed, unless it is blank. -/
def getFilled? (params : Params) (key : String) : Option String :=
  match params.get? key with
  | some value =>
    let value := Text.trim value
    if value = "" then none else some value
  | none => none

end Params
end Registrar
