import Registrar.Json.Value
import Registrar.Number.Digits
import Registrar.Number.Notation

/-!
Trees of settings, and the paths to the values in them. A path is written as names with points
between them and indexes in brackets behind them. A value set at a path makes the objects and lists
around it, unless they are there.
-/

namespace Registrar

open Json Number

namespace Settings

/-- The entries of an object; any other value counts as an object without entries. -/
def entriesOf (v : Value) : List (String × Value) := v.entries?.getD []

/-- The items of a list; any other value counts as a list without items. -/
def itemsOf : Value → List Value
  | .list items => items
  | _ => []

def child (key : String) (v : Value) : Value := (v.field? key).getD .null

def setChild (key : String) (new : Value) (v : Value) : Value :=
  .object (Entries.put key new (entriesOf v))

/-! ### Merging -/

mutual

/-- The new value in place of the old one; of two objects the entries are laid over each other. -/
def merge (old : Value) : Value → Value
  | .object entries => mergeEntries old entries
  | new => new

def mergeEntries (old : Value) : List (String × Value) → Value
  | [] => old
  | (key, new) :: r =>
    mergeEntries (setChild key (merge ((old.field? key).getD (.object [])) new) old) r

end

/-! ### Paths -/

/-- A step from a value to one inside it. -/
inductive Step where
  | key (name : String)
  /-- A negative index counts from the end of the list. -/
  | index (k : Int)
deriving DecidableEq, Repr

/-- A list with a place for an index, and that place. Nothing fills the places in between; where an
index lies in front of the list, the list grows in front. -/
def grown (items : List Value) : Int → List Value × Nat
  | .ofNat n => (items ++ List.replicate (n + 1 - items.length) .null, n)
  | .negSucc n =>
    (List.replicate (n + 1 - items.length) .null ++ items, items.length - (n + 1))

/-- Sets a value at a path: in an object the value is merged in, in a list it takes the place of
what is there. -/
def setAt (new : Value) : List Step → Value → Value
  | [], _ => new
  | [.key name], old => setChild name (merge ((old.field? name).getD (.object [])) new) old
  | .key name :: r, old => setChild name (setAt new r (child name old)) old
  | .index k :: r, old =>
    let (items, place) := grown (itemsOf old) k
    .list (items.modify place (setAt new r))

/-! ### The notation of paths -/

def isNameChar (c : Char) : Bool := c.isAlphanum || c == '_' || c == '-' || c == ' '

def name? (s : List Char) : Option (Step × List Char) :=
  let name := s.takeWhile isNameChar
  if name.isEmpty then none else some (.key (String.ofList name), s.drop name.length)

def isGap (c : Char) : Bool := c == ' ' || c == '\t'

/-- An index between optional gaps, from behind its opening bracket. -/
def index? (s : List Char) : Option (Step × List Char) :=
  let (negative, r) :=
    match s.dropWhile isGap with
    | '-' :: r => (true, r)
    | r => (false, r)
  let digits := r.takeWhile Char.isDigit
  let size : Int := digitsValue digits
  let k := if negative then -size else size
  match (r.drop digits.length).dropWhile isGap with
  | ']' :: r => if digits.isEmpty || !fitsInt64 k then none else some (.index k, r)
  | _ => none

/-- The steps behind the first name of a path; each takes at least one character. -/
def steps? : Nat → List Char → Option (List Step)
  | _, [] => some []
  | 0, _ => none
  | fuel + 1, c :: r =>
    let step :=
      match c with
      | '.' => name? r
      | '[' => index? r
      | _ => none
    match step with
    | some (step, r) => (steps? fuel r).map (step :: ·)
    | none => none

/-- The path that a key is written as; any other key is a name as a whole. -/
def pathOf (key : String) : List Step :=
  match name? key.toList with
  | some (first, r) => ((steps? r.length r).map (first :: ·)).getD [.key key]
  | none => [.key key]

/-- A tree with the values of a source in it. -/
def overlay (tree : Value) (source : List (String × Value)) : Value :=
  source.foldl (fun tree (key, v) => setAt v (pathOf key) tree) tree

end Settings
end Registrar
