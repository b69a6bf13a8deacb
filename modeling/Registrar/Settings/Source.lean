import Registrar.Json.Reader
import Registrar.Number.Notation
import Registrar.Settings
import Registrar.Settings.Tree
import Registrar.Text.Lower
import Registrar.Text.Pieces

/-!
Where settings come from: the defaults, over them a file, over that the environment. Each is a tree
of values; a later tree replaces the values it names. Settings are then read from the tree, and a
value of another type is converted where that makes sense.
-/

namespace Registrar

open Json Number

namespace Settings

/-! ### Sources -/

mutual

/-- The value with all its keys in small letters; of two keys that become one the later counts. -/
def smallKeys : Value → Value
  | .list items => .list (smallKeysItems items)
  | .object entries => .ofPairs (smallKeysEntries entries)
  | v => v

def smallKeysItems : List Value → List Value
  | [] => []
  | v :: r => smallKeys v :: smallKeysItems r

def smallKeysEntries : List (String × Value) → List (String × Value)
  | [] => []
  | (key, v) :: r => (Text.lower key, smallKeys v) :: smallKeysEntries r

end

/-- The keys and values of a configuration file, which has to hold an object. The case of keys does
not matter. -/
def fileEntries? (text : String) : Option (List (String × Value)) :=
  (Json.read? text).bind fun v => (smallKeys v).entries?

/-- The setting that a variable names: behind `ADMIN_`, in small letters, with a point for every two
underscores. -/
def variableKey? (name : String) : Option String :=
  let name := (Text.lower name).toList
  let lead := "admin_".toList
  if lead.isPrefixOf name then
    some (".".intercalate ((Text.piecesBetween 0 "__".toList (name.drop lead.length)).map
      String.ofList))
  else none

def variableEntries (environment : List (String × String)) : List (String × Value) :=
  environment.filterMap fun (name, text) => (variableKey? name).map fun key => (key, .text text)

/-! ### Reading -/

def trueWords : List String := ["true", "on", "yes"]
def falseWords : List String := ["false", "off", "no"]

/-- The whole number nearest to a float, a half away from zero, at least 0 and at most a word. -/
def wordOfDouble : Double → Nat
  | .nan => 0
  | .infinite negative => if negative then 0 else maxWord64
  | .finite negative mantissa exponent =>
    if negative then 0
    else
      let den := 1 <<< (-exponent).toNat
      min ((2 * (mantissa <<< exponent.toNat) + den) / (2 * den)) maxWord64

def word? : Value → Option Nat
  | .bool b => some (if b then 1 else 0)
  | .int n =>
    if n < 0 then none
    else if fitsInt64 n then some n.toNat
    else some (wordOfDouble (.ofInt n))
  | .float x => some (wordOfDouble x)
  | .text s =>
    let small := Text.lower s
    if trueWords.contains small then some 1
    else if falseWords.contains small then some 0
    else (readUnsigned maxWord64 s.toList).toOption
  | _ => none

def shortWord? (bits : Nat) (v : Value) : Option Nat := (word? v).filter fun n => n < 1 <<< bits

def flag? : Value → Option Bool
  | .bool b => some b
  | .int n => some (n != 0)
  | .float x => some (!x.same (.zero false))
  | .text s =>
    let small := Text.lower s
    if small == "1" || trueWords.contains small then some true
    else if small == "0" || falseWords.contains small then some false
    else none
  | _ => none

def words? : Value → Option String
  | .text s => some s
  | .bool b => some (if b then "true" else "false")
  | .int n => some (if fitsInt64 n then intText n else (Double.ofInt n).write .places)
  | .float x => some (x.write .places)
  | _ => none

/-- A value that may be unset. -/
def unset? {α : Type} (read : Value → Option α) (v : Value) : Option (Option α) :=
  if v.isNull then some none else (read v).map some

/-- The fields of a group of settings: an object, or a list with the values in order. -/
def group? (names : List String) : Value → Option (String → Value)
  | .object entries => some fun name => (Entries.get? name entries).getD .null
  | .list items =>
    if names.length ≤ items.length then
      some fun name => (((names.zip items).find? fun e => e.1 == name).map Prod.snd).getD .null
    else none
  | _ => none

def ofTree? (tree : Value) : Option Settings := do
  let server ← group? ["host", "port", "cors_permissive"] (child "server" tree)
  let database ← group? ["connection_string", "max_connections"] (child "database" tree)
  let engine ← group? ["default_page_size", "max_page_size", "load_seed_data",
    "token_session_limit", "token_idle_secs"] (child "engine" tree)
  return {
    host := ← words? (server "host")
    listenPort := ← shortWord? 16 (server "port")
    anyOrigin := ← flag? (server "cors_permissive")
    connection := ← unset? words? (database "connection_string")
    connections := ← unset? (shortWord? 32) (database "max_connections")
    defaultPageSize := ← word? (engine "default_page_size")
    mostPageSize := ← word? (engine "max_page_size")
    seeded := ← flag? (engine "load_seed_data")
    sessionLimit := ← word? (engine "token_session_limit")
    idleSeconds := ← word? (engine "token_idle_secs") }

/-- The settings from the file, if there is one, and the variables. -/
def load? (environment : List (String × String)) (file : Option String) : Option Settings := do
  let tree := toValue {}
  let tree ←
    match file with
    | some text => (fileEntries? text).map (overlay tree)
    | none => some tree
  ofTree? (overlay tree (variableEntries environment))

end Settings
end Registrar
