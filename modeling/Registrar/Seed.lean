import Registrar.Department
import Registrar.Role
import Registrar.Store
import Registrar.User

/-!
A small organisation to begin with: departments, the reserved roles and one more, and a few users.
It is founded only in a store without departments.
-/

namespace Registrar.Seed

def author : Author := ⟨"system", "seed"⟩

def department (code name : String) (parent : Option String) : Department :=
  { id := some code, code, name, parent := parent.map Reference.mk }

def role (code name : String) (level : Int) : Role := { code, name, level }

def user (signinid nick department : String) (level : Int) : User :=
  { signinid, nick, email := some (signinid ++ "@example.com"), code := some department, level
    department := some ⟨department⟩, enabled := true }

def departments : List Department := [
  department "D10" "Headquarters" none,
  department "D1010" "Engineering" (some "D10"),
  department "D1020" "Finance" (some "D10"),
  department "D20" "Field Sales" none]

def roles : List Role := [
  role "ROLE_ADMIN" "Administrator" 9,
  role "ROLE_ANONYMOUSLY" "Anonymous" 0,
  role "ROLE_OPS" "Operations" 2]

def users : List User := [
  user "admin" "Administrator" "D10" 9,
  user "erin" "Erin" "D1010" 2,
  user "sam" "Sam" "D20" 1]

/-- Stamps and saves records one after another, up to the first that cannot be saved. -/
def saveAll {I E : Type} [Identifier I] (k : Kind I E) (supply : Supply) :
    List E → Store → Store × Except Error Unit
  | [], s => (s, .ok ())
  | e :: r, s =>
    match s.save k supply author (k.stamp author.actor supply.now e) with
    | (s, .ok _) => saveAll k supply r s
    | (s, .error fault) => (s, .error fault)

def found (supply : Supply) (s : Store) : Store × Except Error Unit :=
  match saveAll Department.kind supply departments s with
  | (s, .error fault) => (s, .error fault)
  | (s, .ok ()) =>
    match saveAll Role.kind supply roles s with
    | (s, .error fault) => (s, .error fault)
    | (s, .ok ()) => saveAll User.kind supply users s

/-- Saves the organisation in a store without departments. -/
def load (supply : Supply) (s : Store) : Store × Except Error Unit :=
  match s.query Department.kind {} [] with
  | .error fault => (s, .error fault)
  | .ok [] => found supply s
  | .ok _ => (s, .ok ())

end Registrar.Seed
