import Registrar.Text.Pieces

/-!
The addresses of the service. Each kind of record has the same operations, users one more.
-/

namespace Registrar.Web

/-- The kinds of records with addresses. -/
inductive Section where
  | department
  | role
  | user
deriving DecidableEq, Repr

def Section.name : Section → String
  | .department => "department"
  | .role => "role"
  | .user => "user"

inductive Inquiry where
  | findByPage
  | selectOptions
  | groupAggregate
  | view
  | validateRules
  | checkUnique
  | revisions
  | compareRevisions
deriving DecidableEq, Repr

def Inquiry.path : Inquiry → List String
  | .findByPage => ["find-by-page"]
  | .selectOptions => ["select-options"]
  | .groupAggregate => ["group-aggregate"]
  | .view => ["view"]
  | .validateRules => ["validate-rules"]
  | .checkUnique => ["check-unique"]
  | .revisions => ["revisions"]
  | .compareRevisions => ["revisions", "compare"]

inductive Order where
  | create
  | update
  | save
  | delete
deriving DecidableEq, Repr

def Order.path : Order → List String
  | .create => ["do-create"]
  | .update => ["do-update"]
  | .save => ["do-save"]
  | .delete => ["do-delete"]

inductive Endpoint where
  | health
  | inquiry (s : Section) (inquiry : Inquiry)
  | order (s : Section) (order : Order)
  /-- Enables or disables users. -/
  | userState
deriving DecidableEq, Repr

namespace Endpoint

def sections : List Section := [.department, .role, .user]

def inquiries : List Inquiry :=
  [.findByPage, .selectOptions, .groupAggregate, .view, .validateRules, .checkUnique, .revisions,
    .compareRevisions]

def orders : List Order := [.create, .update, .save, .delete]

def all : List Endpoint :=
  [.health, .userState] ++
    sections.flatMap fun s => inquiries.map (.inquiry s) ++ orders.map (.order s)

/-- The names between the slashes of an address, behind the first slash. -/
def path : Endpoint → List String
  | .health => ["health"]
  | .inquiry s q => ["admin", "auth", s.name] ++ q.path
  | .order s o => ["admin", "auth", s.name] ++ o.path
  | .userState => ["admin", "auth", "user", "do-state"]

def ofPath? (path : String) : Option Endpoint :=
  all.find? fun e => "" :: e.path == Text.split '/' path

def isPosted : Endpoint → Bool
  | .order _ _ | .userState => true
  | _ => false

/-- Changes are posted, all else is fetched, or asked for its headers alone. -/
def allows (e : Endpoint) (method : String) : Bool :=
  if e.isPosted then method == "POST" else method == "GET" || method == "HEAD"

end Endpoint
end Registrar.Web
