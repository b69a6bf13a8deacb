import Registrar.Desk
import Registrar.Export
import Registrar.Filter.Request
import Registrar.Tally

/-!
What a desk answers about many records: pages, exported grids, options to choose from, groups, and
whether a value is still free. Only records in the caller's scope count.
-/

namespace Registrar

open Json

/-- A record to choose, by the text of its identifier. -/
structure Choice where
  id : String
  display : String
deriving DecidableEq, Repr

def Choice.toValue (c : Choice) : Value :=
  .ofPairs [("id", .text c.id), ("display", .text c.display)]

/-- A page of records, or all of them in a file. -/
inductive Listing (E : Type) where
  | page (page : Page E)
  | file (file : Export)

/-- The request asks for a file, and only one format is known. -/
def wantsExport (params : Params) : Except Error Bool :=
  match params.getFilled? "_format_" with
  | none => .ok false
  | some raw => if Text.lowerAscii raw = "csv" then .ok true else .error (.exportFormat raw)

/-- The property's value is the one among the parameters, or missing if that is blank. -/
def matching (params : Params) (property : String) : Predicate :=
  match params.getFilled? property with
  | some text => .equal property (.text text)
  | none => .missing property

def groupProperties (params : Params) : List String :=
  (((params.getAll "group_by").flatMap (Text.split ',')).map Text.trim).filter fun p => p ≠ ""

/-- The groups of the records that a filter accepts, by the texts of some properties, with their
counts. -/
def Store.groups {I E : Type} (k : Kind I E) (store : Store) (f : Filter) (properties : List String)
    (request : PageRequest) : Except Error (Page Value) :=
  if properties.isEmpty then .error (.required "group_by")
  else
    match store.query k f [] with
    | .error e => .error e
    | .ok all =>
      let groups := (Tally.ofRows properties (all.map k.encode)).map (Tally.toRow properties)
      match Sorting.rows request.sort groups with
      | none => .error (.panic .disorder)
      | some sorted => Page.ofAll sorted request

namespace Desk

variable {I E : Type} (d : Desk I E)

/-- The client's filter within the caller's scope. -/
def filter (params : Params) (caller : Caller) : Filter :=
  d.policy.scope (.ofParams params) caller

def pageRequest (params : Params) : PageRequest := .ofParams params d.limits

def found (params : Params) (caller : Caller) (store : Store) : Except Error (List E) :=
  store.query d.kind (d.filter params caller) (d.pageRequest params).sort

def findByPage (params : Params) (caller : Caller) (store : Store) : Except Error (Listing E) :=
  match wantsExport params with
  | .error e => .error e
  | .ok asFile =>
    match d.found params caller store with
    | .error e => .error e
    | .ok all =>
      if asFile then .ok (.file (.ofRows d.kind.schema (all.map d.kind.encode)))
      else (Page.ofAll all (d.pageRequest params)).map .page

section Identified

variable [Identifier I]

def choice? (e : E) : Option Choice := (d.kind.idText? e).map fun id => ⟨id, d.kind.display e⟩

def selectOptions (params : Params) (caller : Caller) (store : Store) :
    Except Error (List Choice) :=
  (d.found params caller store).map fun all => all.filterMap d.choice?

/-- No record but the one the request names has the values of the properties in question. -/
def checkUnique [DecidableEq I] (params : Params) (store : Store) : Except Error Bool :=
  match requestId (I := I) params with
  | .error e => .error e
  | .ok own =>
    match params.getFilled? "element" with
    | none => .error (.required "element")
    | some element =>
      let properties := element :: ["additional", "additional2"].filterMap params.getFilled?
      match store.query d.kind { client := properties.map (matching params) } [] with
      | .error e => .error e
      | .ok others =>
        .ok (!others.any fun e => own.isNone || d.kind.id e != own)

end Identified

/-- The groups of records that agree in some properties, with their counts. -/
def groupAggregate (params : Params) (caller : Caller) (store : Store) :
    Except Error (Page Value) :=
  store.groups d.kind (d.filter params caller) (groupProperties params) (d.pageRequest params)

end Desk
end Registrar
