import Registrar.Binding
import Registrar.Page
import Registrar.Rules.Cache
import Registrar.Store
import Registrar.TokenGuard

/-!
Desks. A desk serves the requests for one kind of record under a policy; all desks work on one
registry, which holds the store, the rules found so far and the tokens of submitted forms.
-/

namespace Registrar

open Json

/-- What all desks share. -/
structure Registry where
  store : Store := {}
  rules : RuleCache := {}
  tokens : TokenGuard := {}

/-- A change of the registry with an answer; a refused request may still leave traces. -/
abbrev Action (α : Type) := Registry → Registry × Except Error α

/-- Refuses a form that the session has sent before. -/
def Registry.verifyToken (params : Params) (caller : Caller) : Action Unit := fun r =>
  let (tokens, answer) := r.tokens.verify caller.sessionKey params
  ({ r with tokens }, answer)

structure Desk (I E : Type) where
  kind : Kind I E
  policy : Policy E
  limits : PageLimits := {}

namespace Schema

/-- The first disagreement of fields, given in the order of the schema, with the entries of a
record's data form. -/
def fault? (entries : List (String × Value)) (seen : List String) : List Field → Option SchemaFault
  | [] => none
  | f :: r =>
    if seen.contains f.name then some (.repeatedField f.name)
    else if !f.isTransient && (Entries.get? f.name entries).isNone then
      some (.missingField f.name)
    else if f.comparable && f.isCollection then some (.comparableCollection f.name)
    else fault? entries (f.name :: seen) r

end Schema

/-- A kind is fit for a desk if its schema agrees with the data form of its records. -/
def Kind.check {I E : Type} (k : Kind I E) : Except Error Unit :=
  let fault :=
    match k.encode k.blank with
    | .object entries => Schema.fault? entries [] k.schema.fields
    | _ => some .noObject
  match fault with
  | some fault => .error (.schema k.entityType fault)
  | none => .ok ()

namespace Desk

variable {I E : Type} [Identifier I] (d : Desk I E)

def requestId (params : Params) : Except Error (Option I) := Identifier.resolve (params.get? "id")

/-- The identifier that a request has to name. -/
def requiredId (params : Params) : Except Error I :=
  match requestId params with
  | .ok (some id) => .ok id
  | .ok none => .error (.required "id")
  | .error e => .error e

/-- The record that a request names, if it names one. -/
def named (params : Params) (store : Store) : Except Error (Option E) :=
  match requestId (I := I) params with
  | .ok (some id) => (store.get d.kind id).map some
  | .ok none => .ok none
  | .error e => .error e

/-- Lays the request's values over a record that the caller may access. -/
def fill (params : Params) (caller : Caller) (e : E) : Except Error E :=
  match d.policy.permit e caller with
  | .ok () => d.kind.bind params e
  | .error fault => .error fault

/-- The record a changing request works on: the one it names, or a blank one. -/
def working (params : Params) (caller : Caller) (store : Store) : Except Error E :=
  match d.named params store with
  | .ok e => d.fill params caller (e.getD d.kind.blank)
  | .error e => .error e

/-- The record a request works on; one that only reads and names none has none. -/
def prepare (params : Params) (caller : Caller) (store : Store) : Except Error (Option E) :=
  match params.verb with
  | .mutation => (d.working params caller store).map some
  | .read =>
    match d.named params store with
    | .ok (some e) => (d.fill params caller e).map some
    | .ok none => .ok none
    | .error e => .error e

def view (params : Params) (caller : Caller) (store : Store) : Except Error E :=
  match d.named params store with
  | .ok (some e) => d.fill params caller e
  | .ok none => .error (.required "id")
  | .error e => .error e

def rules (r : Registry) : Registry × RuleSet :=
  let (rules, known) := r.rules.rules d.kind.schema
  ({ r with rules := known }, rules)

end Desk
end Registrar
