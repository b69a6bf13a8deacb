import Registrar.Department
import Registrar.Desk.Change
import Registrar.Desk.History
import Registrar.Desk.Listing
import Registrar.Page.Data
import Registrar.Role
import Registrar.Rules.Data
import Registrar.Seed
import Registrar.Settings
import Registrar.User.State
import Registrar.Web.Endpoint
import Registrar.Web.Request
import Registrar.Web.Response

/-!
The service: requests of the web, answered by the desks for departments, roles and users. A request
that changes records passes the guard against repeated forms first.
-/

namespace Registrar.Web

open Json

/-- The answer for the caller, whose level has to be well formed. -/
def Request.answerFor (q : Request) (answer : Caller → Response) : Response :=
  match q.caller? with
  | some caller => answer caller
  | none => .bare 400

def Response.ofListing {E : Type} (encode : E → Value) : Except Error (Listing E) → Response
  | .ok (.page page) => .ofValue 200 (page.toValue encode)
  | .ok (.file file) => .ofExport file
  | .error e => .ofError e

section Desks

variable {I E : Type} [Identifier I] [DecidableEq I] (d : Desk I E)

/-- Answers an inquiry. Rules and free values are the same for everyone, so no caller is asked
for. -/
def inquire (q : Request) (inquiry : Inquiry) (r : Registry) : Registry × Response :=
  let params := q.params
  match inquiry with
  | .validateRules =>
    let (r, rules) := d.rules r
    (r, .ofValue 200 rules.toValue)
  | .checkUnique => (r, .ofResult .bool (d.checkUnique params r.store))
  | .findByPage =>
    (r, q.answerFor fun caller =>
      .ofListing d.kind.encode (d.findByPage params caller r.store))
  | .selectOptions =>
    (r, q.answerFor fun caller =>
      .ofResult (fun options => .list (options.map Choice.toValue))
        (d.selectOptions params caller r.store))
  | .groupAggregate =>
    (r, q.answerFor fun caller =>
      .ofResult (Page.toValue id) (d.groupAggregate params caller r.store))
  | .view => (r, q.answerFor fun caller => .ofResult d.kind.encode (d.view params caller r.store))
  | .revisions =>
    (r, q.answerFor fun caller =>
      .ofResult (Page.toValue Revision.toValue) (d.revisions params caller r.store))
  | .compareRevisions =>
    (r, q.answerFor fun caller =>
      .ofResult Comparison.toValue (d.compareRevisions params caller r.store))

def carryOut (supply : Supply) : Order → Params → Caller → Action Outcome
  | .create => d.doCreate supply
  | .update => d.doUpdate supply
  | .save => d.doSave supply
  | .delete => d.doDelete supply

end Desks

def submit (q : Request) (change : Params → Caller → Action Outcome) (r : Registry) :
    Registry × Response :=
  match q.caller? with
  | none => (r, .bare 400)
  | some caller =>
    match Registry.verifyToken q.params caller r with
    | (r, .error e) => (r, .ofError e)
    | (r, .ok ()) =>
      let (r, answer) := change q.params caller r
      (r, .ofResult Outcome.toValue answer)

def departments (limits : PageLimits) : Desk String Department :=
  { kind := Department.kind, policy := Department.policy, limits }

def roles (limits : PageLimits) : Desk String Role :=
  { kind := Role.kind, policy := Role.policy, limits }

def users (limits : PageLimits) : Desk Int User :=
  { kind := User.kind, policy := User.policy, limits }

def health (now : Instant) : Value :=
  .ofPairs [("status", .text "healthy"), ("timestamp", .text now.offsetText)]

def answerAt (limits : PageLimits) (supply : Supply) (q : Request) (e : Endpoint) (r : Registry) :
    Registry × Response :=
  match e with
  | .health => (r, .ofValue 200 (health supply.now))
  | .inquiry .department inquiry => inquire (departments limits) q inquiry r
  | .inquiry .role inquiry => inquire (roles limits) q inquiry r
  | .inquiry .user inquiry => inquire (users limits) q inquiry r
  | .order .department order => submit q (carryOut (departments limits) supply order) r
  | .order .role order => submit q (carryOut (roles limits) supply order) r
  | .order .user order => submit q (carryOut (users limits) supply order) r
  | .userState => submit q (User.doState (users limits) supply) r

/-- Finds the endpoint of a request and answers there. -/
def answer (limits : PageLimits) (supply : Supply) (q : Request) (r : Registry) :
    Registry × Response :=
  match Endpoint.ofPath? q.path with
  | none => (r, .bare 404)
  | some e =>
    if e.allows q.method then
      let (r, response) := answerAt limits supply q e r
      (r, if q.method = "HEAD" then response.withoutBody else response)
    else (r, .bare 405)

/-- Answers a request. If any origin may use the service, every answer says so, and browsers that
ask for leave get it. -/
def serve (settings : Settings) (supply : Supply) (q : Request) (r : Registry) :
    Registry × Response :=
  if settings.anyOrigin then
    let (r, response) :=
      if q.method = "OPTIONS" then (r, .bare 200) else answer settings.pageLimits supply q r
    (r, { response with allowOrigin := some "*" })
  else answer settings.pageLimits supply q r

def begin (settings : Settings) (supply : Supply) : Registry × Except Error Unit :=
  let tokens := settings.tokenGuard
  if settings.seeded then
    let (store, result) := Seed.load supply {}
    ({ store, tokens }, result)
  else ({ tokens }, .ok ())

end Registrar.Web
