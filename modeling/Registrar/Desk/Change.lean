import Registrar.Batch
import Registrar.Desk
import Registrar.Rules.Check

/-!
Changing records through a desk. A record is saved once the policy lets it pass, its values keep the
rules, and no other record has the value of a unique column; of several records each is handled on
its own.
-/

namespace Registrar

open Json

/-- Why a request is handled, and how revisions call that. -/
structure Occasion where
  caller : Caller
  event : String

def Occasion.author (o : Occasion) : Author := ⟨o.caller.userId, o.event⟩

namespace Desk

variable {I E : Type} [Identifier I] [DecidableEq I] (d : Desk I E)

/-- Another record has the same value in a unique column. A record that is being created differs
from every stored one. -/
def clash (creating : Bool) (e : E) (store : Store) (f : Field) : Except Error Unit :=
  match Row.extract (d.kind.encode e) f.name with
  | none => .ok ()
  | some value =>
    match store.query d.kind { client := [.equal f.name value] } [] with
    | .error fault => .error fault
    | .ok others =>
      if others.any fun other => creating || d.kind.id other != d.kind.id e then
        .error (.taken f.label (Row.text value))
      else .ok ()

/-- Checks a record's values against the rules, and its unique columns against all records. -/
def check (rules : RuleSet) (creating : Bool) (e : E) (store : Store) : Except Error Unit :=
  match rules.validate d.kind.schema (d.kind.encode e) with
  | .error fault => .error fault
  | .ok () => (d.kind.schema.declared.filter Field.isUnique).forM (d.clash creating e store)

/-- Checks and saves a record that the policy has let pass. -/
def commit (supply : Supply) (occasion : Occasion) (creating : Bool) (e : E) : Action E := fun r =>
  let (r, rules) := d.rules r
  match d.check rules creating e r.store with
  | .error fault => (r, .error fault)
  | .ok () =>
    let (store, answer) := r.store.save d.kind supply occasion.author e
    ({ r with store }, answer)

def create (supply : Supply) (occasion : Occasion) (e : E) : Action E := fun r =>
  match d.policy.refuseCreate e occasion.caller with
  | some refusal => (r, .error (.refused refusal))
  | none =>
    match d.policy.prepare e occasion.caller with
    | .error fault => (r, .error fault)
    | .ok e =>
      d.commit supply occasion true (d.kind.stamp occasion.caller.userId supply.now e) r

def update (supply : Supply) (occasion : Occasion) (e : E) : Action E := fun r =>
  match d.policy.refuseUpdate e occasion.caller with
  | some refusal => (r, .error (.refused refusal))
  | none =>
    match d.policy.prepare e occasion.caller with
    | .error fault => (r, .error fault)
    | .ok e => d.commit supply occasion false e r

/-- Saves a record in the way that it needs. -/
def save (supply : Supply) (occasion : Occasion) (e : E) : Action E :=
  if d.kind.isNew e then d.create supply occasion e else d.update supply occasion e

/-- Runs a change of the request's record and puts the saved record into the outcome. -/
def report (message : String) (params : Params) (caller : Caller) (change : E → Action E) :
    Action Outcome := fun r =>
  match d.working params caller r.store with
  | .error fault => (r, .error fault)
  | .ok e =>
    let (r, answer) := change e r
    (r, answer.map fun saved => .success message (some (d.kind.encode saved)))

def doCreate (supply : Supply) (params : Params) (caller : Caller) : Action Outcome :=
  d.report "Created" params caller fun e =>
    if d.kind.isNew e then d.create supply ⟨caller, "do-create"⟩ e
    else fun r => (r, .error .alreadySaved)

def doUpdate (supply : Supply) (params : Params) (caller : Caller) : Action Outcome :=
  d.report "Updated" params caller fun e =>
    if d.kind.isNew e then fun r => (r, .error .unnamed)
    else d.update supply ⟨caller, "do-update"⟩ e

def doSave (supply : Supply) (params : Params) (caller : Caller) : Action Outcome :=
  d.report "Saved" params caller (d.save supply ⟨caller, "do-save"⟩)

/-- The records that a request lists, each as it is before the batch. -/
def targets (params : Params) (store : Store) : Except Error (List (Target E)) :=
  match Identifier.parseAll (I := I) (params.getAll "ids") with
  | .error e => .error e
  | .ok ids => ids.mapM fun id =>
    match store.find? d.kind id with
    | .error e => .error e
    | .ok found =>
      let key := Identifier.text id
      .ok ⟨key, match found with
        | some e => .ok e
        | none => .error (.absent d.kind.label key)⟩

def batch (name : String) (operation : E → Action Unit) (params : Params) : Action Outcome :=
  fun r =>
    match d.targets params r.store with
    | .error e => (r, .error e)
    | .ok targets =>
      let (r, outcome) := Batch.execute name (fun r e => operation e r) r targets
      (r, .ok outcome)

def discard (supply : Supply) (caller : Caller) (e : E) : Action Unit := fun r =>
  match d.policy.permit e caller with
  | .error fault => (r, .error fault)
  | .ok () =>
    if d.kind.isNew e then (r, .error (.refused .unsaved))
    else
      match d.policy.refuseDelete e caller with
      | some refusal => (r, .error (.refused refusal))
      | none =>
        let (store, answer) := r.store.delete d.kind supply.now ⟨caller.userId, "do-delete"⟩ e
        ({ r with store }, answer)

def doDelete (supply : Supply) (params : Params) (caller : Caller) : Action Outcome :=
  d.batch "Delete" (d.discard supply caller) params

def amend (supply : Supply) (occasion : Occasion) (change : E → E) (e : E) : Action Unit := fun r =>
  match d.policy.permit e occasion.caller with
  | .error fault => (r, .error fault)
  | .ok () =>
    let (r, answer) := d.update supply occasion (change e) r
    (r, answer.map fun _ => ())

def batchUpdate (name event : String) (supply : Supply) (change : E → E) (params : Params)
    (caller : Caller) : Action Outcome :=
  d.batch name (d.amend supply ⟨caller, event⟩ change) params

end Desk
end Registrar
