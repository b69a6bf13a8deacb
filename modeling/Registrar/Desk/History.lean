import Registrar.Comparison
import Registrar.Desk

/-!
The trail of a record: its revisions, the latest first, and two of them side by side. A caller who
may not access the record does not see its trail; the trail of a deleted record is open.
-/

namespace Registrar

open Json

/-- Which revisions a request wants with regard to a property. -/
structure ChangeFilter where
  property : String
  /-- Those in which the property changed, or those in which it did not. -/
  changed : Bool
deriving DecidableEq, Repr

namespace ChangeFilter

/-- Both parts have to be there for a wish. -/
def ofParams (params : Params) : Except Error (Option ChangeFilter) :=
  let withProperty (changed : Bool) : Option ChangeFilter :=
    (params.getFilled? "property").map fun property => ⟨property, changed⟩
  match params.getFilled? "changed" with
  | none => .ok none
  | some "true" => .ok (withProperty true)
  | some "false" => .ok (withProperty false)
  | some other => .error (.changedFlag other)

def sameOption : Option Value → Option Value → Bool
  | none, none => true
  | some a, some b => a.same b
  | _, _ => false

/-- The property differs from its value before; at first, a value is a change. -/
def didChange (property : String) (previous : Option Value) (content : Value) : Bool :=
  !sameOption (previous.bind fun v => Row.extract v property) (Row.extract content property)

/-- The wanted revisions of a trail that follows the given content. -/
def select (wish : ChangeFilter) (previous : Option Value) : List Revision → List Revision
  | [] => []
  | r :: rest =>
    let kept := select wish (some r.content) rest
    if didChange wish.property previous r.content == wish.changed then r :: kept else kept

end ChangeFilter

def revisionNumber (params : Params) (key : String) : Except Error Int :=
  match params.getFilled? key with
  | none => .error (.required key)
  | some raw =>
    match Number.readSigned Number.maxInt64 raw.toList with
    | .ok n => .ok n
    | .error _ => .error (.noRevision key)

def Resolver.ofStore (store : Store) : Resolver where
  display := store.display
  leftover entityType key := .ok (store.display? entityType key)

namespace Desk

variable {I E : Type} [Identifier I] (d : Desk I E)

/-- Refuses callers who may not access the record as it is now. -/
def checkTrail (id : I) (caller : Caller) (store : Store) : Except Error Unit :=
  match store.find? d.kind id with
  | .ok (some e) => d.policy.permit e caller
  | .ok none => .ok ()
  | .error e => .error e

def labelled (r : Revision) : Revision :=
  { r with
    oldStateLabel := r.oldState.map d.policy.stateLabel
    newStateLabel := r.newState.map d.policy.stateLabel }

def revisions (params : Params) (caller : Caller) (store : Store) :
    Except Error (Page Revision) := do
  let id : I ← requiredId params
  d.checkTrail id caller store
  let wish ← ChangeFilter.ofParams params
  let trail := store.revisionsOf d.kind.entityType (Identifier.text id)
  let kept :=
    match wish with
    | some wish => wish.select none trail
    | none => trail
  Page.ofAll (kept.map d.labelled).reverse (.ofParams params d.limits)

def compareRevisions (params : Params) (caller : Caller) (store : Store) :
    Except Error Comparison := do
  let id : I ← requiredId params
  let left ← revisionNumber params "revLeft"
  let right ← revisionNumber params "revRight"
  d.checkTrail id caller store
  let key := Identifier.text id
  return .ofTrail (.ofStore store) d.kind.schema key
    (store.revisionsAt d.kind.entityType key [left, right]) left right

end Desk
end Registrar
