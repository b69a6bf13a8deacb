import Registrar.Number.Digits

/-!
Why a request is refused. Every cause has a category, which decides the answer's status, and one
message. A panic is no refusal: the request ends there, without an answer.
-/

namespace Registrar

/-- What a caller can do about an error. -/
inductive ErrorCategory where
  | validation
  | invalidIdentifier
  | permissionDenied
  | preconditionRejected
  | notFound
  | conflict
  | duplicateSubmission
  | staleReference
  | unsupportedOperation
  | configuration
  | store
  /-- Nobody is told about it: the program gives up in the middle of the request. -/
  | panic
deriving DecidableEq, Repr

/-- The status of the answer; zero where there is none. -/
def ErrorCategory.status : ErrorCategory → Nat
  | .validation | .invalidIdentifier | .preconditionRejected | .unsupportedOperation => 400
  | .permissionDenied => 403
  | .notFound => 404
  | .conflict | .duplicateSubmission => 409
  | .staleReference | .configuration | .store => 500
  | .panic => 0

def ErrorCategory.lead : ErrorCategory → String
  | .permissionDenied => "permission denied: "
  | .unsupportedOperation => "unsupported operation: "
  | .configuration => "configuration error: "
  | _ => ""

/-- A constraint that the value of a field does not meet, with the field's label. -/
inductive Violation where
  | missing (label : String)
  | tooLong (label : String) (most : Nat)
  | tooShort (label : String) (least : Nat)
  | noEmail (label : String)
  | badFormat (label : String)
deriving DecidableEq, Repr

def Violation.message : Violation → String
  | .missing label => s!"{label} is required"
  | .tooLong label most => s!"{label} must be at most {most} characters"
  | .tooShort label least => s!"{label} must be at least {least} characters"
  | .noEmail label => s!"{label} is not a valid email address"
  | .badFormat label => s!"{label} has an invalid format"

/-- Why a policy or a desk does not let an operation happen. -/
inductive Refusal where
  | levelExceeded (wanted own : Int)
  | reservedCode (code : String)
  | ownParent
  | unsaved
deriving DecidableEq, Repr

def Refusal.message : Refusal → String
  | .levelExceeded wanted own =>
    s!"ACL type {Number.intText wanted} exceeds your own level {Number.intText own}"
  | .reservedCode code => s!"{code} is system reserved and cannot be deleted"
  | .ownParent => "a department cannot be its own parent"
  | .unsaved => "unsaved record cannot be deleted"

/-- How a schema and the data form of its records disagree. -/
inductive SchemaFault where
  | noObject
  | repeatedField (name : String)
  | missingField (name : String)
  | comparableCollection (name : String)
deriving DecidableEq, Repr

def SchemaFault.message (entityType : String) : SchemaFault → String
  | .noObject => s!"{entityType} must serialize to a JSON object"
  | .repeatedField name => s!"{entityType} declares field '{name}' more than once"
  | .missingField name => s!"{entityType} field '{name}' is missing from its serialized form"
  | .comparableCollection name => s!"{entityType} collection '{name}' cannot be comparable"

/-- Why data does not read back as a record. Only the faults that request values can cause are told
apart. -/
inductive Unreadable where
  | nullInteger
  | integerOutOfRange (n : Int)
  | other
deriving DecidableEq, Repr

def Unreadable.message : Unreadable → String
  | .nullInteger => "invalid type: null, expected i32"
  | .integerOutOfRange n => s!"invalid value: integer \x60{Number.intText n}\x60, expected i32"
  | .other => "invalid data"

/-- Why the program gives up on a request: a sum is no word, or an order contradicts itself in a sort. -/
inductive Panic where
  | overflow
  | disorder
deriving DecidableEq, Repr

def Panic.message : Panic → String
  | .overflow => "attempt to add with overflow"
  | .disorder => "user-provided comparison function does not correctly implement a total order"

inductive Error where
  /-- An error known only by its category and text. -/
  | stated (category : ErrorCategory) (text : String)
  | malformedIdentifier (raw reason : String)
  | violated (violations : List Violation)
  | invalidValue (label raw : String)
  | unreadable (label : String) (fault : Unreadable)
  | taken (label text : String)
  /-- A create request that names an existing record. -/
  | alreadySaved
  /-- An update request that names no record. -/
  | unnamed
  | required (what : String)
  | changedFlag (raw : String)
  | noRevision (key : String)
  | outsideScope (signinid : String)
  | departmentOutsideScope
  | refused (refusal : Refusal)
  | absent (label key : String)
  | gone (label key : String)
  | modified (entityType key : String) (expected found : Int)
  | duplicateSubmission
  | stale (entityType key : String)
  | exportFormat (raw : String)
  | unknownState (raw : String)
  | schema (entityType : String) (fault : SchemaFault)
  /-- A record whose data form is no object takes no request values. -/
  | unbindable (entityType : String)
  | undecodable (entityType : String)
  /-- Only a record with an identifier can be deleted. -/
  | unidentified
  | panic (cause : Panic)
deriving DecidableEq, Repr

namespace Error

def category : Error → ErrorCategory
  | .stated category _ => category
  | .malformedIdentifier .. => .invalidIdentifier
  | .violated _ | .invalidValue .. | .unreadable .. | .taken .. | .alreadySaved | .unnamed
  | .required _ | .changedFlag _ | .noRevision _ => .validation
  | .outsideScope _ | .departmentOutsideScope => .permissionDenied
  | .refused _ => .preconditionRejected
  | .absent .. | .gone .. => .notFound
  | .modified .. => .conflict
  | .duplicateSubmission => .duplicateSubmission
  | .stale .. => .staleReference
  | .exportFormat _ | .unknownState _ => .unsupportedOperation
  | .schema .. | .unbindable _ => .configuration
  | .undecodable _ | .unidentified => .store
  | .panic _ => .panic

def detail : Error → String
  | .stated _ text => text
  | .malformedIdentifier raw reason => s!"invalid identifier '{raw}': {reason}"
  | .violated violations => String.intercalate "; " (violations.map Violation.message)
  | .invalidValue label raw => s!"{label}: invalid value '{raw}'"
  | .unreadable label fault => s!"Invalid {label} data: {fault.message}"
  | .taken label text => s!"{label} '{text}' already exists"
  | .alreadySaved => "do-create does not accept an existing record"
  | .unnamed => "id is required for update"
  | .required what => s!"{what} is required"
  | .changedFlag raw => s!"changed must be true or false, got '{raw}'"
  | .noRevision key => s!"{key} must be a revision number"
  | .outsideScope signinid => s!"user '{signinid}' is outside your administrative scope"
  | .departmentOutsideScope => "the selected department is outside your administrative scope"
  | .refused refusal => refusal.message
  | .absent label key => s!"{label} '{key}' not found"
  | .gone label key => s!"{label} '{key}' no longer exists"
  | .modified entityType key expected found =>
    s!"{entityType} '{key}' was modified concurrently (expected version " ++
      s!"{Number.intText expected}, found {Number.intText found})"
  | .duplicateSubmission => "the form has already been processed"
  | .stale entityType key => s!"referenced {entityType} '{key}' no longer exists"
  | .exportFormat raw => s!"export format '{raw}'"
  | .unknownState raw => s!"state '{raw}'"
  | .schema entityType fault => fault.message entityType
  | .unbindable entityType => s!"{entityType} does not serialize to a JSON object"
  | .undecodable entityType => s!"Failed to decode stored {entityType}"
  | .unidentified => "Cannot delete an entity without id"
  | .panic cause => cause.message

def message (e : Error) : String := e.category.lead ++ e.detail

def status (e : Error) : Nat := e.category.status

end Error
end Registrar
