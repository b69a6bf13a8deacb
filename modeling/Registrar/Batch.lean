import Registrar.Entries
import Registrar.Outcome

/-!
Batches: one operation on several records, where a failing record does not stop the others. Failures
are kept by key, and the outcome counts the keys. Main statement: the outcome is a success exactly
when no record failed.
-/

namespace Registrar

/-- A record of a batch under the key the client gave, or why there is none. -/
structure Target (E : Type) where
  key : String
  record : Except Error E

namespace Batch

variable {σ E : Type}

/-- The operation on one target; one without a record fails before it is called. -/
def step (operation : σ → E → σ × Except Error Unit) (s : σ) (target : Target E) :
    σ × Except Error Unit :=
  match target.record with
  | .ok record => operation s record
  | .error e => (s, .error e)

/-- Works through the targets in order and collects the messages of the failures. -/
def run (operation : σ → E → σ × Except Error Unit) :
    σ → List (String × String) → List (Target E) → σ × List (String × String)
  | s, errors, [] => (s, errors)
  | s, errors, target :: r =>
    match step operation s target with
    | (s, .ok ()) => run operation s errors r
    | (s, .error e) => run operation s (Entries.put target.key e.message errors) r

def classify (name : String) (total : Nat) (errors : List (String × String)) : Outcome :=
  let failed := errors.length
  if failed = 0 then .success s!"{name} completed: {total} record(s)"
  else if failed = total then
    { type := .failure, message := s!"{name} failed for all selected records", errors := errors }
  else
    { type := .warning, errors := errors
      message := s!"{name} processed. {total - failed} succeeded, {failed} failed" }

def execute (name : String) (operation : σ → E → σ × Except Error Unit) (s : σ)
    (targets : List (Target E)) : σ × Outcome :=
  let (s, errors) := run operation s [] targets
  (s, classify name targets.length errors)

theorem classify_success_iff (name : String) (total : Nat) (errors : List (String × String)) :
    (classify name total errors).type = .success ↔ errors = [] := by
  unfold classify
  dsimp only
  split
  · next h => simp [Outcome.success, List.length_eq_zero_iff.1 h]
  · next h =>
    have : errors ≠ [] := fun e => h (by simp [e])
    split <;> simp [this]

end Batch
end Registrar
