import Registrar.Batch
import Registrar.Proofs.Entries

/-!
What the outcome of a batch says of its failures. A batch gives each record to the operation once, in
order, and a failing record stops no other. The outcome counts the keys of the failures. Main statement:
its type, its message and its entries tell how many records failed just if no two failures have the same
key.
-/

namespace Registrar

namespace Entries

variable {β : Type}

theorem perm_putAll_iff {pairs : List (String × β)} :
    (putAll [] pairs).Perm pairs ↔ (pairs.map Prod.fst).Nodup := by
  refine ⟨fun perm => ?_, fun distinct => ?_⟩
  · have ordered : Ordered (putAll [] pairs) := Ordered.putAll .nil pairs
    have distinct : ((putAll [] pairs).map Prod.fst).Nodup := by
      rw [List.Nodup, List.pairwise_map]
      exact ordered.imp String.ne_of_lt
    exact (perm.map Prod.fst).nodup_iff.1 distinct
  · have apart : (([] ++ pairs).map Prod.fst).Nodup := distinct
    exact perm_putAll apart

theorem putAll_eq_nil_iff {entries pairs : List (String × β)} :
    putAll entries pairs = [] ↔ entries = [] ∧ pairs = [] := by
  induction pairs generalizing entries with
  | nil => simp [putAll]
  | cons pair r ih =>
    have some : put pair.1 pair.2 entries ≠ [] := by
      intro none
      have found := get?_put_self pair.1 pair.2 entries
      rw [none] at found
      cases found
    have rest : putAll entries (pair :: r) = putAll (put pair.1 pair.2 entries) r := rfl
    simp [rest, ih, some]

end Entries

namespace Batch

variable {σ E : Type} (operation : σ → E → σ × Except Error Unit)

/-- How a batch works through targets, from a state to the one in which it ends. Each record is given to
the operation in the state that the records before it have left, and what fails stays behind with its
error. -/
inductive Works : σ → List (Target E) → List (String × Error) → σ → Prop
  | nil (s : σ) : Works s [] [] s
  | done {s t u : σ} {key : String} {e : E} {r : List (Target E)} {failures : List (String × Error)}
      (does : operation s e = (t, .ok ())) (rest : Works t r failures u) :
      Works s (⟨key, .ok e⟩ :: r) failures u
  | failed {s t u : σ} {key : String} {e : E} {r : List (Target E)}
      {failures : List (String × Error)} {fault : Error}
      (fails : operation s e = (t, .error fault)) (rest : Works t r failures u) :
      Works s (⟨key, .ok e⟩ :: r) ((key, fault) :: failures) u
  | absent {s u : σ} {key : String} {r : List (Target E)} {failures : List (String × Error)}
      {fault : Error} (rest : Works s r failures u) :
      Works s (⟨key, .error fault⟩ :: r) ((key, fault) :: failures) u

theorem exists_works (s : σ) (targets : List (Target E)) :
    ∃ failures t, Works operation s targets failures t := by
  induction targets generalizing s with
  | nil => exact ⟨[], s, .nil s⟩
  | cons target r ih =>
    obtain ⟨key, record⟩ := target
    cases record with
    | error fault =>
      obtain ⟨failures, t, rest⟩ := ih s
      exact ⟨_, t, .absent rest⟩
    | ok e =>
      cases does : operation s e with
      | mk s' answer =>
        obtain ⟨failures, t, rest⟩ := ih s'
        cases answer with
        | ok _ => exact ⟨failures, t, .done does rest⟩
        | error fault => exact ⟨_, t, .failed does rest⟩

def records (targets : List (Target E)) : List E :=
  targets.filterMap fun target => target.record.toOption

def messages (failures : List (String × Error)) : List (String × String) :=
  failures.map fun (key, fault) => (key, fault.message)

theorem keys_messages (failures : List (String × Error)) :
    (messages failures).map Prod.fst = failures.map Prod.fst := by
  simp [messages]

@[simp] theorem length_messages (failures : List (String × Error)) :
    (messages failures).length = failures.length := by
  simp [messages]

namespace Works

variable {operation} {s t : σ} {targets : List (Target E)} {failures : List (String × Error)}

theorem length_le (works : Works operation s targets failures t) :
    failures.length ≤ targets.length := by
  induction works with
  | nil => simp
  | done _ _ ih => simp; omega
  | failed _ _ ih => simpa using ih
  | absent _ ih => simpa using ih

theorem end_eq (works : Works operation s targets failures t) :
    t = (records targets).foldl (fun s e => (operation s e).1) s := by
  induction works with
  | nil => rfl
  | done does _ ih => simpa [records, Except.toOption, does] using ih
  | failed fails _ ih => simpa [records, Except.toOption, fails] using ih
  | absent _ ih => simpa [records, Except.toOption] using ih

theorem run_eq (works : Works operation s targets failures t) (errors : List (String × String)) :
    run operation s errors targets = (t, Entries.putAll errors (messages failures)) := by
  induction works generalizing errors with
  | nil => rfl
  | done does _ ih => simp [run, step, does, ih]
  | failed fails _ ih => simp [run, step, fails, ih, messages, Entries.putAll]
  | absent _ ih => simp [run, step, ih, messages, Entries.putAll]

theorem execute_eq (works : Works operation s targets failures t) (name : String) :
    execute name operation s targets =
      (t, classify name targets.length (Entries.putAll [] (messages failures))) := by
  simp [execute, works.run_eq]

end Works

/-- An outcome that tells how many of a number of records failed, with an entry for each failure. -/
structure Counts (name : String) (total : Nat) (failures : List (String × Error)) (o : Outcome) :
    Prop where
  success_iff : o.type = .success ↔ failures.length = 0
  failure_iff : o.type = .failure ↔ failures.length = total ∧ 0 < total
  warning_iff : o.type = .warning ↔ 0 < failures.length ∧ failures.length < total
  completed : failures.length = 0 → o.message = s!"{name} completed: {total} record(s)"
  processed : 0 < failures.length → failures.length < total →
    o.message =
      s!"{name} processed. {total - failures.length} succeeded, {failures.length} failed"
  entries : (o.errors.getD []).Perm (messages failures)

theorem errors_classify (name : String) (total : Nat) (errors : List (String × String)) :
    (classify name total errors).errors.getD [] = errors := by
  unfold classify
  dsimp only
  split
  · next none => simp [Outcome.success, List.length_eq_zero_iff.1 none]
  · split <;> rfl

theorem counts_classify {name : String} {total : Nat} {failures : List (String × Error)}
    {errors : List (String × String)} (perm : errors.Perm (messages failures))
    (within : failures.length ≤ total) :
    Counts name total failures (classify name total errors) := by
  have same : errors.length = failures.length := by simpa using perm.length_eq
  have entries := (errors_classify name total errors).symm ▸ perm
  unfold classify at entries ⊢
  dsimp only at entries ⊢
  rw [same] at entries ⊢
  split
  · next none => constructor <;> simp_all [Outcome.success]
  · next some =>
    have positive : 0 < failures.length := Nat.pos_of_ne_zero some
    split
    · next all => constructor <;> simp_all
    · next part =>
      have fewer : failures.length < total := Nat.lt_of_le_of_ne within part
      constructor <;> simp_all

/-- A batch runs the operation on its records in order, succeeds just if nothing fails, and counts its
failures just if their keys differ. -/
theorem counts_iff_keys_differ (name : String) (s : σ) (targets : List (Target E)) :
    (∃ failures t, Works operation s targets failures t) ∧
    ∀ failures t, Works operation s targets failures t →
      (execute name operation s targets).1 = t ∧
      t = (records targets).foldl (fun s e => (operation s e).1) s ∧
      ((execute name operation s targets).2.type = .success ↔ failures = []) ∧
      (Counts name targets.length failures (execute name operation s targets).2 ↔
        (failures.map Prod.fst).Nodup) := by
  refine ⟨exists_works operation s targets, fun failures t works => ?_⟩
  rw [works.execute_eq name]
  refine ⟨rfl, works.end_eq, ?_, fun counts => ?_, fun distinct => ?_⟩
  · rw [classify_success_iff, Entries.putAll_eq_nil_iff]
    simp [messages]
  · have perm := counts.entries
    rw [errors_classify, Entries.perm_putAll_iff, keys_messages] at perm
    exact perm
  · refine counts_classify (Entries.perm_putAll_iff.2 ?_) works.length_le
    rw [keys_messages]
    exact distinct

/-- Of two records under one key, both fail and one is counted. -/
theorem twins_counted_once :
    let fault := Error.refused .unsaved
    let operation := fun (s : Unit) (_ : Unit) => (s, (.error fault : Except Error Unit))
    let targets : List (Target Unit) := [⟨"7", .ok ()⟩, ⟨"7", .ok ()⟩]
    let failures := [("7", fault), ("7", fault)]
    let outcome := (execute "Delete" operation () targets).2
    Works operation () targets failures () ∧ outcome.errorCount = 1 ∧
      outcome.message = "Delete processed. 1 succeeded, 1 failed" ∧
      ¬Counts "Delete" 2 failures outcome := by
  refine ⟨.failed rfl (.failed rfl (.nil ())), by decide +kernel, by decide +kernel, fun counts => ?_⟩
  have failed := counts.failure_iff.2 (by decide)
  exact absurd failed (by decide +kernel)

end Batch
end Registrar
