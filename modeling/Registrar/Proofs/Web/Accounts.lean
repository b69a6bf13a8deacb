import Registrar.Proofs.Web.Additions

/-!
How the service accounts for what it does. Main statement: whatever a client asks for, the revisions
that come in stand one each for the rows that differ afterwards, and a request that fails leaves rows
and revisions alone.
-/

namespace Registrar.Web

variable {limits : PageLimits} {r : Registry}

theorem recorded_carryOut (limits : PageLimits) (kept : r.store.WellKept) (p : Posted) :
    ∃ revisions, r.store.Recorded ⟨p.caller.userId, p.post.event⟩ (p.apply limits r).store
      revisions := by
  refine p.carryOut_cases limits (P := fun action => ∃ revisions,
    r.store.Recorded ⟨p.caller.userId, p.post.event⟩ (action r).1.store revisions) ?_ ?_ ?_ ?_
  · exact fun _ => ⟨[], Store.Untouched.recorded ⟨rfl, rfl⟩⟩
  · intro order params post
    rw [post, Post.event, ← event_job (E := Department) order params]
    exact ((departments limits).handled_perform p.supply p.caller (order.job params) r).recorded
      Department.kind_lawful departments_keepsId (keepsId_job ..) kept
  · intro order params post
    rw [post, Post.event, ← event_job (E := Role) order params]
    exact ((roles limits).handled_perform p.supply p.caller (order.job params) r).recorded
      Role.kind_lawful roles_keepsId (keepsId_job ..) kept
  · intro job _ event same
    rw [← event]
    exact ((users limits).handled_perform p.supply p.caller job r).recorded
      User.kind_lawful users_keepsId same kept

theorem untouched_carryOut (p : Posted) (failed : Outcome.Fails (p.carryOut limits r).2) :
    r.store.Untouched (p.apply limits r).store := by
  revert failed
  refine p.carryOut_cases limits (P := fun action =>
    Outcome.Fails (action r).2 → r.store.Untouched (action r).1.store) ?_ ?_ ?_ ?_
  · exact fun _ _ => ⟨rfl, rfl⟩
  · exact fun _ _ _ failed => (departments limits).untouched_perform failed
  · exact fun _ _ _ failed => (roles limits).untouched_perform failed
  · exact fun _ _ _ _ failed => (users limits).untouched_perform failed

/-- The rows that differ before and after a request are those that the revisions it appends tell of,
one each, by the caller under the name of the operation. There is one row for each record all along.
A request that answers an error, or that fails for all its records, changes no row and appends no
revision. -/
theorem changes_are_recorded (reached : Reached limits r) (p : Posted) :
    (∃ revisions,
      r.store.Recorded ⟨p.caller.userId, p.post.event⟩ (p.apply limits r).store revisions ∧
      ∀ entityType key,
        r.store.row? entityType key ≠ (p.apply limits r).store.row? entityType key ↔
          ∃ revision ∈ revisions, revision.IsAt entityType key) ∧
    r.store.OneRowEach ∧ (p.apply limits r).store.OneRowEach ∧
    (Outcome.Fails (p.carryOut limits r).2 → r.store.Untouched (p.apply limits r).store) := by
  have kept := reached.kept
  obtain ⟨revisions, recorded⟩ := recorded_carryOut limits kept.wellKept p
  exact ⟨⟨revisions, recorded, recorded.differs_iff⟩, kept.wellKept.oneRowEach,
    (kept_apply p kept).wellKept.oneRowEach, untouched_carryOut p⟩

theorem second_founding_is_recorded :
    Reached {} (withUnit "HR") ∧ ∃ revisions,
      (withUnit "HR").store.Recorded ⟨User.registrar.caller.userId, "do-create"⟩
        ((founded "IT").apply {} (withUnit "HR")).store revisions ∧
      ∃ revision ∈ revisions, revision.IsAt "department" "IT" := by
  obtain ⟨⟨revisions, recorded, differ⟩, _⟩ :=
    changes_are_recorded (reached_withUnit "HR") (founded "IT")
  refine ⟨reached_withUnit "HR", revisions, recorded, (differ "department" "IT").1 fun same => ?_⟩
  have before : (withUnit "HR").store.row? "department" "IT" = none := by rfl
  have after : (((founded "IT").apply {} (withUnit "HR")).store.row? "department" "IT").isSome := by
    rfl
  rw [← same, before] at after
  cases after

end Registrar.Web
