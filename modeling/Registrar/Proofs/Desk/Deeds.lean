import Registrar.Desk.Change
import Registrar.Proofs.Store.Run

/-!
What a desk's answers do to the store. Whatever a client asks for, the desk saves some records that
it has checked and deletes some others. Main statements: the ways in which a creation, an update and
the work on one record go; each saved record stems from one that was stored at the start or from a
blank one.
-/

namespace Registrar

namespace Desk

/-- What a client asks of a desk. A batch changes all records that the request lists. -/
inductive Job (E : Type)
  | create (params : Params)
  | update (params : Params)
  | save (params : Params)
  | delete (params : Params)
  | batch (name event : String) (change : E → E) (params : Params)

variable {I E : Type} [Identifier I] [DecidableEq I] (d : Desk I E)

def perform (supply : Supply) (caller : Caller) : Job E → Action Outcome
  | .create params => d.doCreate supply params caller
  | .update params => d.doUpdate supply params caller
  | .save params => d.doSave supply params caller
  | .delete params => d.doDelete supply params caller
  | .batch name event change params => d.batchUpdate name event supply change params caller

/-- A record to start from: a stored one, or a blank one. -/
def Drawn (s : Store) (e : E) : Prop :=
  e = d.kind.blank ∨ ∃ id, s.find? d.kind id = .ok (some e)

/-- What a job makes of a record before the policy prepares it. -/
inductive Edited : Job E → E → E → Prop
  | bound {job : Job E} {params : Params} {e edited : E} :
    d.kind.bind params e = .ok edited → Edited job e edited
  | changed {name event : String} {change : E → E} {params : Params} {e : E} :
    Edited (.batch name event change params) e (change e)

/-- The policy has prepared a record, which may be stamped after that. -/
def Prepared (e prepared : E) : Prop :=
  ∃ caller x, d.policy.prepare e caller = .ok x ∧
    (prepared = x ∨ ∃ actor now, prepared = d.kind.stamp actor now x)

/-- A record that a job may save. -/
def Origin (job : Job E) (s : Store) (e : E) : Prop :=
  ∃ drawn edited, d.Drawn s drawn ∧ d.Edited job drawn edited ∧ d.Prepared edited e

/-- Saves of checked records and deletes, one after another, from a store. -/
inductive Deeds (supply : Supply) (job : Job E) (start : Store) : Store → Prop
  | none : Deeds supply job start start
  | save {s : Store} (before : Deeds supply job start s) (author : Author) {e : E}
      (origin : d.Origin job start e) {rules : RuleSet} {creating : Bool}
      (checked : d.check rules creating e s = .ok ()) :
      Deeds supply job start (s.save d.kind supply author e).1
  | delete {s : Store} (before : Deeds supply job start s) (now : Instant) (author : Author)
      (e : E) : Deeds supply job start (s.delete d.kind now author e).1

/-- A record is refused and the store left alone, or it passes the check and is saved. -/
inductive Filed (supply : Supply) (author : Author) (creating : Bool) (e : E) (s : Store) :
    Store → Except Error E → Prop
  | refused (fault : Error) : Filed supply author creating e s s (.error fault)
  | saved {rules : RuleSet} (checked : d.check rules creating e s = .ok ()) :
    Filed supply author creating e s (s.save d.kind supply author e).1
      (s.save d.kind supply author e).2

theorem filed_commit (supply : Supply) (occasion : Occasion) (creating : Bool) (e : E)
    (r : Registry) :
    d.Filed supply occasion.author creating e r.store
      (d.commit supply occasion creating e r).1.store
      (d.commit supply occasion creating e r).2 := by
  unfold commit
  dsimp only [rules]
  split
  · next fault _ => exact .refused fault
  · next checked => exact .saved checked

theorem create_cases (supply : Supply) (occasion : Occasion) (e : E) (r : Registry) :
    (∃ fault, d.create supply occasion e r = (r, .error fault)) ∨
    ∃ x, d.policy.prepare e occasion.caller = .ok x ∧
      d.Filed supply occasion.author true (d.kind.stamp occasion.caller.userId supply.now x)
        r.store (d.create supply occasion e r).1.store (d.create supply occasion e r).2 := by
  unfold create
  split
  · exact .inl ⟨_, rfl⟩
  · split
    · exact .inl ⟨_, rfl⟩
    · next x prepared => exact .inr ⟨x, prepared, d.filed_commit ..⟩

theorem update_cases (supply : Supply) (occasion : Occasion) (e : E) (r : Registry) :
    (∃ fault, d.update supply occasion e r = (r, .error fault)) ∨
    ∃ x, d.policy.prepare e occasion.caller = .ok x ∧
      d.Filed supply occasion.author false x
        r.store (d.update supply occasion e r).1.store (d.update supply occasion e r).2 := by
  unfold update
  split
  · exact .inl ⟨_, rfl⟩
  · split
    · exact .inl ⟨_, rfl⟩
    · next x prepared => exact .inr ⟨x, prepared, d.filed_commit ..⟩

omit [DecidableEq I] in
/-- A request changes the record that it names, or a blank one, with its values in it, if the caller
may access the record. -/
theorem working_cases {params : Params} {caller : Caller} {s : Store} {e : E}
    (h : d.working params caller s = .ok e) :
    ∃ drawn, d.policy.permit drawn caller = .ok () ∧ d.kind.bind params drawn = .ok e ∧
      ((requestId (I := I) params = .ok none ∧ drawn = d.kind.blank) ∨
        ∃ id, requestId params = .ok (some id) ∧ s.find? d.kind id = .ok (some drawn)) := by
  have of_fill {x : E} (h : d.fill params caller x = .ok e) :
      d.policy.permit x caller = .ok () ∧ d.kind.bind params x = .ok e := by
    unfold fill at h
    split at h
    · next permitted => exact ⟨permitted, h⟩
    · cases h
  unfold working named at h
  cases hid : requestId (I := I) params with
  | error fault => simp [hid] at h
  | ok id? =>
    cases id? with
    | none =>
      simp only [hid, Option.getD_none] at h
      obtain ⟨permitted, bound⟩ := of_fill h
      exact ⟨_, permitted, bound, .inl ⟨rfl, rfl⟩⟩
    | some id =>
      simp only [hid, Store.get] at h
      split at h
      · next found? hfound =>
        cases found : s.find? d.kind id with
        | error fault =>
          rw [found] at hfound
          cases hfound
        | ok stored? =>
          rw [found] at hfound
          cases stored? with
          | none => cases hfound
          | some stored =>
            cases hfound
            obtain ⟨permitted, bound⟩ := of_fill h
            exact ⟨stored, permitted, bound, .inr ⟨id, rfl, found⟩⟩
      · cases h

omit [DecidableEq I] in
theorem of_working {params : Params} {caller : Caller} {s : Store} {e : E}
    (h : d.working params caller s = .ok e) :
    ∃ drawn, d.kind.bind params drawn = .ok e ∧
      ((requestId (I := I) params = .ok none ∧ drawn = d.kind.blank) ∨
        ∃ id, requestId params = .ok (some id) ∧ s.find? d.kind id = .ok (some drawn)) := by
  obtain ⟨drawn, _, bound, named⟩ := d.working_cases h
  exact ⟨drawn, bound, named⟩

omit [DecidableEq I] in
theorem report_cases (message : String) (params : Params) (caller : Caller)
    (change : E → Action E) (r : Registry) :
    (∃ fault, d.report message params caller change r = (r, .error fault)) ∨
    ∃ e, d.working params caller r.store = .ok e ∧
      d.report message params caller change r = ((change e r).1,
        (change e r).2.map fun saved => .success message (some (d.kind.encode saved))) := by
  unfold report
  split
  · exact .inl ⟨_, rfl⟩
  · next e worked => exact .inr ⟨e, worked, rfl⟩

end Desk
end Registrar
