import Registrar.Proofs.Desk.Deeds
import Registrar.Proofs.Distinct
import Registrar.Proofs.Store.Recorded

/-!
The course of a request. A desk either enters a new record, or it works on stored ones, each of which
it takes up once, as it was at the start. Main statements: what a desk saves or deletes for a caller
was open to the caller and is prepared for the caller; and a request that fails changes nothing.
-/

namespace Registrar

theorem Entries.length_put_le {β : Type} (key : String) (value : β)
    (entries : List (String × β)) : (put key value entries).length ≤ entries.length + 1 := by
  induction entries with
  | nil => exact Nat.le_refl _
  | cons entry r ih =>
    obtain ⟨k, v⟩ := entry
    unfold put
    split
    · exact Nat.le_refl _
    · split
      · exact Nat.le_succ _
      · exact Nat.succ_le_succ ih

namespace Batch

variable {σ E : Type} (operation : σ → E → σ × Except Error Unit)

theorem run_steps {P : σ → List (Target E) → Prop}
    (step : ∀ s target r, P s (target :: r) → P (Batch.step operation s target).1 r) {s : σ}
    {targets : List (Target E)} (errors : List (String × String)) (start : P s targets) :
    P (run operation s errors targets).1 [] := by
  induction targets generalizing s errors with
  | nil => exact start
  | cons target r ih =>
    have first := step s target r start
    unfold run
    split
    · next s' h =>
      rw [h] at first
      exact ih errors first
    · next s' fault h =>
      rw [h] at first
      exact ih _ first

theorem length_run_le (s : σ) (errors : List (String × String)) (targets : List (Target E)) :
    (run operation s errors targets).2.length ≤ errors.length + targets.length := by
  induction targets generalizing s errors with
  | nil => exact Nat.le_refl _
  | cons target r ih =>
    unfold run
    split
    · next s' h =>
      have := ih s' errors
      simp only [List.length_cons]
      omega
    · next s' fault h =>
      have := ih s' (Entries.put target.key fault.message errors)
      have := Entries.length_put_le target.key fault.message errors
      simp only [List.length_cons]
      omega

theorem run_failed {P : σ → Prop}
    (step : ∀ s target s' fault, Batch.step operation s target = (s', .error fault) → P s → P s')
    {s : σ} {errors : List (String × String)} {targets : List (Target E)}
    (all : (run operation s errors targets).2.length = errors.length + targets.length)
    (start : P s) : P (run operation s errors targets).1 := by
  induction targets generalizing s errors with
  | nil => exact start
  | cons target r ih =>
    unfold run at all ⊢
    split
    · next s' h =>
      rw [h] at all
      have := length_run_le operation s' errors r
      simp only [List.length_cons] at all
      omega
    · next s' fault h =>
      rw [h] at all
      have room := length_run_le operation s' (Entries.put target.key fault.message errors) r
      have more := Entries.length_put_le target.key fault.message errors
      simp only [List.length_cons] at all
      exact ih (by omega) (step s target s' fault h start)

end Batch

/-- The request answers an error, or it tells that no record could be worked on. -/
def Outcome.Fails (answer : Except Error Outcome) : Prop :=
  ∀ outcome, answer = .ok outcome → outcome.type = .failure

theorem Identifier.nodup_parseAll {I : Type} [Identifier I] [BEq I] [LawfulBEq I]
    {raw : List String} {ids : List I} (h : parseAll raw = .ok ids) : ids.Nodup := by
  unfold parseAll at h
  split at h
  · cases h
  · cases h
    exact nodup_eraseDups _

namespace Desk

variable {I E : Type} [Identifier I] [DecidableEq I] (d : Desk I E)

def Job.event : Job E → String
  | .create _ => "do-create"
  | .update _ => "do-update"
  | .save _ => "do-save"
  | .delete _ => "do-delete"
  | .batch _ event _ _ => event

/-- What a job makes of a record that the caller may handle, prepared for the caller. -/
structure Draft (supply : Supply) (caller : Caller) (job : Job E) (drawn e : E) : Prop where
  permitted : d.policy.permit drawn caller = .ok ()
  made : ∃ edited x, d.Edited job drawn edited ∧ d.policy.prepare edited caller = .ok x ∧
    (e = x ∨ e = d.kind.stamp caller.userId supply.now x)

/-- Saves and deletes for a caller, each of another record that the store has at the start. The list
tells which identifiers have had their turn, with or without an effect. -/
inductive Course (supply : Supply) (caller : Caller) (job : Job E) (start : Store) :
    List I → Store → Prop
  | none : Course supply caller job start [] start
  | pass {taken : List I} {s : Store} (before : Course supply caller job start taken s) (id : I) :
      Course supply caller job start (id :: taken) s
  | save {taken : List I} {s : Store} (before : Course supply caller job start taken s) {id : I}
      (other : id ∉ taken) {stored e : E} (found : start.find? d.kind id = .ok (some stored))
      (draft : d.Draft supply caller job stored e) {rules : RuleSet} {creating : Bool}
      (checked : d.check rules creating e s = .ok ()) :
      Course supply caller job start (id :: taken)
        (s.save d.kind supply ⟨caller.userId, job.event⟩ e).1
  | delete {taken : List I} {s : Store} (before : Course supply caller job start taken s) {id : I}
      (other : id ∉ taken) {stored : E} (found : start.find? d.kind id = .ok (some stored))
      (permitted : d.policy.permit stored caller = .ok ()) :
      Course supply caller job start (id :: taken)
        (s.delete d.kind supply.now ⟨caller.userId, job.event⟩ stored).1

/-- What a job comes to: a new record is saved, or there is a course through stored ones. -/
inductive Handled (supply : Supply) (caller : Caller) (job : Job E) (start : Store) : Store → Prop
  | entered {e : E} (draft : d.Draft supply caller job d.kind.blank e) {rules : RuleSet}
      {creating : Bool} (checked : d.check rules creating e start = .ok ()) :
      Handled supply caller job start
        (start.save d.kind supply ⟨caller.userId, job.event⟩ e).1
  | course {taken : List I} {t : Store} (course : d.Course supply caller job start taken t) :
      Handled supply caller job start t

/-- A change is refused, or what is prepared of the record for the caller is filed. -/
inductive Files (supply : Supply) (occasion : Occasion) (e : E) (r : Registry) :
    Registry × Except Error E → Prop
  | refused (fault : Error) : Files supply occasion e r (r, .error fault)
  | filed {x finished : E} {creating : Bool} {result : Registry × Except Error E}
      (prepared : d.policy.prepare e occasion.caller = .ok x)
      (stamped : finished = x ∨ finished = d.kind.stamp occasion.caller.userId supply.now x)
      (filed : d.Filed supply occasion.author creating finished r.store result.1.store result.2) :
      Files supply occasion e r result

/-- An operation on a stored record fails and leaves the store as it is, or it saves or deletes the
record for the caller. -/
inductive Handles (supply : Supply) (caller : Caller) (job : Job E) (stored : E) (s : Store) :
    Store → Except Error Unit → Prop
  | failed (fault : Error) : Handles supply caller job stored s s (.error fault)
  | saved {e : E} (draft : d.Draft supply caller job stored e) {rules : RuleSet} {creating : Bool}
      (checked : d.check rules creating e s = .ok ()) :
      Handles supply caller job stored s (s.save d.kind supply ⟨caller.userId, job.event⟩ e).1
        ((s.save d.kind supply ⟨caller.userId, job.event⟩ e).2.map fun _ => ())
  | deleted (permitted : d.policy.permit stored caller = .ok ()) :
      Handles supply caller job stored s
        (s.delete d.kind supply.now ⟨caller.userId, job.event⟩ stored).1
        (s.delete d.kind supply.now ⟨caller.userId, job.event⟩ stored).2

section Changes

variable (supply : Supply) (occasion : Occasion) (caller : Caller) (e : E) (r : Registry)

theorem files_create : d.Files supply occasion e r (d.create supply occasion e r) := by
  rcases d.create_cases supply occasion e r with ⟨fault, refused⟩ | ⟨x, prepared, filed⟩
  · rw [refused]
    exact .refused fault
  · exact .filed prepared (.inr rfl) filed

theorem files_update : d.Files supply occasion e r (d.update supply occasion e r) := by
  rcases d.update_cases supply occasion e r with ⟨fault, refused⟩ | ⟨x, prepared, filed⟩
  · rw [refused]
    exact .refused fault
  · exact .filed prepared (.inl rfl) filed

theorem handles_discard (params : Params) :
    d.Handles supply caller (.delete params) e r.store (d.discard supply caller e r).1.store
      (d.discard supply caller e r).2 := by
  unfold discard
  split
  · exact .failed _
  · next permitted =>
    split
    · exact .failed _
    · split
      · exact .failed _
      · exact .deleted permitted

theorem handles_amend (name event : String) (change : E → E) (params : Params) :
    d.Handles supply caller (.batch name event change params) e r.store
      (d.amend supply ⟨caller, event⟩ change e r).1.store
      (d.amend supply ⟨caller, event⟩ change e r).2 := by
  unfold amend
  split
  · exact .failed _
  · next permitted =>
    rcases d.update_cases supply ⟨caller, event⟩ (change e) r with
      ⟨fault, refused⟩ | ⟨x, prepared, filed⟩
    · rw [refused]
      exact .failed fault
    · dsimp only
      generalize (d.update supply ⟨caller, event⟩ (change e) r).2 = answer at filed ⊢
      generalize (d.update supply ⟨caller, event⟩ (change e) r).1.store = t at filed ⊢
      cases filed with
      | refused fault => exact .failed fault
      | saved checked => exact .saved ⟨permitted, _, x, .changed, prepared, .inl rfl⟩ checked

/-- A job changes the request's record, or it runs an operation on several stored ones. -/
theorem perform_cases (job : Job E) :
    (∃ message params change, d.perform supply caller job = d.report message params caller change ∧
      ∀ e r, d.Files supply ⟨caller, job.event⟩ e r (change e r)) ∨
    ∃ name params operation, d.perform supply caller job = d.batch name operation params ∧
      ∀ e (r : Registry), d.Handles supply caller job e r.store (operation e r).1.store
        (operation e r).2 := by
  cases job with
  | create params =>
    rw [perform, doCreate]
    refine .inl ⟨_, params, _, rfl, fun e r => ?_⟩
    by_cases new : d.kind.isNew e
    · rw [if_pos new]
      exact d.files_create ..
    · rw [if_neg new]
      exact .refused _
  | update params =>
    rw [perform, doUpdate]
    refine .inl ⟨_, params, _, rfl, fun e r => ?_⟩
    by_cases new : d.kind.isNew e
    · rw [if_pos new]
      exact .refused _
    · rw [if_neg new]
      exact d.files_update ..
  | save params =>
    rw [perform, doSave]
    refine .inl ⟨_, params, _, rfl, fun e r => ?_⟩
    unfold Desk.save
    split
    · exact d.files_create ..
    · exact d.files_update ..
  | delete params =>
    exact .inr ⟨_, params, _, rfl, fun e r => d.handles_discard supply caller e r params⟩
  | batch name event change params =>
    exact .inr ⟨name, params, _, rfl, fun e r =>
      d.handles_amend supply caller e r name event change params⟩

end Changes

section Keeping

variable {d} {supply : Supply} {caller : Caller} {r : Registry} {P : Registry → Prop}

omit [DecidableEq I] in
theorem report_keeps (message : String) (params : Params) {change : E → Action E}
    (step : ∀ e, P (change e r).1) (h : P r) : P (d.report message params caller change r).1 := by
  rcases d.report_cases message params caller change r with ⟨fault, refused⟩ | ⟨e, _, done⟩
  · rw [refused]
    exact h
  · rw [done]
    exact step e

theorem batch_keeps (name : String) (params : Params) {operation : E → Action Unit}
    (step : ∀ e (r : Registry), P r → P (operation e r).1) (h : P r) :
    P (d.batch name operation params r).1 := by
  unfold batch
  split
  · exact h
  · refine Batch.run_steps _ (P := fun r _ => P r) (fun r target _ h => ?_) [] h
    unfold Batch.step
    split
    · exact step _ r h
    · exact h

omit [DecidableEq I] in
theorem discard_keeps (e : E)
    (delete : ∀ author, P { r with store := (r.store.delete d.kind supply.now author e).1 })
    (h : P r) : P (d.discard supply caller e r).1 := by
  unfold discard
  split
  · exact h
  · split
    · exact h
    · split
      · exact h
      · exact delete _

end Keeping

section Failures

variable {d} {supply : Supply} {occasion : Occasion} {caller : Caller} {r : Registry}
variable {fault : Error}

theorem Files.untouched {e : E} {result : Registry × Except Error E}
    (files : d.Files supply occasion e r result) (failed : result.2 = .error fault) :
    r.store.Untouched result.1.store := by
  cases files with
  | refused fault => exact ⟨rfl, rfl⟩
  | filed prepared stamped filed =>
    rw [failed] at filed
    generalize hanswer : (Except.error fault : Except Error E) = answer at filed
    generalize result.1.store = t at filed ⊢
    cases filed with
    | refused fault => exact ⟨rfl, rfl⟩
    | saved checked =>
      obtain ⟨rows, revisions⟩ := Store.save_error d.kind hanswer.symm
      exact ⟨rows, revisions⟩

theorem Handles.untouched {job : Job E} {stored : E} {s t : Store} {answer : Except Error Unit}
    (handles : d.Handles supply caller job stored s t answer) (failed : answer = .error fault) :
    s.Untouched t := by
  cases handles with
  | failed fault => exact ⟨rfl, rfl⟩
  | @saved e draft rules creating checked =>
    cases hsave : (s.save d.kind supply ⟨caller.userId, job.event⟩ e).2 with
    | error fault =>
      obtain ⟨rows, revisions⟩ := Store.save_error d.kind hsave
      exact ⟨rows, revisions⟩
    | ok saved =>
      rw [hsave] at failed
      cases failed
  | deleted permitted =>
    rw [Store.delete_error d.kind failed]
    exact ⟨rfl, rfl⟩

omit [DecidableEq I] in
theorem untouched_report {message : String} {params : Params} {change : E → Action E}
    (step : ∀ e fault, (change e r).2 = .error fault → r.store.Untouched (change e r).1.store)
    (h : Outcome.Fails (d.report message params caller change r).2) :
    r.store.Untouched (d.report message params caller change r).1.store := by
  rcases d.report_cases message params caller change r with ⟨_, refused⟩ | ⟨e, _, done⟩
  · rw [refused]
    exact ⟨rfl, rfl⟩
  · rw [done] at h ⊢
    cases answer : (change e r).2 with
    | error fault => exact step e fault answer
    | ok saved =>
      rw [answer] at h
      cases h _ rfl

theorem untouched_batch {operation : E → Action Unit} {name : String} {params : Params}
    (step : ∀ e (r : Registry) fault, (operation e r).2 = .error fault →
      r.store.Untouched (operation e r).1.store)
    (h : Outcome.Fails (d.batch name operation params r).2) :
    r.store.Untouched (d.batch name operation params r).1.store := by
  unfold batch at h ⊢
  split
  · exact ⟨rfl, rfl⟩
  · next targets htargets =>
    rw [htargets] at h
    have failed := h _ rfl
    refine Batch.run_failed _ (P := fun s : Registry => r.store.Untouched s.store) ?_ ?_ ⟨rfl, rfl⟩
    · intro s target s' fault failed before
      unfold Batch.step at failed
      split at failed
      · next e _ =>
        have after := step e s fault (congrArg Prod.snd failed)
        rw [congrArg Prod.fst failed] at after
        exact before.trans after
      · cases failed
        exact before
    · simp only [Batch.execute, Batch.classify] at failed
      split at failed
      · cases failed
      · split at failed
        · next all => simpa using all
        · cases failed

variable (d)

/-- A request that fails leaves all rows and revisions as they are. -/
theorem untouched_perform {job : Job E} (h : Outcome.Fails (d.perform supply caller job r).2) :
    r.store.Untouched (d.perform supply caller job r).1.store := by
  rcases d.perform_cases supply caller job with
    ⟨message, params, change, same, files⟩ | ⟨name, params, operation, same, handles⟩
  · rw [same] at h ⊢
    exact untouched_report (fun e _ failed => (files e r).untouched failed) h
  · rw [same] at h ⊢
    exact untouched_batch (fun e r _ failed => (handles e r).untouched failed) h

end Failures

section Courses

variable {d} {supply : Supply} {caller : Caller} {job : Job E} {start s t : Store} {r : Registry}

theorem Files.handled {drawn e : E} {result : Registry × Except Error E}
    (files : d.Files supply ⟨caller, job.event⟩ e r result) (drew : d.Drawn r.store drawn)
    (permitted : d.policy.permit drawn caller = .ok ()) (edited : d.Edited job drawn e) :
    d.Handled supply caller job r.store result.1.store := by
  cases files with
  | refused fault => exact .course .none
  | @filed x finished creating result prepared stamped filed =>
    have draft : d.Draft supply caller job drawn finished :=
      ⟨permitted, e, x, edited, prepared, stamped⟩
    generalize result.1.store = t at filed ⊢
    generalize result.2 = answer at filed
    cases filed with
    | refused fault => exact .course .none
    | saved checked =>
      rcases drew with rfl | ⟨id, found⟩
      · exact .entered draft checked
      · exact .course (.save .none List.not_mem_nil found draft checked)

theorem Handles.course {stored : E} {answer : Except Error Unit}
    (handles : d.Handles supply caller job stored s t answer) {taken : List I} {id : I}
    (other : id ∉ taken) (found : start.find? d.kind id = .ok (some stored))
    (before : d.Course supply caller job start taken s) :
    d.Course supply caller job start (id :: taken) t := by
  cases handles with
  | failed fault => exact before.pass id
  | saved draft checked => exact before.save other found draft checked
  | deleted permitted => exact before.delete other found permitted

omit [DecidableEq I] in
theorem drawn_of_working (job : Job E) {params : Params} {e : E}
    (h : d.working params caller start = .ok e) :
    ∃ drawn, d.Drawn start drawn ∧ d.policy.permit drawn caller = .ok () ∧
      d.Edited job drawn e := by
  obtain ⟨drawn, permitted, bound, named⟩ := d.working_cases h
  refine ⟨drawn, ?_, permitted, .bound bound⟩
  rcases named with ⟨_, blank⟩ | ⟨id, _, found⟩
  · exact .inl blank
  · exact .inr ⟨id, found⟩

theorem handled_report (message : String) (params : Params) {change : E → Action E}
    (files : ∀ e, d.Files supply ⟨caller, job.event⟩ e r (change e r)) :
    d.Handled supply caller job r.store (d.report message params caller change r).1.store := by
  rcases d.report_cases message params caller change r with ⟨_, refused⟩ | ⟨e, worked, done⟩
  · rw [refused]
    exact .course .none
  · obtain ⟨drawn, drew, permitted, edited⟩ := drawn_of_working job worked
    rw [done]
    exact (files e).handled drew permitted edited

variable (d) in
/-- The record of a target of a batch is the one that the store has under an identifier. -/
def Stands (s : Store) (id : I) (target : Target E) : Prop :=
  ∀ e, target.record = .ok e → s.find? d.kind id = .ok (some e)

variable (d) in
theorem of_targets {params : Params} {s : Store} {targets : List (Target E)}
    (h : d.targets params s = .ok targets) :
    ∃ ids : List I, ids.Nodup ∧ List.Forall₂ (d.Stands s) ids targets := by
  unfold Desk.targets at h
  cases hids : Identifier.parseAll (I := I) (params.getAll "ids") with
  | error fault => simp [hids] at h
  | ok ids =>
    rw [hids] at h
    refine ⟨ids, Identifier.nodup_parseAll hids, (forall₂_of_mapM h).imp fun id target read => ?_⟩
    intro e record
    dsimp only at read
    split at read
    · cases read
    · next found? hfound =>
      cases read
      cases found? with
      | none => cases record
      | some stored =>
        cases record
        exact hfound

theorem course_batch (name : String) (params : Params) {operation : E → Action Unit}
    (handles : ∀ e (r : Registry), d.Handles supply caller job e r.store (operation e r).1.store
      (operation e r).2) :
    ∃ taken, d.Course supply caller job r.store taken (d.batch name operation params r).1.store := by
  unfold batch
  split
  · exact ⟨[], .none⟩
  · next targets htargets =>
    obtain ⟨ids, distinct, stand⟩ := d.of_targets htargets
    -- The identifiers ahead are others than those that have had their turn.
    have whole := Batch.run_steps (fun r e => operation e r) (s := r)
      (P := fun s targets => ∃ taken ids, d.Course supply caller job r.store taken s.store ∧
        List.Forall₂ (d.Stands r.store) ids targets ∧ ids.Nodup ∧ ∀ id ∈ ids, id ∉ taken)
      ?_ [] ⟨[], ids, .none, stand, distinct, by simp⟩
    · obtain ⟨taken, _, course, _⟩ := whole
      exact ⟨taken, course⟩
    · rintro s target rest ⟨taken, ids, course, stand, distinct, apart⟩
      cases stand with
      | @cons id _ ids _ stands ahead =>
        obtain ⟨single, distinct⟩ := List.nodup_cons.1 distinct
        have apart' : ∀ i ∈ ids, i ∉ id :: taken := by
          intro i hi old
          rcases List.mem_cons.1 old with rfl | old
          · exact single hi
          · exact apart i (List.mem_cons_of_mem _ hi) old
        refine ⟨id :: taken, ids, ?_, ahead, distinct, apart'⟩
        unfold Batch.step
        split
        · next e record =>
          exact (handles e s).course (apart id List.mem_cons_self) (stands e record) course
        · exact course.pass id

variable (d) in
theorem handled_perform (supply : Supply) (caller : Caller) (job : Job E) (r : Registry) :
    d.Handled supply caller job r.store (d.perform supply caller job r).1.store := by
  rcases d.perform_cases supply caller job with
    ⟨message, params, change, same, files⟩ | ⟨name, params, operation, same, handles⟩
  · rw [same]
    exact handled_report message params fun e => files e r
  · rw [same]
    obtain ⟨_, course⟩ := course_batch (r := r) name params handles
    exact .course course

end Courses

section Deeds

variable {d} {supply : Supply} {caller : Caller} {job : Job E} {start t : Store} {drawn e : E}

omit [DecidableEq I] in
theorem Draft.prepared (draft : d.Draft supply caller job drawn e) :
    ∃ edited, d.Edited job drawn edited ∧ d.Prepared edited e := by
  obtain ⟨edited, x, edits, prepared, finished⟩ := draft.made
  exact ⟨edited, edits, caller, x, prepared, finished.imp id fun stamped => ⟨_, _, stamped⟩⟩

omit [DecidableEq I] in
theorem Draft.origin (draft : d.Draft supply caller job drawn e) (drew : d.Drawn start drawn) :
    d.Origin job start e := by
  obtain ⟨edited, edits, prepared⟩ := draft.prepared
  exact ⟨drawn, edited, drew, edits, prepared⟩

theorem Course.deeds {taken : List I} (course : d.Course supply caller job start taken t) :
    d.Deeds supply job start t := by
  induction course with
  | none => exact .none
  | pass before id ih => exact ih
  | save before other found draft checked ih =>
    exact ih.save _ (draft.origin (.inr ⟨_, found⟩)) checked
  | delete before other found permitted ih => exact ih.delete _ _ _

theorem Handled.deeds (handled : d.Handled supply caller job start t) :
    d.Deeds supply job start t := by
  cases handled with
  | entered draft checked => exact Deeds.none.save _ (draft.origin (.inl rfl)) checked
  | course course => exact course.deeds

variable (d) in
theorem deeds_perform (supply : Supply) (caller : Caller) (job : Job E) (r : Registry) :
    d.Deeds supply job r.store (d.perform supply caller job r).1.store :=
  (d.handled_perform supply caller job r).deeds

end Deeds
end Desk
end Registrar
