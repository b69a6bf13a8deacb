import Registrar.Proofs.Desk.Bound
import Registrar.Proofs.Desk.Run

/-!
What the log says about a request. Main statement: the revisions that a request appends stand, one
each, for the rows that it has added, replaced or removed, and name the caller and the operation.
-/

namespace Registrar.Desk

/-- A batch leaves the identifiers of the records as they are. -/
def Job.KeepsId {I E : Type} (k : Kind I E) : Job E → Prop
  | .batch _ _ change _ => ∀ e, k.id (change e) = k.id e
  | _ => True

variable {I E : Type} [Identifier I] {d : Desk I E}

theorem id_of_edited [LawfulIdentifier I] (law : d.kind.Lawful) {job : Job E}
    (keeps : job.KeepsId d.kind) {e edited : E} (h : d.Edited job e edited) :
    d.kind.id edited = d.kind.id e := by
  cases h with
  | bound bound => exact Kind.id_bind law bound
  | changed => exact keeps e

variable (d) in
/-- The desk leaves the identifier of a record that has one, whatever follows from other fields. -/
structure KeepsId : Prop where
  stamp (actor : String) (now : Instant) (e : E) :
    d.kind.id (d.kind.stamp actor now e) = d.kind.id e
  prepare {e x : E} {caller : Caller} : d.kind.isNew e = false →
    d.policy.prepare e caller = .ok x → d.kind.id x = d.kind.id e

section Known

variable [LawfulIdentifier I] {supply : Supply} {caller : Caller} {job : Job E}

theorem Draft.id_eq (law : d.kind.Lawful) (keeps : d.KeepsId) (same : job.KeepsId d.kind)
    {drawn e : E} (known : d.kind.isNew drawn = false)
    (draft : d.Draft supply caller job drawn e) : d.kind.id e = d.kind.id drawn := by
  obtain ⟨edited, x, edits, prepared, finished⟩ := draft.made
  have sameEdited := id_of_edited law same edits
  have stillKnown : d.kind.isNew edited = false := by
    rw [Kind.isNew, sameEdited]
    exact known
  have samePrepared := keeps.prepare stillKnown prepared
  rcases finished with rfl | rfl
  · exact samePrepared.trans sameEdited
  · exact (keeps.stamp ..).trans (samePrepared.trans sameEdited)

theorem Draft.key_named (law : d.kind.Lawful) (keeps : d.KeepsId) (same : job.KeepsId d.kind)
    {start : Store} (kept : start.WellKept) {id : I} {stored e : E}
    (found : start.find? d.kind id = .ok (some stored))
    (draft : d.Draft supply caller job stored e) (s : Store) :
    s.named d.kind supply e = e ∧ d.kind.key e = Identifier.text id := by
  obtain ⟨hid, known⟩ := kept.known_of_find? law found
  have sameId : d.kind.id e = some id := (draft.id_eq law keeps same known).trans hid
  have stillKnown : d.kind.isNew e = false := by
    rw [Kind.isNew, sameId, ← hid]
    exact known
  exact ⟨Store.named_of_not_isNew d.kind stillKnown, Store.key_of_id sameId⟩

end Known

section Logs

variable {author : Author} {start s t : Store} {taken : List I} {id : I}

variable (d) in
/-- The log tells what became of the rows between two stores, which are rows of records with the
given identifiers. -/
def Logs (author : Author) (start t : Store) (taken : List I) : Prop :=
  ∃ revisions, start.Recorded author t revisions ∧
    ∀ r ∈ revisions, ∃ id ∈ taken, r.IsAt d.kind.entityType (Identifier.text id)

theorem logs_self (start : Store) : d.Logs author start start [] :=
  ⟨[], Store.Untouched.recorded ⟨rfl, rfl⟩, by simp⟩

theorem Logs.pass (h : d.Logs author start s taken) (id : I) :
    d.Logs author start s (id :: taken) := by
  obtain ⟨revisions, recorded, places⟩ := h
  refine ⟨revisions, recorded, fun r hr => ?_⟩
  obtain ⟨i, hi, place⟩ := places r hr
  exact ⟨i, List.mem_cons_of_mem _ hi, place⟩

theorem Logs.next [LawfulIdentifier I] (h : d.Logs author start s taken) (other : id ∉ taken)
    {more : List Revision} (rest : s.Recorded author t more)
    (here : ∀ r ∈ more, r.IsAt d.kind.entityType (Identifier.text id)) :
    d.Logs author start t (id :: taken) := by
  obtain ⟨revisions, recorded, places⟩ := h
  refine ⟨revisions ++ more, recorded.trans rest fun a ha b hb there => ?_, fun r hr => ?_⟩
  · obtain ⟨i, hi, place⟩ := places a ha
    have texts := place.2.symm.trans (there.2.symm.trans (here b hb).2)
    exact other (LawfulIdentifier.text_injective texts ▸ hi)
  · rcases List.mem_append.1 hr with hr | hr
    · obtain ⟨i, hi, place⟩ := places r hr
      exact ⟨i, List.mem_cons_of_mem _ hi, place⟩
    · exact ⟨id, List.mem_cons_self, here r hr⟩

end Logs

variable [DecidableEq I] [LawfulIdentifier I] {supply : Supply} {caller : Caller} {job : Job E}
variable {start t : Store}

theorem Course.logs (law : d.kind.Lawful) (keeps : d.KeepsId) (same : job.KeepsId d.kind)
    (kept : start.WellKept) {taken : List I} (course : d.Course supply caller job start taken t) :
    d.Logs ⟨caller.userId, job.event⟩ start t taken := by
  -- On the course itself: each identifier is met once, so what a row's turn logs meets no revision
  -- that an earlier turn has logged.
  induction course with
  | none => exact logs_self start
  | pass before id ih => exact ih.pass id
  | @save taken s before id other stored e found draft rules creating checked ih =>
    obtain ⟨more, rest, here⟩ := s.recorded_save d.kind law supply ⟨caller.userId, job.event⟩ e
    obtain ⟨named, key⟩ := draft.key_named law keeps same kept found s
    rw [named, key] at here
    exact ih.next other rest here
  | @delete taken s before id other stored found permitted ih =>
    obtain ⟨more, rest, here⟩ :=
      s.recorded_delete d.kind supply.now ⟨caller.userId, job.event⟩ stored
    rw [Store.key_of_id (kept.known_of_find? law found).1] at here
    exact ih.next other rest here

theorem Handled.recorded (law : d.kind.Lawful) (keeps : d.KeepsId) (same : job.KeepsId d.kind)
    (kept : start.WellKept) (handled : d.Handled supply caller job start t) :
    ∃ revisions, start.Recorded ⟨caller.userId, job.event⟩ t revisions := by
  cases handled with
  | @entered e draft rules creating checked =>
    obtain ⟨revisions, recorded, _⟩ :=
      start.recorded_save d.kind law supply ⟨caller.userId, job.event⟩ e
    exact ⟨revisions, recorded⟩
  | course course =>
    obtain ⟨revisions, recorded, _⟩ := course.logs law keeps same kept
    exact ⟨revisions, recorded⟩

end Registrar.Desk
