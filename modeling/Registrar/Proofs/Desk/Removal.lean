import Registrar.Proofs.Desk.Items
import Registrar.Proofs.Desk.Journal
import Registrar.Proofs.Desk.Solitary

/-!
What requests about several records do to rows. Main statements: of the rows of a kind a delete removes
those that the request lists, that the caller may handle and that the policy lets be deleted, and all
others stay; a batch of changes leaves in a row what it makes of the record that was stored there.
-/

namespace Registrar.Desk

variable {I E : Type} [Identifier I] [LawfulIdentifier I] [DecidableEq I] {d : Desk I E}
variable {supply : Supply} {caller : Caller} {params : Params} {r : Registry}

variable (d) in
/-- The request lists the record under the identifier, and the caller may delete it. -/
structure Removes (caller : Caller) (params : Params) (s : Store) (id : I) (e : E) : Prop where
  found : s.find? d.kind id = .ok (some e)
  listed : ∃ t ∈ Identifier.split (params.getAll "ids"), Identifier.parse t = .ok id
  permitted : d.policy.permit e caller = .ok ()
  allowed : d.policy.refuseDelete e caller = none

omit [DecidableEq I] in
theorem discard_ok_iff (law : d.kind.Lawful) (kept : r.store.WellKept) {id : I} {e : E}
    (found : r.store.find? d.kind id = .ok (some e)) :
    (d.discard supply caller e r).2 = .ok () ↔
      d.policy.permit e caller = .ok () ∧ d.policy.refuseDelete e caller = none := by
  have known := (kept.known_of_find? law found).2
  have key := kept.idText?_of_find? law found
  obtain ⟨row, there, _⟩ := Store.row_of_find? found
  unfold discard
  rw [known]
  cases permitted : d.policy.permit e caller with
  | error fault => simp
  | ok _ =>
    cases allowed : d.policy.refuseDelete e caller with
    | some refusal => simp
    | none =>
      have gone := (r.store.delete_found supply.now ⟨caller.userId, "do-delete"⟩ key there).1
      simp [gone]

omit [LawfulIdentifier I] in
theorem readable_of_doDelete {outcome : Outcome}
    (done : (d.doDelete supply params caller r).2 = .ok outcome) :
    ∃ ids : List I, Identifier.parseAll (params.getAll "ids") = .ok ids ∧
      d.Readable r.store ids := by
  cases read : d.targets params r.store with
  | error fault => simp [doDelete, batch, read] at done
  | ok targets => exact d.of_targets_ok read

omit [LawfulIdentifier I] in
theorem found_of_listed {outcome : Outcome}
    (done : (d.doDelete supply params caller r).2 = .ok outcome) {id : I}
    (listed : ∃ t ∈ Identifier.split (params.getAll "ids"), Identifier.parse t = .ok id)
    {row : SavedRow}
    (there : r.store.row? d.kind.entityType (Identifier.text id) = some row) :
    ∃ e, r.store.find? d.kind id = .ok (some e) := by
  obtain ⟨ids, parsed, readable⟩ := readable_of_doDelete done
  obtain ⟨found, hfound⟩ := readable id ((Identifier.mem_parseAll parsed id).2 listed)
  cases found with
  | some e => exact ⟨e, hfound⟩
  | none =>
    rw [Store.find?, there] at hfound
    cases read : Store.read d.kind row.content <;> simp [read, Except.map] at hfound

theorem settle_discard (law : d.kind.Lawful) (kept : r.store.WellKept) {ids : List I} {id : I}
    (parsed : Identifier.parseAll (params.getAll "ids") = .ok ids) (hid : id ∈ ids) {row : SavedRow}
    (there : r.store.row? d.kind.entityType (Identifier.text id) = some row) :
    (∀ e, d.Removes caller params r.store id e →
      d.settle (d.discard supply caller) r ids row = none) ∧
    (d.settle (d.discard supply caller) r ids row = some row ∨
      ∃ e, d.Removes caller params r.store id e) := by
  rw [settle_of_listed hid (Store.isAt_of_row? there)]
  refine ⟨fun e removes => ?_, ?_⟩
  · have discarded : (d.discard supply caller e r).2 = .ok () :=
      (discard_ok_iff law kept removes.found).2 ⟨removes.permitted, removes.allowed⟩
    have record : (d.target r.store id).record = .ok e := by simp only [target, removes.found]
    rw [alone_of_record record]
    exact row?_of_discard_ok law kept removes.found there discarded
  · cases result : (d.alone (d.discard supply caller) r id).2 with
    | ok _ =>
      obtain ⟨e, found, same⟩ := of_alone_ok result
      rw [same] at result
      obtain ⟨permitted, allowed⟩ := (discard_ok_iff law kept found).1 result
      exact .inr ⟨e, found, (Identifier.mem_parseAll parsed id).1 hid, permitted, allowed⟩
    | error fault =>
      have failed (e : E) (fault : Error) (h : (d.discard supply caller e r).2 = .error fault) :
          (d.discard supply caller e r).1.store.rows = r.store.rows :=
        ((d.handles_discard supply caller e r params).untouched h).1
      refine .inl ?_
      rw [Store.row?_congr (rows_of_alone_error failed result), there]

/-- A delete that answers for its records removes the rows of those that may be deleted, and leaves
every other row where it is. -/
theorem row?_doDelete (law : d.kind.Lawful) (kept : r.store.WellKept) {outcome : Outcome}
    (done : (d.doDelete supply params caller r).2 = .ok outcome) :
    (∀ id e, d.Removes caller params r.store id e →
      (d.doDelete supply params caller r).1.store.row? d.kind.entityType (Identifier.text id) =
        none) ∧
    ∀ key, (d.doDelete supply params caller r).1.store.row? d.kind.entityType key =
        r.store.row? d.kind.entityType key ∨
      ∃ id e, d.Removes caller params r.store id e ∧ Identifier.text id = key := by
  have each := kept.oneRowEach
  obtain ⟨ids, parsed, readable⟩ := readable_of_doDelete done
  have rows := ((solitary_discard law kept supply caller).batch each "Delete" parsed readable).2
  have after (key : String) :
      (d.doDelete supply params caller r).1.store.row? d.kind.entityType key =
        (r.store.row? d.kind.entityType key).bind (d.settle (d.discard supply caller) r ids) :=
    Store.row?_filterMap rows (fun _ _ => settle_stays) each d.kind.entityType key
  refine ⟨fun id e removes => ?_, fun key => ?_⟩
  · obtain ⟨row, there, _⟩ := Store.row_of_find? removes.found
    have hid := (Identifier.mem_parseAll parsed id).2 removes.listed
    rw [after, there]
    exact (settle_discard law kept parsed hid there).1 e removes
  · rw [after]
    cases there : r.store.row? d.kind.entityType key with
    | none => exact .inl rfl
    | some row =>
      rw [Option.bind_some]
      by_cases listed : ∃ id ∈ ids, row.isAt d.kind.entityType (Identifier.text id)
      · obtain ⟨id, hid, at_⟩ := listed
        obtain rfl : Identifier.text id = key :=
          (SavedRow.isAt_iff.1 at_).2.symm.trans (SavedRow.isAt_iff.1 (Store.isAt_of_row? there)).2
        exact (settle_discard law kept parsed hid there).2.imp_right fun ⟨e, removes⟩ =>
          ⟨id, e, removes, rfl⟩
      · simp only [not_exists, not_and] at listed
        exact .inl (settle_of_not_listed listed)

variable (d) in
def Amends (change : E → E) (caller : Caller) (s : Store) (key : String) (row : SavedRow) : Prop :=
  ∃ id stored x saved, Identifier.text id = key ∧ s.find? d.kind id = .ok (some stored) ∧
    d.policy.prepare (change stored) caller = .ok x ∧
    (saved = x ∨ ∃ n, saved = d.kind.setVersion n x) ∧ row = d.kind.row key saved

theorem row?_amend (law : d.kind.Lawful) (keeps : d.KeepsId) {s : Store} (kept : s.WellKept)
    (supply : Supply) (occasion : Occasion) {change : E → E}
    (sameId : ∀ e, d.kind.id (change e) = d.kind.id e) {id : I}
    {stored : E} (found : s.find? d.kind id = .ok (some stored)) (r : Registry) (key : String) :
    (d.amend supply occasion change stored r).1.store.row? d.kind.entityType key =
        r.store.row? d.kind.entityType key ∨
      ∃ row, (d.amend supply occasion change stored r).1.store.row? d.kind.entityType key = some row ∧
        d.Amends change occasion.caller s key row := by
  unfold amend
  split
  · exact .inl rfl
  · rcases d.update_cases supply occasion (change stored) r with
      ⟨fault, refused⟩ | ⟨x, prepared, filed⟩
    · rw [refused]
      exact .inl rfl
    · obtain ⟨hid, known⟩ := kept.known_of_find? law found
      have changedId : d.kind.id (change stored) = some id := (sameId stored).trans hid
      have changedKnown : d.kind.isNew (change stored) = false := by
        rw [Kind.isNew, changedId, ← hid]
        exact known
      have xId : d.kind.id x = some id := (keeps.prepare changedKnown prepared).trans changedId
      have xKnown : d.kind.isNew x = false := by
        rw [Kind.isNew, xId, ← hid]
        exact known
      dsimp only
      generalize (d.update supply occasion (change stored) r).1.store = t at filed ⊢
      generalize (d.update supply occasion (change stored) r).2 = answer at filed
      cases filed with
      | refused fault => exact .inl rfl
      | saved checked =>
        rcases Store.row?_save_cases law supply occasion.author x r.store d.kind.entityType key with
          ⟨same, _⟩ | ⟨saved, _, _, own, shape, _, there⟩
        · exact .inl same
        · rw [Store.named_of_not_isNew d.kind xKnown] at shape
          have savedId : d.kind.id saved = some id := by
            rcases shape with rfl | ⟨n, rfl⟩
            · exact xId
            · exact (law.id_setVersion n x).trans xId
          exact .inr ⟨_, there, id, stored, x, saved,
            (Store.key_of_id savedId).symm.trans own, found, prepared, shape, rfl⟩

/-- A batch of changes leaves each row as it was, or it leaves there what it makes of a stored record. -/
theorem row?_batchUpdate (law : d.kind.Lawful) (keeps : d.KeepsId) (kept : r.store.WellKept)
    (name event : String) (supply : Supply) (change : E → E)
    (sameId : ∀ e, d.kind.id (change e) = d.kind.id e) (params : Params) (caller : Caller)
    (key : String) :
    (d.batchUpdate name event supply change params caller r).1.store.row? d.kind.entityType key =
        r.store.row? d.kind.entityType key ∨
      ∃ row, (d.batchUpdate name event supply change params caller r).1.store.row?
          d.kind.entityType key = some row ∧
        d.Amends change caller r.store key row := by
  unfold batchUpdate batch
  split
  · exact .inl rfl
  · next targets htargets =>
    obtain ⟨ids, _, stand⟩ := d.of_targets htargets
    -- The records ahead are as they were at the start, whatever the batch has saved so far.
    refine (Batch.run_steps _ (s := r) (P := fun t ahead =>
      (t.store.row? d.kind.entityType key = r.store.row? d.kind.entityType key ∨
        ∃ row, t.store.row? d.kind.entityType key = some row ∧
          d.Amends change caller r.store key row) ∧
        ∃ ids, List.Forall₂ (d.Stands r.store) ids ahead) ?_ [] ⟨.inl rfl, ids, stand⟩).1
    rintro t target rest ⟨sofar, ids, stand⟩
    cases stand with
    | @cons id _ ids _ stands ahead =>
      refine ⟨?_, ids, ahead⟩
      unfold Batch.step
      split
      · next stored record =>
        rcases row?_amend law keeps kept supply ⟨caller, event⟩ sameId (stands stored record) t key with
          same | changed
        · dsimp only
          rw [same]
          exact sofar
        · exact .inr changed
      · exact sofar

end Registrar.Desk
