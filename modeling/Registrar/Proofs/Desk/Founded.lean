import Registrar.Proofs.Desk.Entry
import Registrar.Proofs.Store.Founded

/-!
Entries that a desk guards. They are none that a stored record takes from a request, and neither the
policy nor a batch sets them. Main statement: whatever is asked of a desk, each record of its kind shows
its guarded entries as they were when the record was added, and who added it.
-/

namespace Registrar

open Json

/-- The record shows under the names what the row shows. -/
def Kind.Matches {I E : Type} (k : Kind I E) (names : List String) (e : E) (row : SavedRow) : Prop :=
  ∀ name ∈ names, (k.encode e).field? name = row.content.field? name

/-- The records show the same under the names. -/
def Kind.Agree {I E : Type} (k : Kind I E) (names : List String) (e x : E) : Prop :=
  ∀ name ∈ names, (k.encode x).field? name = (k.encode e).field? name

theorem Kind.Matches.of_agree {I E : Type} {k : Kind I E} {names : List String} {e x : E}
    {row : SavedRow} (h : k.Matches names e row) (same : k.Agree names e x) :
    k.Matches names x row :=
  fun name hname => (same name hname).trans (h name hname)

theorem Kind.id_of_agree {I E : Type} [Identifier I] [LawfulIdentifier I] {k : Kind I E}
    (law : k.Lawful) {names : List String} (named : "id" ∈ names) {e x : E}
    (same : k.Agree names e x) : k.id x = k.id e := by
  have shown := same _ named
  rw [law.field_id, law.field_id] at shown
  exact LawfulIdentifier.ofOption_injective (Option.some.inj shown)

theorem Store.WellKept.of_matches {I E : Type} [Identifier I] [LawfulIdentifier I] {k : Kind I E}
    {s : Store} (kept : s.WellKept) (law : k.Lawful) {names : List String} (named : "id" ∈ names)
    {row : SavedRow} (hrow : row ∈ s.rows) {e : E} (h : k.Matches names e row) :
    k.isNew e = false ∧ k.key e = row.key := by
  have shown := h _ named
  rw [law.field_id] at shown
  obtain ⟨v, hv, notNull, text⟩ := (kept.coherent row hrow).id
  have isSet := kept.identified row hrow v hv
  rw [hv] at shown
  cases hid : k.id e with
  | none =>
    rw [hid] at shown
    cases shown
    exact absurd rfl notNull
  | some i =>
    rw [hid] at shown
    cases shown
    rw [Value.ofOption, LawfulIdentifier.isUnset_toValue] at isSet
    exact ⟨isNew_of_id hid isSet,
      (key_of_id hid).trans ((LawfulIdentifier.text_toValue i).symm.trans text)⟩

namespace Desk

variable {I E : Type} [Identifier I]

/-- Entries of the desk's records that requests, the policy and the store leave as they are in a stored
record with the property, and among them the one that notes who created the record. -/
structure Guards (d : Desk I E) (names : List String) (P : E → Prop) : Prop where
  id : "id" ∈ names
  created : "createdBy" ∈ names
  unversioned : "version" ∉ names
  unbound : ∀ f ∈ d.kind.schema.bindable false, f.name ∉ names
  read {v : Value} {e x : E} {name : String} : P e → d.kind.decode v = .ok x → name ∈ names →
    v.field? name = (d.kind.encode e).field? name →
    (d.kind.encode x).field? name = (d.kind.encode e).field? name
  prepare {e x : E} {caller : Caller} : d.policy.prepare e caller = .ok x → d.kind.Agree names e x
  stamp (actor : String) (now : Instant) (e : E) :
    (d.kind.encode (d.kind.stamp actor now e)).field? "createdBy" = some (.text actor)
  stamp_id (actor : String) (now : Instant) (e : E) :
    d.kind.id (d.kind.stamp actor now e) = d.kind.id e

/-- A batch leaves the entries under the names as they are. -/
def Job.Leaves (k : Kind I E) (names : List String) : Job E → Prop
  | .batch _ _ change _ => ∀ e, k.Agree names e (change e)
  | _ => True

namespace Guards

variable [LawfulIdentifier I] [DecidableEq I] {d : Desk I E} {names : List String} {P : E → Prop}
variable {supply : Supply} {caller : Caller} {s : Store} {r : Registry} {e : E}
variable (guards : d.Guards names P) (law : d.kind.Lawful)

omit [LawfulIdentifier I] [DecidableEq I] in
include guards in
theorem loaded (shows : s.Shows d.kind P) {id : I} {drawn : E}
    (found : s.find? d.kind id = .ok (some drawn)) :
    ∃ row, s.row? d.kind.entityType (Identifier.text id) = some row ∧
      d.kind.Matches names drawn row := by
  obtain ⟨row, there, decoded⟩ := Store.row_of_find? found
  have type := (SavedRow.isAt_iff.1 (Store.isAt_of_row? there)).1
  obtain ⟨e, shown, he⟩ := shows row (Store.mem_of_row? there) type
  refine ⟨row, there, fun name hname => ?_⟩
  rw [shown]
  exact guards.read he decoded hname (by rw [shown])

omit [DecidableEq I] in
include guards law in
theorem bound (kept : s.WellKept) (shows : s.Shows d.kind P) {id : I} {drawn : E}
    (found : s.find? d.kind id = .ok (some drawn)) {params : Params}
    (binds : d.kind.bind params drawn = .ok e) :
    ∃ row, s.row? d.kind.entityType (Identifier.text id) = some row ∧ d.kind.Matches names e row := by
  obtain ⟨row, there, same⟩ := guards.loaded shows found
  refine ⟨row, there, ?_⟩
  obtain ⟨entries, values, hentries, hvalues, ⟨_, rfl⟩ | decoded⟩ := Kind.bind_cases binds
  · exact same
  · have hrow := Store.mem_of_row? there
    obtain ⟨origin, shown, horigin⟩ :=
      shows row hrow (SavedRow.isAt_iff.1 (Store.isAt_of_row? there)).1
    have known := (kept.of_matches law guards.id hrow same).1
    rw [known] at hvalues
    intro name hname
    have untouched : ∀ pair ∈ values, pair.1 ≠ name := by
      intro pair hpair named
      obtain ⟨f, hf, same⟩ := name_of_mem_requestedValues hvalues hpair
      exact guards.unbound f hf (same ▸ named ▸ hname)
    have before := same name hname
    rw [hentries, shown, Value.field?, ← Entries.get?_putAll_of_ne untouched] at before
    rw [shown]
    exact guards.read horigin decoded hname before

include guards law

/-- An update of a record that shows the guarded entries of its row leaves the store well kept, the rows
of the kind founded, and their guarded entries as they were. -/
theorem update (occasion : Occasion) (sound : supply.IsSound) (kept : r.store.WellKept)
    (h : r.store.Founded d.kind.entityType names) {key : String} {row : SavedRow}
    (there : r.store.row? d.kind.entityType key = some row)
    (same : d.kind.Matches names e row) :
    (d.update supply occasion e r).1.store.WellKept ∧
    (d.update supply occasion e r).1.store.Founded d.kind.entityType names ∧
    r.store.Retains d.kind.entityType names (d.update supply occasion e r).1.store := by
  rcases d.update_cases supply occasion e r with ⟨fault, refused⟩ | ⟨x, prepared, filed⟩
  · rw [refused]
    exact ⟨kept, h, Store.retains_of_rows rfl⟩
  · have match_ := same.of_agree (guards.prepare prepared)
    obtain ⟨known, own⟩ := kept.of_matches law guards.id (Store.mem_of_row? there) match_
    have place : d.kind.key (r.store.named d.kind supply x) = key := by
      rw [Store.named_of_not_isNew d.kind known, own]
      exact (SavedRow.isAt_iff.1 (Store.isAt_of_row? there)).2
    generalize (d.update supply occasion e r).1.store = t at filed ⊢
    generalize (d.update supply occasion e r).2 = answer at filed
    have agrees : ∀ old, r.store.row? d.kind.entityType (d.kind.key (r.store.named d.kind supply x)) =
        some old → (d.kind.row (d.kind.key (r.store.named d.kind supply x))
          (r.store.named d.kind supply x)).Agrees names old := by
      intro old found
      rw [place] at found
      cases there.symm.trans found
      rw [Store.named_of_not_isNew d.kind known]
      exact match_
    cases filed with
    | refused fault => exact ⟨kept, h, Store.retains_of_rows rfl⟩
    | saved checked =>
      refine ⟨kept.save law sound _ x, ?_, Store.retains_save law guards.unversioned agrees⟩
      refine h.save law guards.created guards.unversioned (fun _ vacant => ?_) fun _ => agrees
      rw [place] at vacant
      cases there.symm.trans vacant

theorem create (occasion : Occasion) (h : r.store.Founded d.kind.entityType names) (new : d.kind.isNew e)
    (fresh : r.store.row? d.kind.entityType (Identifier.text
      (Identifier.fresh (supply.textId (r.store.textIds + 1)) (r.store.saves + 1) : I)) = none) :
    (d.create supply occasion e r).1.store.Founded d.kind.entityType names := by
  rcases d.create_cases supply occasion e r with ⟨fault, refused⟩ | ⟨x, prepared, filed⟩
  · rw [refused]
    exact h
  · have stampedNew : d.kind.isNew (d.kind.stamp occasion.caller.userId supply.now x) := by
      rw [Kind.isNew, guards.stamp_id, Kind.id_of_agree law guards.id (guards.prepare prepared)]
      exact new
    generalize (d.create supply occasion e r).1.store = t at filed ⊢
    generalize (d.create supply occasion e r).2 = answer at filed
    cases filed with
    | refused fault => exact h
    | saved checked =>
      refine h.save law guards.created guards.unversioned (fun _ _ => ?_) fun _ old found => ?_
      · rw [Store.named_of_isNew d.kind stampedNew, law.field_setVersion _ _ (by decide),
          law.field_setId _ _ (by decide)]
        exact guards.stamp ..
      · rw [Store.key_named_of_isNew law stampedNew] at found
        cases fresh.symm.trans found

theorem report (event : String) (sound : supply.IsSound) (kept : r.store.WellKept)
    (shows : r.store.Shows d.kind P)
    (blank : d.kind.isNew d.kind.blank)
    (fresh : r.store.row? d.kind.entityType (Identifier.text
      (Identifier.fresh (supply.textId (r.store.textIds + 1)) (r.store.saves + 1) : I)) = none)
    (h : r.store.Founded d.kind.entityType names) {message : String} {params : Params}
    {change : E → Action E}
    (entering : ∀ e, d.kind.isNew e →
      (change e r).1 = r ∨ change e r = d.create supply ⟨caller, event⟩ e r)
    (revising : ∀ e, d.kind.isNew e = false →
      (change e r).1 = r ∨ change e r = d.update supply ⟨caller, event⟩ e r) :
    (d.report message params caller change r).1.store.Founded d.kind.entityType names := by
  rcases d.report_cases message params caller change r with ⟨fault, refused⟩ | ⟨e, worked, done⟩
  · rw [refused]
    exact h
  · rw [done]
    obtain ⟨drawn, binds, ⟨_, rfl⟩ | ⟨id, _, found⟩⟩ := d.of_working worked
    · have new : d.kind.isNew e := (Kind.isNew_bind law binds).trans blank
      rcases entering e new with stays | creates
      · rw [stays]
        exact h
      · rw [creates]
        exact guards.create law _ h new fresh
    · obtain ⟨row, there, same⟩ := guards.bound law kept shows found binds
      have known := (kept.of_matches law guards.id (Store.mem_of_row? there) same).1
      rcases revising e known with stays | updates
      · rw [stays]
        exact h
      · rw [updates]
        exact (guards.update law _ sound kept h there same).2.1

theorem batchUpdate (sound : supply.IsSound) (kept : r.store.WellKept)
    (shows : r.store.Shows d.kind P) (h : r.store.Founded d.kind.entityType names)
    {name event : String} {change : E → E} (leaves : ∀ e, d.kind.Agree names e (change e))
    {params : Params} :
    (d.batchUpdate name event supply change params caller r).1.store.Founded
      d.kind.entityType names := by
  unfold Desk.batchUpdate batch
  split
  · exact h
  · next targets htargets =>
    obtain ⟨ids, _, stand⟩ := d.of_targets htargets
    -- The records ahead are as they were at the start, and so are the guarded entries of their rows.
    refine (Batch.run_steps _ (s := r)
      (P := fun t ahead => t.store.WellKept ∧ t.store.Founded d.kind.entityType names ∧
        r.store.Retains d.kind.entityType names t.store ∧
        ∃ ids, List.Forall₂ (d.Stands r.store) ids ahead)
      ?_ [] ⟨kept, h, Store.retains_of_rows rfl, ids, stand⟩).2.1
    rintro t target rest ⟨kept', founded, retains, ids, stand⟩
    cases stand with
    | @cons id _ ids _ stands ahead =>
      unfold Batch.step
      split
      · next stored record =>
        obtain ⟨row, there, same⟩ := guards.loaded shows (stands stored record)
        obtain ⟨now, there', same'⟩ := retains _ row there
        have matches_ : d.kind.Matches names (change stored) now := by
          intro name hname
          exact ((leaves stored name hname).trans (same name hname)).trans (same' name hname).symm
        dsimp only
        unfold amend
        split
        · exact ⟨kept', founded, retains, ids, ahead⟩
        · obtain ⟨kept'', founded', next⟩ := guards.update law ⟨caller, event⟩ sound
            kept' founded there' matches_
          exact ⟨kept'', founded', retains.trans next, ids, ahead⟩
      · exact ⟨kept', founded, retains, ids, ahead⟩

/-- Whatever is asked of the desk, it leaves the rows of its kind founded. -/
theorem perform (sound : supply.IsSound) (kept : r.store.WellKept) (shows : r.store.Shows d.kind P)
    (blank : d.kind.isNew d.kind.blank)
    (fresh : r.store.row? d.kind.entityType (Identifier.text
      (Identifier.fresh (supply.textId (r.store.textIds + 1)) (r.store.saves + 1) : I)) = none)
    {job : Job E} (leaves : job.Leaves d.kind names)
    (h : r.store.Founded d.kind.entityType names) :
    (d.perform supply caller job r).1.store.Founded d.kind.entityType names := by
  cases job with
  | create params =>
    rw [Desk.perform, doCreate]
    refine guards.report law "do-create" sound kept shows blank fresh h (fun e new => .inr ?_)
      fun e known => .inl ?_
    · rw [if_pos new]
    · rw [if_neg (Bool.eq_false_iff.1 known)]
  | update params =>
    rw [Desk.perform, doUpdate]
    refine guards.report law "do-update" sound kept shows blank fresh h (fun e new => .inl ?_)
      fun e known => .inr ?_
    · rw [if_pos new]
    · rw [if_neg (Bool.eq_false_iff.1 known)]
  | save params =>
    rw [Desk.perform, doSave]
    refine guards.report law "do-save" sound kept shows blank fresh h (fun e new => .inr ?_)
      fun e known => .inr ?_
    · rw [Desk.save, if_pos new]
    · rw [Desk.save, if_neg (Bool.eq_false_iff.1 known)]
  | delete params =>
    exact batch_keeps (P := fun r => r.store.Founded d.kind.entityType names) _ params
      (fun e r h => discard_keeps (P := fun r => r.store.Founded d.kind.entityType names) e
        (fun author => h.delete supply.now) h) h
  | batch name event change params => exact guards.batchUpdate law sound kept shows h leaves

end Guards
end Desk
end Registrar
