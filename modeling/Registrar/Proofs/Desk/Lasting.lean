import Registrar.Proofs.Desk.Run
import Registrar.Proofs.Kind.Readable

/-!
Properties of records that outlast all that a desk does to them. Main statements: whatever a request
comes to, the rows show records with the property; and if such records read back from their data form,
so does the row of each identifier that a client can name.
-/

namespace Registrar

open Json

/-- The identifier is what its data form is read as. -/
def Identifier.ReadsBack {I : Type} [Identifier I] (i : I) : Prop :=
  ofValue? (toValue i) = some i

theorem Identifier.readsBack_int {n : Int} : ReadsBack n ↔ Number.fitsInt64 n := by
  simp [ReadsBack, ofValue?, toValue]

/-- Records with the property are what their data form is read as, if their identifier reads back and
the version is a number of 32 bits. -/
def Kind.Legible {I E : Type} [Identifier I] (k : Kind I E) (P : E → Prop) : Prop :=
  ∀ e, P e → (∀ i, k.id e = some i → Identifier.ReadsBack i) → Number.fitsInt32 (k.version e) →
    k.decode (k.encode e) = .ok e

/-- Each version is a number of 32 bits, and so is the next one. -/
def Store.HasRoom (s : Store) : Prop :=
  ∀ row ∈ s.rows, Number.fitsInt32 row.version ∧ Number.fitsInt32 (row.version + 1)

namespace Store

variable {I E : Type} [Identifier I] [LawfulIdentifier I] {k : Kind I E} {P : E → Prop} {s : Store}

theorem WellKept.of_row? (kept : s.WellKept) (law : k.Lawful) (shows : s.Shows k P) {id : I}
    {row : SavedRow} (found : s.row? k.entityType (Identifier.text id) = some row) :
    ∃ e, row.content = k.encode e ∧ P e ∧ k.id e = some id ∧ k.version e = row.version ∧
      Identifier.isUnset id = false := by
  have hrow := mem_of_row? found
  obtain ⟨type, key⟩ := SavedRow.isAt_iff.1 (isAt_of_row? found)
  obtain ⟨e, shown, he⟩ := shows row hrow type
  have coherent := kept.coherent row hrow
  obtain ⟨v, hv, notNull, text⟩ := coherent.id
  have hversion := coherent.version
  rw [shown, law.field_version] at hversion
  rw [shown, law.field_id] at hv
  cases hid : k.id e with
  | none =>
    rw [hid] at hv
    cases hv
    exact absurd rfl notNull
  | some i =>
    rw [hid] at hv
    cases hv
    rw [Value.ofOption, LawfulIdentifier.text_toValue, key] at text
    cases LawfulIdentifier.text_injective text
    have isSet := kept.identified row hrow (Identifier.toValue id)
      (by rw [shown, law.field_id, hid]; rfl)
    rw [LawfulIdentifier.isUnset_toValue] at isSet
    exact ⟨e, shown, he, hid, Value.int.inj (Option.some.inj hversion), isSet⟩

theorem WellKept.find?_of_shows (kept : s.WellKept) (law : k.Lawful) (shows : s.Shows k P)
    (legible : k.Legible P) (room : s.HasRoom) {id : I} (reads : Identifier.ReadsBack id) :
    ∃ found, s.find? k id = .ok found := by
  unfold find?
  split
  · next row found =>
    obtain ⟨e, shown, he, hid, version, _⟩ := kept.of_row? law shows found
    have fits := (room row (mem_of_row? found)).1
    rw [← version] at fits
    have decoded := legible e he (by rintro i hi; cases hid.symm.trans hi; exact reads) fits
    rw [read, shown, decoded]
    exact ⟨some e, rfl⟩
  · exact ⟨none, rfl⟩

end Store

namespace Desk

variable {I E : Type} [Identifier I] [DecidableEq I]

/-- What a batch makes of a record has the property if the record has it. -/
def Job.Maintains (P : E → Prop) : Job E → Prop
  | .batch _ _ change _ => ∀ e, P e → P (change e)
  | _ => True

omit [DecidableEq I] in
/-- A property of records that nothing the desk does takes away. -/
structure Lasting (d : Desk I E) (P : E → Prop) : Prop where
  stable : d.kind.Stable P
  blank : P d.kind.blank
  read {e x : E} : P e → d.kind.decode (d.kind.encode e) = .ok x → P x
  bind {e x : E} {params : Params} : P e → d.kind.bind params e = .ok x → P x
  prepare {e x : E} {caller : Caller} : P e → d.policy.prepare e caller = .ok x → P x
  stamp {e : E} {now : Instant} (actor : String) : now.IsProper → P e →
    P (d.kind.stamp actor now e)

namespace Lasting

variable {d : Desk I E} {P : E → Prop} {supply : Supply} {caller : Caller} {job : Job E}
variable {start t : Store}

omit [DecidableEq I] in
theorem edited (lasting : d.Lasting P) (maintains : job.Maintains P) {drawn e : E}
    (edits : d.Edited job drawn e) (h : P drawn) : P e := by
  cases edits with
  | bound bound => exact lasting.bind h bound
  | changed => exact maintains drawn h

omit [DecidableEq I] in
theorem draft (lasting : d.Lasting P) (timely : supply.now.IsProper) (maintains : job.Maintains P)
    {drawn e : E} (draft : d.Draft supply caller job drawn e) (h : P drawn) : P e := by
  obtain ⟨edited, x, edits, prepared, finished⟩ := draft.made
  have hx := lasting.prepare (lasting.edited maintains edits h) prepared
  rcases finished with rfl | rfl
  · exact hx
  · exact lasting.stamp caller.userId timely hx

omit [DecidableEq I] in
theorem found (lasting : d.Lasting P) (h : start.Shows d.kind P) {id : I} {stored : E}
    (found : start.find? d.kind id = .ok (some stored)) : P stored := by
  obtain ⟨row, there, decoded⟩ := Store.row_of_find? found
  obtain ⟨e, shown, he⟩ := h row (Store.mem_of_row? there)
    (SavedRow.isAt_iff.1 (Store.isAt_of_row? there)).1
  rw [shown] at decoded
  exact lasting.read he decoded

omit [DecidableEq I] in
theorem origin (lasting : d.Lasting P)
    (timeless : ∀ actor now e, P e → P (d.kind.stamp actor now e)) (maintains : job.Maintains P)
    (h : start.Shows d.kind P) {e : E} (origin : d.Origin job start e) : P e := by
  obtain ⟨drawn, edited, drew, edits, caller, x, prepared, finished⟩ := origin
  have hdrawn : P drawn := by
    rcases drew with rfl | ⟨id, found⟩
    · exact lasting.blank
    · exact lasting.found h found
  have hx := lasting.prepare (lasting.edited maintains edits hdrawn) prepared
  rcases finished with rfl | ⟨actor, now, rfl⟩
  · exact hx
  · exact timeless actor now x hx

/-- Whatever a request comes to, the rows show records with a property that lasts. -/
theorem handled (lasting : d.Lasting P) (timely : supply.now.IsProper)
    (maintains : job.Maintains P) (h : start.Shows d.kind P)
    (handled : d.Handled supply caller job start t) : t.Shows d.kind P := by
  cases handled with
  | entered draft checked =>
    exact h.save lasting.stable (lasting.draft timely maintains draft lasting.blank) _ _
  | course course =>
    induction course with
    | none => exact h
    | pass before id ih => exact ih
    | save before other found draft checked ih =>
      exact ih.save lasting.stable
        (lasting.draft timely maintains draft (lasting.found h found)) _ _
    | delete before other found permitted ih => exact ih.delete _ _ _

theorem perform (lasting : d.Lasting P) (timely : supply.now.IsProper)
    (maintains : job.Maintains P) {r : Registry} (h : r.store.Shows d.kind P) :
    (d.perform supply caller job r).1.store.Shows d.kind P :=
  lasting.handled timely maintains h (d.handled_perform supply caller job r)

end Lasting
end Desk
end Registrar
