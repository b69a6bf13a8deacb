import Registrar.Proofs.Desk.Course
import Registrar.Proofs.Store.Contents

/-!
Runs of requests, each at the desk of some lawful kind. Main statement: whatever clients ask for, the
rows stay well kept, which means one row for each record, under a key that its content tells.
-/

namespace Registrar

namespace Store

/-- Each record has one row, whose content names a set identifier, the key and the version. -/
structure WellKept (s : Store) : Prop where
  coherent : ∀ row ∈ s.rows, row.IsCoherent
  identified : ∀ row ∈ s.rows, row.IsIdentified
  oneRowEach : s.OneRowEach

theorem wellKept_of_no_rows {s : Store} (h : s.rows = []) : s.WellKept where
  coherent := by simp [h]
  identified := by simp [h]
  oneRowEach := by simp [OneRowEach, h]

section Records

variable {I E : Type} [Identifier I] [LawfulIdentifier I] {k : Kind I E}

theorem WellKept.save {s : Store} (h : s.WellKept) (law : k.Lawful) {supply : Supply}
    (sound : supply.IsSound) (author : Author) (e : E) :
    (s.save k supply author e).1.WellKept where
  coherent := coherent_change h.coherent (change_save law supply author e s)
  identified := identified_save law sound h.identified
  oneRowEach := oneRowEach_change h.oneRowEach (change_save law supply author e s)

omit [LawfulIdentifier I] in
theorem WellKept.delete {s : Store} (h : s.WellKept) (now : Instant) (author : Author) (e : E) :
    (s.delete k now author e).1.WellKept where
  coherent := coherent_change h.coherent (change_delete now author e s)
  identified row hrow := h.identified row (mem_rows_delete hrow)
  oneRowEach := oneRowEach_change h.oneRowEach (change_delete now author e s)

theorem WellKept.key_of_decode {s : Store} (h : s.WellKept) (law : k.Lawful) {row : SavedRow}
    (hrow : row ∈ s.rows) {e : E} (decoded : k.decode row.content = .ok e) :
    ∃ i, k.id e = some i ∧ Identifier.isUnset i = false ∧ Identifier.text i = row.key := by
  obtain ⟨i, hid, text, isSet⟩ := id_of_decode law (h.coherent row hrow) decoded
  exact ⟨i, hid, isSet (h.identified row hrow), text⟩

theorem WellKept.isNew_of_shown {s : Store} (h : s.WellKept) (law : k.Lawful) {row : SavedRow}
    (hrow : row ∈ s.rows) {e : E} (shown : row.content = k.encode e) : k.isNew e = false := by
  have isSet := h.identified row hrow _ (by rw [shown, law.field_id])
  cases hid : k.id e with
  | none =>
    rw [hid] at isSet
    cases isSet
  | some id =>
    rw [hid, Json.Value.ofOption, LawfulIdentifier.isUnset_toValue] at isSet
    exact isNew_of_id hid isSet

theorem WellKept.known_of_find? {s : Store} (h : s.WellKept) (law : k.Lawful) {id : I} {stored : E}
    (found : s.find? k id = .ok (some stored)) : k.id stored = some id ∧ k.isNew stored = false := by
  obtain ⟨row, there, hid, _, isSet⟩ := of_find? law h.coherent found
  exact ⟨hid, isNew_of_id hid (isSet (h.identified row (mem_of_row? there)))⟩

theorem WellKept.idText?_of_find? {s : Store} (h : s.WellKept) (law : k.Lawful) {id : I} {stored : E}
    (found : s.find? k id = .ok (some stored)) : k.idText? stored = some (Identifier.text id) := by
  rw [Kind.idText?, (h.known_of_find? law found).1]
  rfl

end Records
end Store

namespace Desk

variable {I E : Type} [Identifier I] [LawfulIdentifier I] [DecidableEq I] {d : Desk I E}

omit [LawfulIdentifier I] in
theorem Deeds.preserves {supply : Supply} {job : Job E} {start t : Store} {P : Store → Prop}
    (deeds : d.Deeds supply job start t)
    (save : ∀ (s : Store) (author : Author) (e : E) (rules : RuleSet) (creating : Bool),
      d.check rules creating e s = .ok () → P s → P (s.save d.kind supply author e).1)
    (delete : ∀ (s : Store) (now : Instant) (author : Author) (e : E),
      P s → P (s.delete d.kind now author e).1)
    (h : P start) : P t := by
  induction deeds with
  | none => exact h
  | save before author origin checked ih => exact save _ author _ _ _ checked ih
  | delete before now author e ih => exact delete _ now author e ih

theorem Deeds.wellKept {supply : Supply} (sound : supply.IsSound) (law : d.kind.Lawful)
    {job : Job E} {start t : Store} (deeds : d.Deeds supply job start t) (h : start.WellKept) :
    t.WellKept :=
  deeds.preserves (fun _ author e _ _ _ kept => kept.save law sound author e)
    (fun _ now author e kept => kept.delete now author e) h

omit [LawfulIdentifier I] in
theorem Deeds.shows {supply : Supply} {job : Job E} {start t : Store} {P : E → Prop}
    (deeds : d.Deeds supply job start t) (stable : d.kind.Stable P)
    (saved : ∀ e, d.Origin job start e → P e) (h : start.Shows d.kind P) : t.Shows d.kind P := by
  induction deeds with
  | none => exact h
  | save before author origin checked ih => exact ih.save stable (saved _ origin) supply author
  | delete before now author e ih => exact ih.delete now author e

theorem Deeds.remembers {supply : Supply} {job : Job E} {start t : Store} {P : E → Prop}
    (deeds : d.Deeds supply job start t) (law : d.kind.Lawful) (stable : d.kind.Stable P)
    (saved : ∀ e, d.Origin job start e → P e) (h : start.Remembers d.kind P) :
    t.Remembers d.kind P := by
  induction deeds with
  | none => exact h
  | save before author origin checked ih => exact ih.save law stable (saved _ origin) supply author
  | delete before now author e ih => exact ih.delete now author e

theorem Deeds.remembers_other {supply : Supply} {job : Job E} {start t : Store} {J F : Type}
    {k : Kind J F} {P : F → Prop} (deeds : d.Deeds supply job start t) (law : d.kind.Lawful)
    (other : d.kind.entityType ≠ k.entityType) (h : start.Remembers k P) : t.Remembers k P :=
  deeds.preserves (fun _ author e _ _ _ h => h.save_other law other supply author e)
    (fun _ now author e h => h.delete now author e) h

omit [LawfulIdentifier I] in
theorem Deeds.shows_other {supply : Supply} {job : Job E} {start t : Store} {J F : Type}
    {k : Kind J F} {P : F → Prop} (deeds : d.Deeds supply job start t)
    (other : d.kind.entityType ≠ k.entityType) (h : start.Shows k P) : t.Shows k P :=
  deeds.preserves (fun _ author e _ _ _ h => h.save_other other supply author e)
    (fun _ now author e h => h.delete now author e) h

end Desk

/-- What a client asks of some desk, and what the request takes from outside. -/
structure Request where
  {I E : Type}
  [identifier : Identifier I]
  [lawful : LawfulIdentifier I]
  [decEq : DecidableEq I]
  desk : Desk I E
  law : desk.kind.Lawful
  supply : Supply
  sound : supply.IsSound
  caller : Caller
  job : Desk.Job E

attribute [instance] Request.identifier Request.lawful Request.decEq

namespace Request

def apply (q : Request) (r : Registry) : Registry := (q.desk.perform q.supply q.caller q.job r).1

def run (requests : List Request) (r : Registry) : Registry :=
  requests.foldl (fun r q => q.apply r) r

theorem deeds_apply (q : Request) (r : Registry) :
    q.desk.Deeds q.supply q.job r.store (q.apply r).store :=
  q.desk.deeds_perform q.supply q.caller q.job r

theorem wellKept_apply (q : Request) {r : Registry} (h : r.store.WellKept) :
    (q.apply r).store.WellKept :=
  (q.deeds_apply r).wellKept q.sound q.law h

theorem run_induction {P : Registry → Prop} {requests : List Request}
    (step : ∀ q ∈ requests, ∀ r, P r → P (q.apply r)) {r : Registry} (start : P r) :
    P (run requests r) := by
  induction requests generalizing r with
  | nil => exact start
  | cons q rest ih =>
    exact ih (fun q' hq => step q' (List.mem_cons_of_mem _ hq)) (step q List.mem_cons_self r start)

end Request
end Registrar
