import Registrar.Proofs.Desk.Bound
import Registrar.Proofs.Desk.Run

/-!
New records. Main statements: a successful save adds a row under a key that no row has, or takes the
place of the row under the record's key; a request for a new record saves the blank record with the
request's values in it.
-/

namespace Registrar

namespace Store

/-- A row of the type comes in under a key that no row had, the other rows stay, and one more
revision tells so. -/
def Adds (entityType : String) (s t : Store) : Prop :=
  ∃ now author row, row.entityType = entityType ∧ s.row? entityType row.key = none ∧
    t.rows = s.rows ++ [row] ∧ t.revisions = s.log .add now author none row

/-- A row with the next version takes the place of the one under the key, and one more revision
tells so. -/
def Overwrites (entityType key : String) (s t : Store) : Prop :=
  ∃ now author old row, s.row? entityType key = some old ∧ row.isAt entityType key ∧
    row.version = old.version + 1 ∧
    t.rows = s.rows.map (fun r => if r.isAt entityType key then row else r) ∧
    t.revisions = s.log .modify now author old.state row

theorem Adds.length_rows {entityType : String} {s t : Store} (h : s.Adds entityType t) :
    t.rows.length = s.rows.length + 1 := by
  obtain ⟨_, _, row, _, _, rows, _⟩ := h
  simp [rows]

theorem Overwrites.length_rows {entityType key : String} {s t : Store}
    (h : s.Overwrites entityType key t) : t.rows.length = s.rows.length := by
  obtain ⟨_, _, _, row, _, _, _, rows, _⟩ := h
  simp [rows]

section Records

variable {I E : Type} [Identifier I] {k : Kind I E}

theorem key_named_of_isNew (law : k.Lawful) {supply : Supply} {e : E} {s : Store}
    (new : k.isNew e) :
    k.key (s.named k supply e) =
      Identifier.text (Identifier.fresh (supply.textId (s.textIds + 1)) (s.saves + 1) : I) := by
  refine key_of_id ?_
  rw [named_of_isNew k new, law.id_setVersion, law.id_setId]

theorem adds_or_overwrites (law : k.Lawful) {supply : Supply} {author : Author} {e saved : E}
    {s : Store} (h : (s.save k supply author e).2 = .ok saved) :
    s.row? k.entityType (k.key (s.named k supply e)) = none ∧
        s.Adds k.entityType (s.save k supply author e).1 ∨
      s.Overwrites k.entityType (k.key (s.named k supply e)) (s.save k supply author e).1 := by
  have way := s.saving k supply author e
  generalize s.save k supply author e = result at way h
  cases way with
  | replaced counted old rows revisions found current next bumped =>
    have raised : k.version next = old.version + 1 := by rw [bumped, law.version_setVersion]
    exact .inr ⟨supply.now, author, old, k.row _ next, found, SavedRow.isAt_self _, raised,
      rows_replace rows, revisions_replace revisions⟩
  | outdated counted old rows revisions found stale => cases h
  | added counted rows revisions vacant first =>
    exact .inl ⟨vacant, supply.now, author, k.row (k.key (s.named k supply e)) (s.named k supply e),
      rfl, vacant, rows_add rows, revisions_add revisions⟩
  | gone counted rows revisions vacant later => cases h

theorem adds_of_vacant (law : k.Lawful) {supply : Supply} {author : Author} {e saved : E}
    {s : Store} (h : (s.save k supply author e).2 = .ok saved)
    (vacant : s.row? k.entityType (k.key (s.named k supply e)) = none) :
    s.Adds k.entityType (s.save k supply author e).1 := by
  rcases adds_or_overwrites law h with ⟨_, adds⟩ | ⟨_, _, old, _, found, _⟩
  · exact adds
  · cases vacant.symm.trans found

theorem overwrites_of_found (law : k.Lawful) {supply : Supply} {author : Author} {e saved : E}
    {s : Store} (h : (s.save k supply author e).2 = .ok saved) {old : SavedRow}
    (found : s.row? k.entityType (k.key (s.named k supply e)) = some old) :
    s.Overwrites k.entityType (k.key (s.named k supply e)) (s.save k supply author e).1 := by
  rcases adds_or_overwrites law h with ⟨vacant, _⟩ | overwrites
  · cases vacant.symm.trans found
  · exact overwrites

end Records

theorem WellKept.row?_blank {s : Store} (h : s.WellKept) {entityType key : String}
    (blank : Text.allBlank key) : s.row? entityType key = none := by
  refine row?_eq_none_iff.2 fun row hrow => Bool.eq_false_iff.2 fun there => ?_
  obtain ⟨v, hv, _, text⟩ := (h.coherent row hrow).id
  have isSet := h.identified row hrow v hv
  rw [← (SavedRow.isAt_iff.1 there).2, ← text] at blank
  cases v with
  | text s => cases isSet.symm.trans blank
  | int n => cases (Number.not_allBlank_intText n).symm.trans blank
  | _ => cases isSet

end Store

namespace Desk

variable {I E : Type} [Identifier I] [DecidableEq I] (d : Desk I E)

/-- The blank record with the request's values is prepared, stamped, checked as a new one and
saved. -/
def Enters (supply : Supply) (caller : Caller) (params : Params) (s t : Store) : Prop :=
  ∃ e x author rules saved, d.kind.bind params d.kind.blank = .ok e ∧
    d.policy.prepare e caller = .ok x ∧
    d.check rules true (d.kind.stamp caller.userId supply.now x) s = .ok () ∧
    s.save d.kind supply author (d.kind.stamp caller.userId supply.now x) = (t, .ok saved)

variable {supply : Supply} {params : Params} {caller : Caller} {r : Registry}

theorem enters_create {event : String} {e saved : E}
    (bound : d.kind.bind params d.kind.blank = .ok e)
    (done : (d.create supply ⟨caller, event⟩ e r).2 = .ok saved) :
    d.Enters supply caller params r.store (d.create supply ⟨caller, event⟩ e r).1.store := by
  rcases d.create_cases supply ⟨caller, event⟩ e r with ⟨fault, refused⟩ | ⟨x, prepared, filed⟩
  · rw [refused] at done
    cases done
  · generalize (d.create supply ⟨caller, event⟩ e r).2 = answer at filed done
    generalize (d.create supply ⟨caller, event⟩ e r).1.store = t at filed
    cases filed with
    | refused fault => cases done
    | saved checked =>
      exact ⟨e, x, _, _, saved, bound, prepared, checked, Prod.ext rfl done⟩

omit [DecidableEq I] in
theorem of_report_ok {message : String} {change : E → Action E} {outcome : Outcome}
    (done : (d.report message params caller change r).2 = .ok outcome) :
    ∃ e saved, d.working params caller r.store = .ok e ∧ (change e r).2 = .ok saved ∧
      (d.report message params caller change r).1 = (change e r).1 := by
  rcases d.report_cases message params caller change r with ⟨fault, refused⟩ | ⟨e, worked, result⟩
  · rw [refused] at done
    cases done
  · rw [result] at done ⊢
    cases answer : (change e r).2 with
    | error fault =>
      rw [answer] at done
      cases done
    | ok saved => exact ⟨e, saved, worked, answer, rfl⟩

variable [LawfulIdentifier I]

/-- A creation that succeeds is one of a new record, whatever identifier the request names. -/
theorem enters_doCreate (law : d.kind.Lawful) (kept : r.store.WellKept) {outcome : Outcome}
    (done : (d.doCreate supply params caller r).2 = .ok outcome) :
    d.Enters supply caller params r.store (d.doCreate supply params caller r).1.store := by
  obtain ⟨e, saved, worked, answer, result⟩ := d.of_report_ok done
  rw [doCreate, result]
  obtain ⟨drawn, bound, named⟩ := d.of_working worked
  by_cases new : d.kind.isNew e
  · rw [if_pos new] at answer ⊢
    rcases named with ⟨_, rfl⟩ | ⟨id, _, found⟩
    · exact d.enters_create bound answer
    · rw [Kind.isNew_bind law bound, (kept.known_of_find? law found).2] at new
      cases new
  · rw [if_neg new] at answer
    cases answer

theorem enters_doSave (law : d.kind.Lawful) (blank : d.kind.isNew d.kind.blank)
    (unnamed : requestId (I := I) params = .ok none) {outcome : Outcome}
    (done : (d.doSave supply params caller r).2 = .ok outcome) :
    d.Enters supply caller params r.store (d.doSave supply params caller r).1.store := by
  obtain ⟨e, saved, worked, answer, result⟩ := d.of_report_ok done
  rw [doSave, result]
  obtain ⟨drawn, bound, ⟨_, rfl⟩ | ⟨id, named, _⟩⟩ := d.of_working worked
  · have new : d.kind.isNew e := (Kind.isNew_bind law bound).trans blank
    rw [Desk.save, if_pos new] at answer ⊢
    exact d.enters_create bound answer
  · rw [unnamed] at named
    cases named

variable {d}

theorem Enters.adds (law : d.kind.Lawful) (blank : d.kind.isNew d.kind.blank) {s t : Store}
    (h : d.Enters supply caller params s t)
    (keeps : ∀ {e x}, d.policy.prepare e caller = .ok x →
      d.kind.id (d.kind.stamp caller.userId supply.now x) = d.kind.id e)
    (vacant : s.row? d.kind.entityType (Identifier.text
      (Identifier.fresh (supply.textId (s.textIds + 1)) (s.saves + 1) : I)) = none) :
    s.Adds d.kind.entityType t := by
  obtain ⟨e, x, author, rules, saved, bound, prepared, checked, done⟩ := h
  have new : d.kind.isNew (d.kind.stamp caller.userId supply.now x) := by
    rw [Kind.isNew, keeps prepared]
    exact (Kind.isNew_bind law bound).trans blank
  have answer := congrArg Prod.snd done
  have adds := Store.adds_of_vacant law answer (by rw [Store.key_named_of_isNew law new]; exact vacant)
  rwa [done] at adds

end Desk
end Registrar
