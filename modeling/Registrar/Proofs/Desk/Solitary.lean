import Registrar.Proofs.Desk.Batch
import Registrar.Proofs.Desk.Guard
import Registrar.Proofs.Store.Copies

/-!
The operations of batches are solitary. A delete asks for nothing but its own row; a change that the
guard of unique columns does not notice leaves the checks of all other records as they were. Main
statements: deletes are solitary, and so are such changes.
-/

namespace Registrar

open Json

theorem forM_congr {α ε : Type} {f g : α → Except ε Unit} {l : List α} (h : ∀ x ∈ l, f x = g x) :
    l.forM f = l.forM g := by
  induction l with
  | nil => rfl
  | cons x r ih =>
    have step (f : α → Except ε Unit) : (x :: r).forM f = (f x >>= fun _ => r.forM f) := rfl
    rw [step, step, h x List.mem_cons_self, ih fun y hy => h y (List.mem_cons_of_mem _ hy)]

theorem map_mapM_cons {α β γ ε : Type} (read : α → Except ε β) (g : β → γ) (x : α) (r : List α) :
    ((x :: r).mapM read).map (List.map g) =
      ((read x).map g).bind fun y => ((r.mapM read).map (List.map g)).map (y :: ·) := by
  rw [List.mapM_cons]
  cases read x with
  | error fault => rfl
  | ok first =>
    cases r.mapM read with
    | error fault => rfl
    | ok rest => rfl

/-- The guard of unique columns makes no difference between the rows: they have the same values in
these columns and read as records with the same identifier, or both read as none. -/
structure Kind.Alike {I E : Type} (k : Kind I E) (a b : SavedRow) : Prop where
  type : b.entityType = a.entityType
  shown {f : Field} : a.entityType = k.entityType → f ∈ k.schema.declared → f.isUnique →
    Row.extract b.content f.name = Row.extract a.content f.name
  read : a.entityType = k.entityType →
    (Store.read k b.content).map k.id = (Store.read k a.content).map k.id

theorem Kind.Alike.refl {I E : Type} (k : Kind I E) (row : SavedRow) : k.Alike row row :=
  ⟨rfl, fun _ _ _ => rfl, fun _ => rfl⟩

namespace Store

theorem OneRowEach.filterMap_row? {s : Store} (each : s.OneRowEach) (entityType key : String) :
    s.rows.filterMap (fun row =>
      if row.isAt entityType key then s.row? entityType key else some row) = s.rows := by
  have stay : ∀ row ∈ s.rows,
      (if row.isAt entityType key then s.row? entityType key else some row) = some row := by
    intro row hrow
    split
    · next there => exact each.row?_eq hrow there
    · rfl
  rw [List.filterMap_congr stay, List.filterMap_some]

variable {I E : Type} {k : Kind I E} {s t : Store} {new : SavedRow → SavedRow}

theorem query_alike (rows : t.rows = s.rows.map new) (alike : ∀ row ∈ s.rows, k.Alike row (new row))
    {f : Field} (declared : f ∈ k.schema.declared) (unique : f.isUnique) (value : Value) :
    (t.query k { client := [.equal f.name value] } []).map (List.map k.id) =
      (s.query k { client := [.equal f.name value] } []).map (List.map k.id) := by
  simp only [query_unsorted, contents, rows]
  clear rows
  generalize s.rows = old at alike
  induction old with
  | nil => rfl
  | cons row r ih =>
    have ih := ih fun row hrow => alike row (List.mem_cons_of_mem _ hrow)
    have here := alike row List.mem_cons_self
    rw [List.map_cons, List.filter_cons, List.filter_cons, here.type]
    split
    · next type =>
      have type := eq_of_beq type
      have accepted : ({ client := [.equal f.name value] } : Filter).accepts (new row).content =
          ({ client := [.equal f.name value] } : Filter).accepts row.content := by
        simp only [Filter.accepts, Predicate.equal, Predicate.holds, List.append_nil, List.all_cons,
          List.any_cons, here.shown type declared unique, List.all_nil, List.any_nil]
      rw [List.map_cons, List.map_cons, List.filter_cons, List.filter_cons, accepted]
      split
      · rw [map_mapM_cons, map_mapM_cons, here.read type, ih]
      · exact ih
    · exact ih

theorem delete_found [Identifier I] (s : Store) (now : Instant) (author : Author) {e : E} {key : String}
    {row : SavedRow} (named : k.idText? e = some key) (found : s.row? k.entityType key = some row) :
    (s.delete k now author e).2 = .ok () ∧
    (s.delete k now author e).1.rows = s.rows.filter (fun r => !r.isAt k.entityType key) ∧
    (s.delete k now author e).1.row? k.entityType key = none := by
  obtain ⟨type, own⟩ := SavedRow.isAt_iff.1 (isAt_of_row? found)
  have gone : s.delete k now author e = (s.remove now author row, .ok ()) := by
    simp only [delete, named, found]
  rw [gone]
  have rows : (s.remove now author row).rows =
      s.rows.filter fun r => !r.isAt k.entityType key := by
    rw [remove, type, own]
  refine ⟨rfl, rows, row?_eq_none_iff.2 fun r hr => ?_⟩
  rw [rows] at hr
  simpa using (List.mem_filter.1 hr).2

section Found

variable [Identifier I] (s) (supply : Supply) (author : Author) {id : I} {e : E} {row : SavedRow}

theorem save_over (hid : k.id e = some id) (isSet : Identifier.isUnset id = false)
    (found : s.row? k.entityType (Identifier.text id) = some row)
    (current : row.version = k.version e) :
    let next := k.setVersion (row.version + 1) e
    (s.save k supply author e).2 = .ok next ∧
    (s.save k supply author e).1.rows = s.rows.map (fun r =>
      if r.isAt k.entityType (Identifier.text id) then k.row (Identifier.text id) next else r) ∧
    (s.save k supply author e).1.row? k.entityType (Identifier.text id) =
      some (k.row (Identifier.text id) next) := by
  rw [save_found hid isSet found]
  dsimp only
  rw [if_pos current]
  exact ⟨rfl, rfl, row?_replace (k.row (Identifier.text id) _) found⟩

theorem save_stale (hid : k.id e = some id) (isSet : Identifier.isUnset id = false)
    (found : s.row? k.entityType (Identifier.text id) = some row)
    (stale : row.version ≠ k.version e) :
    (s.save k supply author e).2 =
      .error (.modified k.entityType (Identifier.text id) (k.version e) row.version) ∧
    (s.save k supply author e).1.rows = s.rows := by
  rw [save_found hid isSet found]
  dsimp only
  rw [if_neg stale]
  exact ⟨rfl, rfl⟩

theorem save_alike (each : t.OneRowEach) (hid : k.id e = some id)
    (isSet : Identifier.isUnset id = false)
    (found : s.row? k.entityType (Identifier.text id) = some row)
    (same : t.row? k.entityType (Identifier.text id) = some row) :
    (t.save k supply author e).2 = (s.save k supply author e).2 ∧
    (t.save k supply author e).1.rows = t.rows.filterMap fun r =>
      if r.isAt k.entityType (Identifier.text id) then
        (s.save k supply author e).1.row? k.entityType (Identifier.text id)
      else some r := by
  by_cases current : row.version = k.version e
  · obtain ⟨first, _, shown⟩ := s.save_over supply author hid isSet found current
    obtain ⟨answer, rows, _⟩ := t.save_over supply author hid isSet same current
    refine ⟨answer.trans first.symm, rows.trans ?_⟩
    rw [shown, ← List.filterMap_eq_map]
    refine List.filterMap_congr fun old _ => ?_
    rw [Function.comp_apply]
    split <;> rfl
  · obtain ⟨first, unchanged⟩ := s.save_stale supply author hid isSet found current
    obtain ⟨answer, rows⟩ := t.save_stale supply author hid isSet same current
    refine ⟨answer.trans first.symm, rows.trans ?_⟩
    rw [row?_congr unchanged, found, ← same, each.filterMap_row?]

theorem rows_save_alike (each : s.OneRowEach) (hid : k.id e = some id)
    (isSet : Identifier.isUnset id = false)
    (found : s.row? k.entityType (Identifier.text id) = some row)
    (alike : k.Alike row (k.row (Identifier.text id) (k.setVersion (row.version + 1) e))) :
    ∃ new : SavedRow → SavedRow, (s.save k supply author e).1.rows = s.rows.map new ∧
      ∀ row ∈ s.rows, k.Alike row (new row) := by
  by_cases current : row.version = k.version e
  · refine ⟨_, (s.save_over supply author hid isSet found current).2.1, fun old hold => ?_⟩
    split
    · next here =>
      cases Option.some.inj ((each.row?_eq hold here).symm.trans found)
      exact alike
    · exact .refl k old
  · have unchanged := (s.save_stale supply author hid isSet found current).2
    exact ⟨fun old => old, unchanged.trans (List.map_id' s.rows).symm, fun old _ => .refl k old⟩

end Found
end Store

namespace Desk

variable {I E : Type} [DecidableEq I] (d : Desk I E) {s t : Store} {new : SavedRow → SavedRow}

theorem clash_alike (rows : t.rows = s.rows.map new)
    (alike : ∀ row ∈ s.rows, d.kind.Alike row (new row)) (creating : Bool) (e : E) {f : Field}
    (declared : f ∈ d.kind.schema.declared) (unique : f.isUnique) :
    d.clash creating e t f = d.clash creating e s f := by
  unfold clash
  cases Row.extract (d.kind.encode e) f.name with
  | none => rfl
  | some value =>
    have same := Store.query_alike rows alike declared unique value
    dsimp only
    cases hs : s.query d.kind { client := [.equal f.name value] } [] with
    | error fault =>
      cases ht : t.query d.kind { client := [.equal f.name value] } [] with
      | error other =>
        rw [hs, ht] at same
        cases same
        rfl
      | ok found => rw [hs, ht] at same; cases same
    | ok known =>
      cases ht : t.query d.kind { client := [.equal f.name value] } [] with
      | error fault => rw [hs, ht] at same; cases same
      | ok found =>
        rw [hs, ht] at same
        have ids : found.map d.kind.id = known.map d.kind.id := Except.ok.inj same
        have any (l : List E) : l.any (fun other => creating || d.kind.id other != d.kind.id e) =
            (l.map d.kind.id).any fun id => creating || id != d.kind.id e := by
          rw [List.any_map]
          rfl
        dsimp only
        rw [any, any, ids]

theorem check_alike (rows : t.rows = s.rows.map new)
    (alike : ∀ row ∈ s.rows, d.kind.Alike row (new row)) (rules : RuleSet) (creating : Bool) (e : E) :
    d.check rules creating e t = d.check rules creating e s := by
  unfold check
  split
  · rfl
  · refine forM_congr fun f hf => ?_
    obtain ⟨declared, unique⟩ := List.mem_filter.1 hf
    exact d.clash_alike rows alike creating e declared unique

section Solitary

variable [Identifier I] [LawfulIdentifier I] {d} {r : Registry}

omit [DecidableEq I] in
/-- Whether and how a record is deleted is up to the record and its row. -/
theorem solitary_discard (law : d.kind.Lawful) (kept : r.store.WellKept) (supply : Supply)
    (caller : Caller) : d.Solitary (d.discard supply caller) r fun _ => True where
  near := trivial
  alike {t e id} _ each found same := by
    obtain ⟨row, there, _⟩ := Store.row_of_find? found
    have key := kept.idText?_of_find? law found
    have idle := each.filterMap_row? d.kind.entityType (Identifier.text id)
    rw [same] at idle
    unfold discard
    split
    · exact ⟨rfl, trivial, idle.symm⟩
    · split
      · exact ⟨rfl, trivial, idle.symm⟩
      · split
        · exact ⟨rfl, trivial, idle.symm⟩
        · obtain ⟨first, _, gone⟩ :=
            r.store.delete_found supply.now ⟨caller.userId, "do-delete"⟩ key there
          obtain ⟨answer, rows, _⟩ :=
            t.store.delete_found supply.now ⟨caller.userId, "do-delete"⟩ key (same.trans there)
          refine ⟨answer.trans first.symm, trivial, rows.trans ?_⟩
          rw [gone, ← List.filterMap_eq_filter]
          refine List.filterMap_congr fun row _ => ?_
          cases there : row.isAt d.kind.entityType (Identifier.text id) <;> simp [there]

omit [DecidableEq I] in
theorem row?_of_discard_ok (law : d.kind.Lawful) (kept : r.store.WellKept) {supply : Supply}
    {caller : Caller} {e : E} {id : I} (found : r.store.find? d.kind id = .ok (some e))
    {row : SavedRow}
    (there : r.store.row? d.kind.entityType (Identifier.text id) = some row)
    (done : (d.discard supply caller e r).2 = .ok ()) :
    (d.discard supply caller e r).1.store.row? d.kind.entityType (Identifier.text id) = none := by
  have key := kept.idText?_of_find? law found
  unfold discard at done ⊢
  split at done
  · cases done
  · split at done
    · cases done
    · next fresh =>
      rw [if_neg fresh]
      split at done
      · cases done
      · exact (r.store.delete_found supply.now ⟨caller.userId, "do-delete"⟩ key there).2.2

/-- The change leaves each record that the store holds, prepared for the caller and saved, with its
identifier, and the guard of unique columns makes no difference between the row and the new one. -/
def Gentle (d : Desk I E) (change : E → E) (caller : Caller) (s : Store) : Prop :=
  ∀ (id : I) row e x, s.row? d.kind.entityType (Identifier.text id) = some row →
    d.kind.decode row.content = .ok e → d.policy.prepare (change e) caller = .ok x →
    d.kind.id x = d.kind.id e ∧
    d.kind.Alike row
      (d.kind.row (Identifier.text id) (d.kind.setVersion (row.version + 1) x))

/-- The registries have the same rules for the desk, and their stores let the same records pass. -/
structure ChecksAlike (d : Desk I E) (r t : Registry) : Prop where
  rules : (d.rules t).2 = (d.rules r).2
  check (rules : RuleSet) (creating : Bool) (e : E) :
    d.check rules creating e t.store = d.check rules creating e r.store

omit [Identifier I] [LawfulIdentifier I] in
theorem ChecksAlike.rules_again {t : Registry} (h : d.ChecksAlike r t) :
    d.ChecksAlike r (d.rules t).1 where
  rules := by
    rw [← h.rules]
    show ((t.rules.rules d.kind.schema).2.rules d.kind.schema).1 = (t.rules.rules d.kind.schema).1
    rw [RuleCache.rules, RuleCache.find?_rules_self]
  check := h.check

omit [LawfulIdentifier I] in
theorem commit_alike {t : Registry} (near : d.ChecksAlike r t) (each : t.store.OneRowEach)
    (supply : Supply) (occasion : Occasion) {x : E} {id : I} (hid : d.kind.id x = some id)
    (isSet : Identifier.isUnset id = false) {row : SavedRow}
    (there : r.store.row? d.kind.entityType (Identifier.text id) = some row)
    (same : t.store.row? d.kind.entityType (Identifier.text id) = some row)
    (alike : d.kind.Alike row
      (d.kind.row (Identifier.text id) (d.kind.setVersion (row.version + 1) x))) :
    (d.commit supply occasion false x t).2 = (d.commit supply occasion false x r).2 ∧
    d.ChecksAlike r (d.commit supply occasion false x t).1 ∧
    (d.commit supply occasion false x t).1.store.rows = t.store.rows.filterMap fun row =>
      if row.isAt d.kind.entityType (Identifier.text id) then
        (d.commit supply occasion false x r).1.store.row? d.kind.entityType (Identifier.text id)
      else some row := by
  have again := near.rules_again
  have passes : d.check (d.rules r).2 false x (d.rules t).1.store =
      d.check (d.rules r).2 false x (d.rules r).1.store := near.check (d.rules r).2 false x
  unfold commit
  dsimp only
  rw [near.rules, passes]
  cases d.check (d.rules r).2 false x (d.rules r).1.store with
  | error fault =>
    have idle := each.filterMap_row? d.kind.entityType (Identifier.text id)
    rw [same, ← there] at idle
    exact ⟨rfl, again, idle.symm⟩
  | ok _ =>
    obtain ⟨answer, rows⟩ := (d.rules r).1.store.save_alike (t := (d.rules t).1.store) supply
      occasion.author each hid isSet there same
    obtain ⟨new, replaced, unnoticed⟩ :=
      (d.rules t).1.store.rows_save_alike supply occasion.author each hid isSet same alike
    refine ⟨answer, ⟨again.rules, fun rules creating e => ?_⟩, rows⟩
    exact (d.check_alike replaced unnoticed rules creating e).trans (near.check rules creating e)

/-- Whether and how a record is changed is up to the record and its row, and to checks that the change
of another does not touch. -/
theorem solitary_amend (law : d.kind.Lawful) (kept : r.store.WellKept) (supply : Supply)
    (occasion : Occasion) {change : E → E} (gentle : d.Gentle change occasion.caller r.store) :
    d.Solitary (d.amend supply occasion change) r (d.ChecksAlike r) where
  near := ⟨rfl, fun _ _ _ => rfl⟩
  alike {t e id} near each found same := by
    have idle := each.filterMap_row? d.kind.entityType (Identifier.text id)
    rw [same] at idle
    obtain ⟨row, there, decoded⟩ := Store.row_of_find? found
    obtain ⟨hid, known⟩ := kept.known_of_find? law found
    cases permitted : d.policy.permit e occasion.caller with
    | error fault =>
      simp only [amend, permitted]
      exact ⟨trivial, near, idle.symm⟩
    | ok _ =>
      cases refused : d.policy.refuseUpdate (change e) occasion.caller with
      | some refusal =>
        simp only [amend, permitted, update, refused]
        exact ⟨trivial, near, idle.symm⟩
      | none =>
        cases prepared : d.policy.prepare (change e) occasion.caller with
        | error fault =>
          simp only [amend, permitted, update, refused, prepared]
          exact ⟨trivial, near, idle.symm⟩
        | ok x =>
          obtain ⟨sameId, alike⟩ := gentle id row e x there decoded prepared
          have isSet := Store.isSet_of_id hid known
          obtain ⟨answer, near', rows⟩ := commit_alike near each supply occasion
            (sameId.trans hid) isSet there (same.trans there) alike
          simp only [amend, permitted, update, refused, prepared]
          exact ⟨congrArg (Except.map fun _ => ()) answer, near', rows⟩

theorem row?_of_amend_ok (law : d.kind.Lawful) (kept : r.store.WellKept) {supply : Supply}
    {occasion : Occasion} {change : E → E} {e : E} {id : I}
    (found : r.store.find? d.kind id = .ok (some e))
    (sameId : ∀ x, d.policy.prepare (change e) occasion.caller = .ok x →
      d.kind.id x = d.kind.id e) {row : SavedRow}
    (there : r.store.row? d.kind.entityType (Identifier.text id) = some row)
    (done : (d.amend supply occasion change e r).2 = .ok ()) :
    ∃ x, d.policy.prepare (change e) occasion.caller = .ok x ∧
      (d.amend supply occasion change e r).1.store.row? d.kind.entityType (Identifier.text id) =
        some (d.kind.row (Identifier.text id) (d.kind.setVersion (row.version + 1) x)) := by
  obtain ⟨hid, known⟩ := kept.known_of_find? law found
  have isSet := Store.isSet_of_id hid known
  unfold amend update commit at done ⊢
  cases permitted : d.policy.permit e occasion.caller with
  | error fault => simp [permitted] at done
  | ok _ =>
    cases refused : d.policy.refuseUpdate (change e) occasion.caller with
    | some refusal => simp [permitted, refused, Except.map] at done
    | none =>
      cases prepared : d.policy.prepare (change e) occasion.caller with
      | error fault => simp [permitted, refused, prepared, Except.map] at done
      | ok x =>
        have hx := (sameId x prepared).trans hid
        cases checked : d.check (d.rules r).2 false x (d.rules r).1.store with
        | error fault => simp [permitted, refused, prepared, checked, Except.map] at done
        | ok _ =>
          simp only [permitted, refused, prepared, checked] at done ⊢
          refine ⟨x, rfl, ?_⟩
          by_cases current : row.version = d.kind.version x
          · exact (Store.save_over (d.rules r).1.store supply occasion.author hx isSet there
              current).2.2
          · have stale := Store.save_stale (d.rules r).1.store supply occasion.author hx isSet there
              current
            rw [stale.1] at done
            cases done

end Solitary
end Desk
end Registrar
