import Mathlib.Data.List.Forall2
import Registrar.Proofs.Kind.Lawful
import Registrar.Store

/-!
What one save or delete does to a store: it adds a row, replaces one, removes one, or leaves all rows
and revisions as they are. Main statements: every save and delete of a lawful kind is such a change,
and what each change makes of the row and the trail of a record.
-/

namespace Registrar

open Json

section Readers

variable {α β ε : Type} {read : α → Except ε β}

theorem mapM_cons_ok {x : α} {r : List α} {found : List β} (h : (x :: r).mapM read = .ok found) :
    ∃ first rest, read x = .ok first ∧ r.mapM read = .ok rest ∧ found = first :: rest := by
  rw [List.mapM_cons] at h
  cases hx : read x with
  | error e => simp [hx, bind, Except.bind] at h
  | ok first =>
    cases hr : r.mapM read with
    | error e => simp [hx, hr, bind, Except.bind] at h
    | ok rest =>
      simp only [hx, hr, bind, Except.bind, pure, Except.pure, Except.ok.injEq] at h
      exact ⟨first, rest, rfl, rfl, h.symm⟩

theorem mapM_mem_of_mem {l : List α} {found : List β} (h : l.mapM read = .ok found) {x : α}
    (hx : x ∈ l) : ∃ y ∈ found, read x = .ok y := by
  induction l generalizing found with
  | nil => cases hx
  | cons z r ih =>
    obtain ⟨first, rest, hz, hr, rfl⟩ := mapM_cons_ok h
    rcases List.mem_cons.1 hx with rfl | hx
    · exact ⟨first, List.mem_cons_self, hz⟩
    · obtain ⟨y, hy, read'⟩ := ih hr hx
      exact ⟨y, List.mem_cons_of_mem _ hy, read'⟩

theorem mem_of_mem_mapM {l : List α} {found : List β} (h : l.mapM read = .ok found) {y : β}
    (hy : y ∈ found) : ∃ x ∈ l, read x = .ok y := by
  induction l generalizing found with
  | nil =>
    cases h
    cases hy
  | cons z r ih =>
    obtain ⟨first, rest, hz, hr, rfl⟩ := mapM_cons_ok h
    rcases List.mem_cons.1 hy with rfl | hy
    · exact ⟨z, List.mem_cons_self, hz⟩
    · obtain ⟨x, hx, read'⟩ := ih hr hy
      exact ⟨x, List.mem_cons_of_mem _ hx, read'⟩

theorem forall₂_of_mapM {l : List α} {found : List β} (h : l.mapM read = .ok found) :
    List.Forall₂ (fun x y => read x = .ok y) l found := by
  induction l generalizing found with
  | nil =>
    cases h
    exact .nil
  | cons x r ih =>
    obtain ⟨first, rest, hx, hr, rfl⟩ := mapM_cons_ok h
    exact .cons hx (ih hr)

theorem exists_mapM_ok {l : List α} (h : ∀ x ∈ l, ∃ y, read x = .ok y) :
    ∃ found, l.mapM read = .ok found := by
  induction l with
  | nil => exact ⟨[], rfl⟩
  | cons x r ih =>
    obtain ⟨first, hx⟩ := h x List.mem_cons_self
    obtain ⟨rest, hr⟩ := ih fun y hy => h y (List.mem_cons_of_mem _ hy)
    refine ⟨first :: rest, ?_⟩
    rw [List.mapM_cons, hx, hr]
    rfl

theorem exists_error_of_mapM {l : List α} {fault : ε} (h : l.mapM read = .error fault) :
    ∃ x ∈ l, read x = .error fault := by
  induction l with
  | nil => cases h
  | cons x r ih =>
    rw [List.mapM_cons] at h
    cases hx : read x with
    | error first =>
      rw [hx] at h
      cases h
      exact ⟨x, List.mem_cons_self, hx⟩
    | ok first =>
      cases hr : r.mapM read with
      | error rest =>
        rw [hx, hr] at h
        cases h
        obtain ⟨z, hz, bad⟩ := ih hr
        exact ⟨z, List.mem_cons_of_mem _ hz, bad⟩
      | ok rest =>
        rw [hx, hr] at h
        cases h

end Readers

namespace SavedRow

theorem isAt_iff {row : SavedRow} {entityType key : String} :
    row.isAt entityType key ↔ row.entityType = entityType ∧ row.key = key := by
  simp [isAt]

theorem isAt_self (row : SavedRow) : row.isAt row.entityType row.key := isAt_iff.2 ⟨rfl, rfl⟩

theorem isAt_eq_false_of_away {row r : SavedRow} {entityType key : String}
    (there : r.isAt entityType key) (away : ¬row.isAt entityType key) :
    r.isAt row.entityType row.key = false := by
  refine Bool.eq_false_iff.2 fun hr => away ?_
  obtain ⟨h₁, h₂⟩ := isAt_iff.1 hr
  obtain ⟨h₃, h₄⟩ := isAt_iff.1 there
  exact isAt_iff.2 ⟨h₁.symm.trans h₃, h₂.symm.trans h₄⟩

/-- The content of the row names the row's key and version. -/
structure IsCoherent (row : SavedRow) : Prop where
  id : ∃ v, row.content.field? "id" = some v ∧ v ≠ .null ∧ Row.text v = row.key
  version : row.content.field? "version" = some (.int row.version)

/-- The content of the row shows an identifier that does not stand for none. -/
def IsIdentified (row : SavedRow) : Prop :=
  ∀ v, row.content.field? "id" = some v → v.isUnset = false

end SavedRow

/-- The texts for new identifiers do not stand for none. -/
def Supply.IsSound (supply : Supply) : Prop := ∀ n, Text.allBlank (supply.textId n) = false

def Kind.key {I E : Type} [Identifier I] (k : Kind I E) (e : E) : String := (k.idText? e).getD ""

theorem Kind.Lawful.isCoherent_row {I E : Type} [Identifier I] [LawfulIdentifier I] {k : Kind I E}
    (law : k.Lawful) {key : String} {e : E} (h : k.idText? e = some key) :
    (k.row key e).IsCoherent where
  id := by
    obtain ⟨i, hi, rfl⟩ := Option.map_eq_some_iff.1 h
    refine ⟨Identifier.toValue i, ?_, LawfulIdentifier.toValue_ne_null i,
      LawfulIdentifier.text_toValue i⟩
    rw [Kind.row, law.field_id, hi]
    rfl
  version := law.field_version e

namespace Store

/-- The revision that a change of a row adds to the log. -/
def entry (s : Store) (type : RevisionType) (now : Instant) (author : Author)
    (oldState : Option String) (row : SavedRow) : Revision where
  number := s.revisions.length + 1
  type
  time := now
  actor := author.actor
  event := some author.event
  entityType := row.entityType
  entityKey := row.key
  oldState
  newState := if type = .delete then none else row.state
  display := row.display
  content := row.content

theorem log_eq (s : Store) (type : RevisionType) (now : Instant) (author : Author)
    (oldState : Option String) (row : SavedRow) :
    s.log type now author oldState row = s.revisions ++ [s.entry type now author oldState row] :=
  rfl

section Row

variable {s t : Store} {row old : SavedRow} {entityType key : String}

theorem row?_congr (h : t.rows = s.rows) : t.row? entityType key = s.row? entityType key := by
  rw [row?, row?, h]

theorem isAt_of_row? (h : s.row? entityType key = some row) : row.isAt entityType key :=
  List.find?_some (p := fun row : SavedRow => row.isAt entityType key) h

theorem mem_of_row? (h : s.row? entityType key = some row) : row ∈ s.rows :=
  List.mem_of_find?_eq_some h

theorem row?_eq_none_iff :
    s.row? entityType key = none ↔ ∀ row ∈ s.rows, row.isAt entityType key = false := by
  simp [row?]

variable (row) in
theorem row?_append (vacant : s.row? row.entityType row.key = none)
    (h : t.rows = s.rows ++ [row]) :
    t.row? entityType key = if row.isAt entityType key then some row else s.row? entityType key := by
  rw [row?, h, List.find?_append]
  split
  · next at_ =>
    obtain ⟨rfl, rfl⟩ := SavedRow.isAt_iff.1 at_
    rw [row?] at vacant
    simp [vacant, row.isAt_self]
  · next away => simp [row?, away]

variable (row) in
theorem row?_map (found : s.row? row.entityType row.key = some old)
    (h : t.rows = s.rows.map fun r => if r.isAt row.entityType row.key then row else r) :
    t.row? entityType key = if row.isAt entityType key then some row else s.row? entityType key := by
  rw [row?, h, List.find?_map]
  split
  · next at_ =>
    obtain ⟨rfl, rfl⟩ := SavedRow.isAt_iff.1 at_
    have same : ((fun r : SavedRow => r.isAt row.entityType row.key) ∘
        fun r => if r.isAt row.entityType row.key then row else r) =
          fun r : SavedRow => r.isAt row.entityType row.key := by
      funext r
      dsimp only [Function.comp_apply]
      split
      · next there => simp [there, row.isAt_self]
      · rfl
    rw [row?] at found
    rw [same, found]
    simp [isAt_of_row? (s := s) found]
  · next away =>
    have same : ((fun r : SavedRow => r.isAt entityType key) ∘
        fun r => if r.isAt row.entityType row.key then row else r) =
          fun r : SavedRow => r.isAt entityType key := by
      funext r
      dsimp only [Function.comp_apply]
      split
      · next there =>
        have hr := SavedRow.isAt_iff.1 there
        rw [SavedRow.isAt, SavedRow.isAt, hr.1, hr.2]
      · rfl
    rw [same, row?]
    cases hf : s.rows.find? fun r => r.isAt entityType key with
    | none => rfl
    | some r =>
      simp [SavedRow.isAt_eq_false_of_away (isAt_of_row? (s := s) hf) away]

variable (row) in
theorem row?_replace {now : Instant} {author : Author}
    (found : s.row? row.entityType row.key = some old) :
    (s.replace now author old row).row? row.entityType row.key = some row := by
  rw [row?_map row found rfl, if_pos row.isAt_self]

variable (row) in
theorem row?_filter (h : t.rows = s.rows.filter fun r => !r.isAt row.entityType row.key) :
    t.row? entityType key = if row.isAt entityType key then none else s.row? entityType key := by
  rw [row?, h, List.find?_filter]
  split
  · next at_ =>
    obtain ⟨rfl, rfl⟩ := SavedRow.isAt_iff.1 at_
    simp
  · next away =>
    rw [row?]
    congr 1
    funext r
    by_cases there : r.isAt entityType key
    · simp [there, SavedRow.isAt_eq_false_of_away there away]
    · simp [there]

end Row

theorem revisionsOf_congr {s t : Store} (h : t.revisions = s.revisions) (entityType key : String) :
    t.revisionsOf entityType key = s.revisionsOf entityType key := by
  rw [revisionsOf, revisionsOf, h]

theorem revisionsOf_log {s t : Store} {type : RevisionType} {now : Instant} {author : Author}
    {oldState : Option String} {row : SavedRow}
    (h : t.revisions = s.log type now author oldState row) (entityType key : String) :
    t.revisionsOf entityType key =
      if row.isAt entityType key
      then s.revisionsOf entityType key ++ [s.entry type now author oldState row]
      else s.revisionsOf entityType key := by
  rw [revisionsOf, h, log_eq, List.filter_append]
  by_cases at_ : row.isAt entityType key
  · have shown : (row.entityType == entityType && row.key == key) = true := at_
    simp [revisionsOf, entry, at_, shown]
  · have hidden : (row.entityType == entityType && row.key == key) = false :=
      Bool.eq_false_iff.2 at_
    simp [revisionsOf, entry, at_, hidden]

-- A save counts before it writes, so that it writes to a store with the rows and revisions of the first.

section Written

variable {s counted : Store} {now : Instant} {author : Author} {old row : SavedRow}

theorem rows_add (rows : counted.rows = s.rows) :
    (counted.add now author row).rows = s.rows ++ [row] := by rw [add, rows]

theorem rows_replace (rows : counted.rows = s.rows) :
    (counted.replace now author old row).rows =
      s.rows.map fun r => if r.isAt row.entityType row.key then row else r := by rw [replace, rows]

theorem revisions_add (revisions : counted.revisions = s.revisions) :
    (counted.add now author row).revisions = s.log .add now author none row := by
  rw [add, log, revisions]
  rfl

theorem revisions_replace (revisions : counted.revisions = s.revisions) :
    (counted.replace now author old row).revisions = s.log .modify now author old.state row := by
  rw [replace, log, revisions]
  rfl

end Written

/-- What a save or delete makes of the rows and revisions of a store. -/
inductive Change (s t : Store) : Prop
  | idle (rows : t.rows = s.rows) (revisions : t.revisions = s.revisions)
  | add (now : Instant) (author : Author) (row : SavedRow)
      (vacant : s.row? row.entityType row.key = none)
      (first : row.version = 0)
      (coherent : row.IsCoherent)
      (rows : t.rows = s.rows ++ [row])
      (revisions : t.revisions = s.log .add now author none row)
  | replace (now : Instant) (author : Author) (old row : SavedRow)
      (found : s.row? row.entityType row.key = some old)
      (next : row.version = old.version + 1)
      (coherent : row.IsCoherent)
      (rows : t.rows = s.rows.map fun r => if r.isAt row.entityType row.key then row else r)
      (revisions : t.revisions = s.log .modify now author old.state row)
  | remove (now : Instant) (author : Author) (row : SavedRow)
      (found : s.row? row.entityType row.key = some row)
      (rows : t.rows = s.rows.filter fun r => !r.isAt row.entityType row.key)
      (revisions : t.revisions = s.log .delete now author row.state row)

section Records

variable {I E : Type} [Identifier I] (k : Kind I E)

/-- The record that a save puts under a key: a new one gets its identifier and first version. -/
def named (supply : Supply) (e : E) (s : Store) : E := (s.identify k supply e).2

theorem identify_saves (supply : Supply) (e : E) (s : Store) :
    (s.identify k supply e).1.saves = s.saves + 1 := by
  unfold identify
  dsimp only
  split <;> rfl

theorem named_of_isNew {supply : Supply} {e : E} {s : Store} (h : k.isNew e) :
    s.named k supply e = k.setVersion 0
      (k.setId (Identifier.fresh (supply.textId (s.textIds + 1)) (s.saves + 1)) e) := by
  simp [named, identify, h]

theorem named_of_not_isNew {supply : Supply} {e : E} {s : Store} (h : k.isNew e = false) :
    s.named k supply e = e := by
  simp [named, identify, h]

variable {k} in
theorem key_of_id {id : I} {e : E} (h : k.id e = some id) : k.key e = Identifier.text id := by
  rw [Kind.key, Kind.idText?, h]
  rfl

variable {k} in
theorem isSet_of_id {id : I} {e : E} (h : k.id e = some id) (known : k.isNew e = false) :
    Identifier.isUnset id = false := by
  simpa [Kind.isNew, h] using known

variable {k} in
theorem isNew_of_id {id : I} {e : E} (h : k.id e = some id)
    (isSet : Identifier.isUnset id = false) : k.isNew e = false := by
  simpa [Kind.isNew, h] using isSet

/-- The ways in which a save goes, each with the store and the answer it leaves. -/
inductive Saving (supply : Supply) (author : Author) (e : E) (s : Store) :
    Store × Except Error E → Prop
  | replaced (counted : Store) (old : SavedRow)
      (rows : counted.rows = s.rows) (revisions : counted.revisions = s.revisions)
      (found : s.row? k.entityType (k.key (s.named k supply e)) = some old)
      (current : old.version = k.version (s.named k supply e))
      (next : E) (bumped : next = k.setVersion (old.version + 1) (s.named k supply e)) :
      Saving supply author e s
        (counted.replace supply.now author old (k.row (k.key (s.named k supply e)) next), .ok next)
  | outdated (counted : Store) (old : SavedRow)
      (rows : counted.rows = s.rows) (revisions : counted.revisions = s.revisions)
      (found : s.row? k.entityType (k.key (s.named k supply e)) = some old)
      (stale : old.version ≠ k.version (s.named k supply e)) :
      Saving supply author e s
        (counted, .error (.modified k.entityType (k.key (s.named k supply e))
          (k.version (s.named k supply e)) old.version))
  | added (counted : Store)
      (rows : counted.rows = s.rows) (revisions : counted.revisions = s.revisions)
      (vacant : s.row? k.entityType (k.key (s.named k supply e)) = none)
      (first : k.version (s.named k supply e) = 0) :
      Saving supply author e s
        (counted.add supply.now author (k.row (k.key (s.named k supply e)) (s.named k supply e)),
          .ok (s.named k supply e))
  | gone (counted : Store)
      (rows : counted.rows = s.rows) (revisions : counted.revisions = s.revisions)
      (vacant : s.row? k.entityType (k.key (s.named k supply e)) = none)
      (later : k.version (s.named k supply e) ≠ 0) :
      Saving supply author e s (counted, .error (.gone k.label (k.key (s.named k supply e))))

theorem saving (supply : Supply) (author : Author) (e : E) (s : Store) :
    Saving k supply author e s (s.save k supply author e) := by
  have rows := identify_rows k supply e s
  have revisions := identify_revisions k supply e s
  unfold save
  dsimp only
  rw [row?_congr rows]
  split
  · next old found =>
    split
    · next current => exact .replaced _ old rows revisions found current _ rfl
    · next stale => exact .outdated _ old rows revisions found stale
  · next vacant =>
    split
    · next first => exact .added _ rows revisions vacant first
    · next later => exact .gone _ rows revisions vacant later

theorem saves_save (supply : Supply) (author : Author) (e : E) (s : Store) :
    (s.save k supply author e).1.saves = s.saves + 1 := by
  rw [← identify_saves k supply e s]
  unfold save
  dsimp only
  split <;> split <;> rfl

variable {k}

theorem idText?_named (law : k.Lawful) (supply : Supply) (e : E) (s : Store) :
    k.idText? (s.named k supply e) = some (k.key (s.named k supply e)) := by
  by_cases new : k.isNew e
  · rw [named_of_isNew k new, Kind.key, Kind.idText?, law.id_setVersion, law.id_setId]
    rfl
  · rw [named_of_not_isNew k (Bool.eq_false_iff.2 new), Kind.key, Kind.idText?]
    cases hid : k.id e with
    | none => simp [Kind.isNew, hid] at new
    | some i => rfl

theorem save_vacant (supply : Supply) (author : Author) {e : E} {s : Store}
    (vacant : s.row? k.entityType (k.key (s.named k supply e)) = none)
    (first : k.version (s.named k supply e) = 0) :
    let row := k.row (k.key (s.named k supply e)) (s.named k supply e)
    (s.save k supply author e).2 = .ok (s.named k supply e) ∧
      (s.save k supply author e).1.rows = s.rows ++ [row] ∧
      (s.save k supply author e).1.revisions = s.log .add supply.now author none row := by
  have way := s.saving k supply author e
  generalize s.save k supply author e = result at way
  cases way with
  | replaced counted old rows revisions found current next bumped => cases vacant.symm.trans found
  | outdated counted old rows revisions found stale => cases vacant.symm.trans found
  | added counted rows revisions _ _ => exact ⟨rfl, rows_add rows, revisions_add revisions⟩
  | gone counted rows revisions _ later => exact absurd first later

theorem id_saved (law : k.Lawful) {supply : Supply} {author : Author} {e saved : E} {s : Store}
    (h : (s.save k supply author e).2 = .ok saved) : k.id saved = k.id (s.named k supply e) := by
  have way := s.saving k supply author e
  generalize s.save k supply author e = result at way h
  cases way with
  | replaced counted old rows revisions found current next bumped =>
    cases h
    rw [bumped, law.id_setVersion]
  | outdated counted old rows revisions found stale => cases h
  | added counted rows revisions vacant first =>
    cases h
    rfl
  | gone counted rows revisions vacant later => cases h

theorem mem_rows_save {supply : Supply} {author : Author} {e : E} {s : Store}
    {row : SavedRow} (h : row ∈ (s.save k supply author e).1.rows) :
    row ∈ s.rows ∨ ∃ x,
      (x = s.named k supply e ∨ ∃ n, x = k.setVersion n (s.named k supply e)) ∧
      row = k.row (k.key (s.named k supply e)) x := by
  have way := s.saving k supply author e
  generalize s.save k supply author e = result at way h
  cases way with
  | replaced counted old rows revisions found current next bumped =>
    rw [rows_replace rows, List.mem_map] at h
    obtain ⟨r, hr, rfl⟩ := h
    split
    · exact .inr ⟨next, .inr ⟨_, bumped⟩, rfl⟩
    · exact .inl hr
  | outdated counted old rows revisions found stale => exact .inl (rows ▸ h)
  | added counted rows revisions vacant first =>
    rw [rows_add rows, List.mem_append, List.mem_singleton] at h
    exact h.imp id fun same => ⟨_, .inl rfl, same⟩
  | gone counted rows revisions vacant later => exact .inl (rows ▸ h)

theorem mem_rows_delete {now : Instant} {author : Author} {e : E} {s : Store} {row : SavedRow}
    (h : row ∈ (s.delete k now author e).1.rows) : row ∈ s.rows := by
  unfold delete at h
  split at h
  · exact h
  · split at h
    · exact (List.mem_filter.1 h).1
    · exact h

theorem isSet_named [LawfulIdentifier I] (law : k.Lawful) {supply : Supply}
    (sound : supply.IsSound) (e : E) (s : Store) :
    ∃ i, k.id (s.named k supply e) = some i ∧ Identifier.isUnset i = false := by
  by_cases new : k.isNew e
  · rw [named_of_isNew k new, law.id_setVersion, law.id_setId]
    exact ⟨_, rfl, LawfulIdentifier.fresh_isSet (sound _) (Nat.succ_pos _)⟩
  · rw [named_of_not_isNew k (Bool.eq_false_iff.2 new)]
    cases hid : k.id e with
    | none => simp [Kind.isNew, hid] at new
    | some i => exact ⟨i, rfl, by simpa [Kind.isNew, hid] using new⟩

theorem identified_save [LawfulIdentifier I] (law : k.Lawful) {supply : Supply}
    (sound : supply.IsSound) {author : Author} {e : E} {s : Store}
    (h : ∀ row ∈ s.rows, row.IsIdentified) :
    ∀ row ∈ (s.save k supply author e).1.rows, row.IsIdentified := by
  intro row hrow
  rcases mem_rows_save hrow with old | ⟨x, same, rfl⟩
  · exact h row old
  · obtain ⟨i, hi, isSet⟩ := isSet_named law sound e s
    have sameId : k.id x = some i := by
      rcases same with rfl | ⟨n, rfl⟩
      · exact hi
      · rw [law.id_setVersion, hi]
    intro v hv
    rw [Kind.row, law.field_id, sameId] at hv
    cases hv
    rw [Value.ofOption, LawfulIdentifier.isUnset_toValue, isSet]

theorem id_of_decode [LawfulIdentifier I] (law : k.Lawful) {row : SavedRow} {e : E}
    (coherent : row.IsCoherent) (decoded : k.decode row.content = .ok e) :
    ∃ i, k.id e = some i ∧ Identifier.text i = row.key ∧
      (row.IsIdentified → Identifier.isUnset i = false) := by
  obtain ⟨v, hv, notNull, text⟩ := coherent.id
  have shown := law.decode_id decoded hv
  cases hid : k.id e with
  | none =>
    rw [hid] at shown
    exact absurd shown.symm notNull
  | some i =>
    rw [hid] at shown
    subst shown
    refine ⟨i, rfl, (LawfulIdentifier.text_toValue i).symm.trans text, fun identified => ?_⟩
    rw [← LawfulIdentifier.isUnset_toValue]
    exact identified _ hv

theorem row_of_find? {s : Store} {id : I} {copy : E} (h : s.find? k id = .ok (some copy)) :
    ∃ row, s.row? k.entityType (Identifier.text id) = some row ∧
      k.decode row.content = .ok copy := by
  unfold find? at h
  split at h
  · next row found =>
    refine ⟨row, found, ?_⟩
    unfold read at h
    split at h
    · next e he =>
      cases h
      exact he
    · cases h
  · cases h

theorem of_find? [LawfulIdentifier I] (law : k.Lawful) {s : Store} {id : I} {copy : E}
    (coherent : ∀ row ∈ s.rows, row.IsCoherent) (h : s.find? k id = .ok (some copy)) :
    ∃ row, s.row? k.entityType (Identifier.text id) = some row ∧
      k.id copy = some id ∧ k.version copy = row.version ∧
      (row.IsIdentified → Identifier.isUnset id = false) := by
  obtain ⟨row, found, decoded⟩ := row_of_find? h
  have shown := coherent row (mem_of_row? found)
  obtain ⟨i, hid, text, isSet⟩ := id_of_decode law shown decoded
  have there := SavedRow.isAt_iff.1 (isAt_of_row? found)
  cases LawfulIdentifier.text_injective (text.trans there.2)
  exact ⟨row, found, hid, Value.int.inj (law.decode_version decoded shown.version), isSet⟩

theorem change_save [LawfulIdentifier I] (law : k.Lawful) (supply : Supply) (author : Author)
    (e : E) (s : Store) : s.Change (s.save k supply author e).1 := by
  have named := idText?_named law supply e s
  have way := s.saving k supply author e
  generalize s.save k supply author e = result at way
  cases way with
  | replaced counted old rows revisions found current next bumped =>
    have sameId : k.idText? next = some (k.key (s.named k supply e)) := by
      rw [bumped, Kind.idText?, law.id_setVersion]
      exact named
    have raised : k.version next = old.version + 1 := by rw [bumped, law.version_setVersion]
    exact .replace supply.now author old (k.row (k.key (s.named k supply e)) next) found raised
      (law.isCoherent_row sameId) (rows_replace rows) (revisions_replace revisions)
  | outdated counted old rows revisions found stale => exact .idle rows revisions
  | added counted rows revisions vacant first =>
    exact .add supply.now author (k.row (k.key (s.named k supply e)) (s.named k supply e)) vacant
      first (law.isCoherent_row named) (rows_add rows) (revisions_add revisions)
  | gone counted rows revisions vacant later => exact .idle rows revisions

theorem change_delete (now : Instant) (author : Author) (e : E) (s : Store) :
    s.Change (s.delete k now author e).1 := by
  unfold delete
  split
  · exact .idle rfl rfl
  · next key hkey =>
    split
    · next row found =>
      have there := SavedRow.isAt_iff.1 (isAt_of_row? found)
      refine .remove now author row ?_ rfl rfl
      rw [there.1, there.2]
      exact found
    · exact .idle rfl rfl

/-- A save leaves the row under a key as it is, or the record is saved there: with the first version
if no row was there, else with the next one. -/
theorem row?_save_cases (law : k.Lawful) (supply : Supply) (author : Author) (e : E) (s : Store)
    (entityType key : String) :
    (s.save k supply author e).1.row? entityType key = s.row? entityType key ∧
        (∀ saved, (s.save k supply author e).2 = .ok saved →
          ¬(k.entityType = entityType ∧ k.key saved = key)) ∨
      ∃ x, (s.save k supply author e).2 = .ok x ∧ k.entityType = entityType ∧ k.key x = key ∧
        (x = s.named k supply e ∨ ∃ n, x = k.setVersion n (s.named k supply e)) ∧
        k.version x = (s.row? entityType key).elim 0 (fun old => old.version + 1) ∧
        (s.save k supply author e).1.row? entityType key = some (k.row key x) := by
  have way := s.saving k supply author e
  generalize s.save k supply author e = result at way
  cases way with
  | replaced counted old rows revisions found current next bumped =>
    have sameKey : k.key next = k.key (s.named k supply e) := by
      rw [bumped, Kind.key, Kind.idText?, law.id_setVersion]
      rfl
    rw [row?_map (s := s) (k.row (k.key (s.named k supply e)) next) found (rows_replace rows)]
    by_cases there : (k.row (k.key (s.named k supply e)) next).isAt entityType key
    · obtain ⟨rfl, rfl⟩ := SavedRow.isAt_iff.1 there
      have raised : k.version next = old.version + 1 := by rw [bumped, law.version_setVersion]
      refine .inr ⟨next, rfl, rfl, sameKey, .inr ⟨_, bumped⟩, ?_, if_pos there⟩
      show k.version next = (s.row? k.entityType (k.key (s.named k supply e))).elim 0 _
      rw [found]
      exact raised
    · refine .inl ⟨if_neg there, ?_⟩
      rintro saved answer ⟨type, own⟩
      cases answer
      exact there (SavedRow.isAt_iff.2 ⟨type, sameKey.symm.trans own⟩)
  | outdated counted old rows revisions found stale =>
    exact .inl ⟨row?_congr rows, fun saved answer => by cases answer⟩
  | added counted rows revisions vacant first =>
    rw [row?_append (s := s) (k.row (k.key (s.named k supply e)) (s.named k supply e)) vacant
      (rows_add rows)]
    by_cases there :
      (k.row (k.key (s.named k supply e)) (s.named k supply e)).isAt entityType key
    · obtain ⟨rfl, rfl⟩ := SavedRow.isAt_iff.1 there
      refine .inr ⟨_, rfl, rfl, rfl, .inl rfl, ?_, if_pos there⟩
      show k.version (s.named k supply e) = (s.row? k.entityType (k.key (s.named k supply e))).elim 0 _
      rw [vacant]
      exact first
    · refine .inl ⟨if_neg there, ?_⟩
      rintro saved answer ⟨type, own⟩
      cases answer
      exact there (SavedRow.isAt_iff.2 ⟨type, own⟩)
  | gone counted rows revisions vacant later =>
    exact .inl ⟨row?_congr rows, fun saved answer => by cases answer⟩

theorem row?_delete_cases (now : Instant) (author : Author) (e : E) (s : Store)
    (entityType key : String) :
    (s.delete k now author e).1.row? entityType key = s.row? entityType key ∧
        ¬((s.delete k now author e).2 = .ok () ∧ k.entityType = entityType ∧ k.key e = key) ∨
      ((s.delete k now author e).2 = .ok () ∧ k.entityType = entityType ∧ k.key e = key) ∧
        (s.delete k now author e).1.row? entityType key = none := by
  unfold delete
  split
  · exact .inl ⟨rfl, by simp⟩
  · next own hown =>
    have ownKey : k.key e = own := by rw [Kind.key, hown]; rfl
    split
    · next row found =>
      obtain ⟨type, same⟩ := SavedRow.isAt_iff.1 (isAt_of_row? found)
      rw [row?_filter (s := s) row rfl]
      by_cases there : row.isAt entityType key
      · obtain ⟨rfl, rfl⟩ := SavedRow.isAt_iff.1 there
        exact .inr ⟨⟨rfl, type.symm, ownKey.trans same.symm⟩, if_pos there⟩
      · refine .inl ⟨if_neg there, fun ⟨_, type', key'⟩ => there ?_⟩
        exact SavedRow.isAt_iff.2 ⟨type.trans type', same.trans (ownKey.symm.trans key')⟩
    · exact .inl ⟨rfl, by simp⟩

end Records
end Store
end Registrar
