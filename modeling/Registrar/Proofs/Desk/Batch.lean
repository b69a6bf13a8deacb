import Registrar.Proofs.Desk.Run
import Registrar.Proofs.Entries

/-!
Batches of operations that do not meet. An operation is solitary if it does the same to a record, and
answers the same, whatever it has done to the others before. Main statement: a batch of a solitary
operation complains of the records of which the operation complains on its own, and leaves each listed
row as the operation on its own does.
-/

namespace Registrar

namespace Batch

variable {σ E : Type} (operation : σ → E → σ × Except Error Unit)

/-- The messages of the targets that fail in a state, each on its own. -/
def complaints (s : σ) (targets : List (Target E)) : List (String × String) :=
  targets.filterMap fun target =>
    match (step operation s target).2 with
    | .ok () => none
    | .error e => some (target.key, e.message)

theorem errors_run {s₀ : σ} {P : σ → List (Target E) → Prop}
    (alike : ∀ s target r, P s (target :: r) →
      (step operation s target).2 = (step operation s₀ target).2 ∧
        P (step operation s target).1 r)
    {s : σ} {targets : List (Target E)} (errors : List (String × String)) (start : P s targets) :
    (run operation s errors targets).2 =
      Entries.putAll errors (complaints operation s₀ targets) := by
  induction targets generalizing s errors with
  | nil => rfl
  | cons target r ih =>
    obtain ⟨same, next⟩ := alike s target r start
    unfold run complaints
    rw [List.filterMap_cons]
    split
    · next s' h =>
      rw [h] at same next
      rw [← same]
      exact ih errors next
    · next s' fault h =>
      rw [h] at same next
      rw [← same]
      exact ih _ next

end Batch

namespace Store

variable {s t : Store} {fate : SavedRow → Option SavedRow}

theorem row?_filterMap (rows : t.rows = s.rows.filterMap fate)
    (stays : ∀ row new, fate row = some new → new.isAt row.entityType row.key)
    (each : s.OneRowEach) (entityType key : String) :
    t.row? entityType key = (s.row? entityType key).bind fate := by
  have place {row new : SavedRow} (h : fate row = some new) :
      new.isAt entityType key = row.isAt entityType key := by
    obtain ⟨type, own⟩ := SavedRow.isAt_iff.1 (stays row new h)
    rw [SavedRow.isAt, SavedRow.isAt, type, own]
  rw [row?, row?, rows]
  unfold OneRowEach at each
  generalize s.rows = old at each
  induction old with
  | nil => rfl
  | cons row r ih =>
    obtain ⟨apart, each⟩ := List.pairwise_cons.1 each
    rw [List.filterMap_cons, List.find?_cons]
    cases there : row.isAt entityType key with
    | true =>
      cases new : fate row with
      | some new => simp [place new, there, new]
      | none =>
        -- No further row stands at the place of the one that has gone.
        have vacant : r.find? (fun row => row.isAt entityType key) = none := by
          refine List.find?_eq_none.2 fun other hother again => ?_
          obtain ⟨type, own⟩ := SavedRow.isAt_iff.1 again
          have := apart other hother
          rw [type, own, there] at this
          cases this
        simp [ih each, vacant, new]
    | false =>
      cases new : fate row with
      | some new => simp [place new, there, ih each]
      | none => simp [ih each]

theorem OneRowEach.filterMap (each : s.OneRowEach)
    (stays : ∀ row new, fate row = some new → new.isAt row.entityType row.key)
    (rows : t.rows = s.rows.filterMap fate) : t.OneRowEach := by
  rw [OneRowEach, rows]
  refine List.Pairwise.filterMap _ (fun a b apart a' ha b' hb => ?_) each
  obtain ⟨typeA, keyA⟩ := SavedRow.isAt_iff.1 (stays a a' ha)
  obtain ⟨typeB, keyB⟩ := SavedRow.isAt_iff.1 (stays b b' hb)
  rw [SavedRow.isAt] at apart ⊢
  rw [typeA, keyA, typeB, keyB]
  exact apart

end Store

namespace Desk

variable {I E : Type} [Identifier I] [DecidableEq I] (d : Desk I E)

/-- What a batch takes up for an identifier. -/
def target (s : Store) (id : I) : Target E where
  key := Identifier.text id
  record :=
    match s.find? d.kind id with
    | .ok (some e) => .ok e
    | .ok none => .error (.absent d.kind.label (Identifier.text id))
    | .error fault => .error fault

/-- All the records under the identifiers, where there are any, can be read. -/
def Readable (s : Store) (ids : List I) : Prop := ∀ id ∈ ids, ∃ found, s.find? d.kind id = .ok found

omit [DecidableEq I] in
theorem find?_of_target {s : Store} {id : I} {e : E} (h : (d.target s id).record = .ok e) :
    s.find? d.kind id = .ok (some e) := by
  unfold target at h
  dsimp only at h
  split at h
  · next found =>
    cases h
    exact found
  · cases h
  · cases h

theorem targets_eq {params : Params} {s : Store} {ids : List I}
    (parsed : Identifier.parseAll (params.getAll "ids") = .ok ids) (readable : d.Readable s ids) :
    d.targets params s = .ok (ids.map (d.target s)) := by
  unfold targets
  rw [parsed]
  dsimp only
  clear parsed
  induction ids with
  | nil => rfl
  | cons id r ih =>
    obtain ⟨found, hfound⟩ := readable id List.mem_cons_self
    have rest := ih fun i hi => readable i (List.mem_cons_of_mem _ hi)
    rw [List.mapM_cons, rest, List.map_cons]
    unfold target
    rw [hfound]
    cases found <;> rfl

theorem of_targets_ok {params : Params} {s : Store} {targets : List (Target E)}
    (h : d.targets params s = .ok targets) :
    ∃ ids : List I, Identifier.parseAll (params.getAll "ids") = .ok ids ∧ d.Readable s ids := by
  unfold Desk.targets at h
  cases parsed : Identifier.parseAll (I := I) (params.getAll "ids") with
  | error fault => simp [parsed] at h
  | ok ids =>
    rw [parsed] at h
    refine ⟨ids, rfl, fun id hid => ?_⟩
    obtain ⟨_, _, read⟩ := mapM_mem_of_mem h hid
    dsimp only at read
    split at read
    · cases read
    · next found hfound => exact ⟨found, hfound⟩

variable (operation : E → Action Unit) (r : Registry)

/-- What the operation does for an identifier when it does nothing else. -/
def alone (id : I) : Registry × Except Error Unit :=
  Batch.step (fun r e => operation e r) r (d.target r.store id)

/-- The messages of the records for which the operation fails when it does nothing else. -/
def complaints (ids : List I) : List (String × String) :=
  Batch.complaints (fun r e => operation e r) r (ids.map (d.target r.store))

/-- What becomes of a row when each listed record is left as the operation on its own leaves it. -/
def settle (ids : List I) (row : SavedRow) : Option SavedRow :=
  if row.entityType = d.kind.entityType then
    (ids.find? fun id => Identifier.text id == row.key).elim (some row) fun id =>
      (d.alone operation r id).1.store.row? row.entityType row.key
  else some row

/-- The operation does the same to a record in all registries that are near the first one and have
the record's row as it was, and the registry that it leaves is near again. -/
structure Solitary (Near : Registry → Prop) : Prop where
  near : Near r
  alike {t : Registry} {e : E} {id : I} (ht : Near t) (each : t.store.OneRowEach)
    (found : r.store.find? d.kind id = .ok (some e))
    (same : t.store.row? d.kind.entityType (Identifier.text id) =
      r.store.row? d.kind.entityType (Identifier.text id)) :
    (operation e t).2 = (operation e r).2 ∧ Near (operation e t).1 ∧
    (operation e t).1.store.rows = t.store.rows.filterMap fun row =>
      if row.isAt d.kind.entityType (Identifier.text id) then
        (operation e r).1.store.row? d.kind.entityType (Identifier.text id)
      else some row

section Settled

variable {d operation r} {ids others : List I} {row : SavedRow}

omit [DecidableEq I] in
theorem alone_of_record {id : I} {e : E} (record : (d.target r.store id).record = .ok e) :
    d.alone operation r id = operation e r := by
  rw [alone, Batch.step, record]

omit [DecidableEq I] in
theorem alone_of_record_error {id : I} {fault : Error}
    (record : (d.target r.store id).record = .error fault) :
    d.alone operation r id = (r, .error fault) := by
  rw [alone, Batch.step, record]

omit [DecidableEq I] in
theorem settle_stays {new : SavedRow} (h : d.settle operation r ids row = some new) :
    new.isAt row.entityType row.key := by
  unfold settle at h
  split at h
  · cases listed : ids.find? fun id => Identifier.text id == row.key with
    | none =>
      rw [listed] at h
      cases h
      exact row.isAt_self
    | some id =>
      rw [listed] at h
      exact Store.isAt_of_row? h
  · cases h
    exact row.isAt_self

omit [DecidableEq I] in
theorem settle_of_not_listed (h : ∀ id ∈ ids, ¬row.isAt d.kind.entityType (Identifier.text id)) :
    d.settle operation r ids row = some row := by
  unfold settle
  split
  · next type =>
    have unlisted : (ids.find? fun id => Identifier.text id == row.key) = none := by
      refine List.find?_eq_none.2 fun id hid same => h id hid ?_
      exact SavedRow.isAt_iff.2 ⟨type, (eq_of_beq same).symm⟩
    rw [unlisted]
    rfl
  · rfl

variable [LawfulIdentifier I]

omit [DecidableEq I] in
theorem settle_of_listed {id : I} (hid : id ∈ ids)
    (there : row.isAt d.kind.entityType (Identifier.text id)) :
    d.settle operation r ids row =
      (d.alone operation r id).1.store.row? d.kind.entityType (Identifier.text id) := by
  obtain ⟨type, key⟩ := SavedRow.isAt_iff.1 there
  unfold settle
  rw [if_pos type, type, key]
  cases listed : ids.find? fun i => Identifier.text i == Identifier.text id with
  | none =>
    have := List.find?_eq_none.1 listed id hid
    simp at this
  | some i =>
    have same := List.find?_some listed
    rw [beq_iff_eq] at same
    rw [LawfulIdentifier.text_injective same]
    rfl

omit [DecidableEq I] in
theorem settle_congr (same : ∀ id, id ∈ ids ↔ id ∈ others) :
    d.settle operation r ids row = d.settle operation r others row := by
  by_cases listed : ∃ id ∈ ids, row.isAt d.kind.entityType (Identifier.text id)
  · obtain ⟨id, hid, there⟩ := listed
    rw [settle_of_listed hid there, settle_of_listed ((same id).1 hid) there]
  · simp only [not_exists, not_and] at listed
    rw [settle_of_not_listed listed,
      settle_of_not_listed fun id hid => listed id ((same id).2 hid)]

omit [DecidableEq I] in
theorem not_isAt_of_not_mem {id : I} (other : id ∉ ids)
    (there : row.isAt d.kind.entityType (Identifier.text id)) :
    ∀ i ∈ ids, ¬row.isAt d.kind.entityType (Identifier.text i) := by
  intro i hi again
  have same := (SavedRow.isAt_iff.1 there).2.symm.trans (SavedRow.isAt_iff.1 again).2
  exact other (LawfulIdentifier.text_injective same ▸ hi)

omit [DecidableEq I] in
theorem settle_cons_of_not_isAt {id : I}
    (there : ¬row.isAt d.kind.entityType (Identifier.text id)) :
    d.settle operation r (id :: ids) row = d.settle operation r ids row := by
  by_cases listed : ∃ i ∈ ids, row.isAt d.kind.entityType (Identifier.text i)
  · obtain ⟨i, hi, at_⟩ := listed
    rw [settle_of_listed hi at_, settle_of_listed (List.mem_cons_of_mem _ hi) at_]
  · simp only [not_exists, not_and] at listed
    rw [settle_of_not_listed listed, settle_of_not_listed]
    intro i hi
    rcases List.mem_cons.1 hi with rfl | hi
    · exact there
    · exact listed i hi

omit [DecidableEq I] in
theorem filterMap_settle_cons_of_stays (each : r.store.OneRowEach) {id : I} (other : id ∉ ids)
    (stays : (d.alone operation r id).1 = r) :
    r.store.rows.filterMap (d.settle operation r (id :: ids)) =
      r.store.rows.filterMap (d.settle operation r ids) := by
  refine List.filterMap_congr fun row hrow => ?_
  by_cases there : row.isAt d.kind.entityType (Identifier.text id)
  · rw [settle_of_listed List.mem_cons_self there,
      settle_of_not_listed (not_isAt_of_not_mem other there), stays, each.row?_eq hrow there]
  · exact settle_cons_of_not_isAt there

omit [DecidableEq I] in
theorem row?_of_settled (each : r.store.OneRowEach) {t : Store} {id : I} (other : id ∉ ids)
    (rows : t.rows = r.store.rows.filterMap (d.settle operation r ids)) :
    t.row? d.kind.entityType (Identifier.text id) =
      r.store.row? d.kind.entityType (Identifier.text id) := by
  rw [Store.row?_filterMap rows (fun _ _ => settle_stays) each]
  cases there : r.store.row? d.kind.entityType (Identifier.text id) with
  | none => rfl
  | some row =>
    exact settle_of_not_listed (not_isAt_of_not_mem other (Store.isAt_of_row? there))

omit [DecidableEq I] in
/-- The fates of the rows under the identifiers so far, then that of the row under one more. -/
theorem settle_cons {id : I} (other : id ∉ ids) :
    d.settle operation r (id :: ids) row = (d.settle operation r ids row).bind fun new =>
      if new.isAt d.kind.entityType (Identifier.text id) then
        (d.alone operation r id).1.store.row? d.kind.entityType (Identifier.text id)
      else some new := by
  by_cases there : row.isAt d.kind.entityType (Identifier.text id)
  · rw [settle_of_listed List.mem_cons_self there,
      settle_of_not_listed (not_isAt_of_not_mem other there), Option.bind_some, if_pos there]
  · rw [settle_cons_of_not_isAt there]
    cases left : d.settle operation r ids row with
    | none => rfl
    | some new =>
      obtain ⟨type, key⟩ := SavedRow.isAt_iff.1 (settle_stays left)
      have apart : ¬new.isAt d.kind.entityType (Identifier.text id) := by
        rw [SavedRow.isAt, type, key]
        exact there
      rw [Option.bind_some, if_neg apart]

end Settled

section Batches

variable {d operation r} [LawfulIdentifier I] {Near : Registry → Prop} {ids : List I}

omit [DecidableEq I] in
theorem Solitary.step (solitary : d.Solitary operation r Near) (each : r.store.OneRowEach)
    {t : Registry} (near : Near t) {taken : List I} {id : I} (other : id ∉ taken)
    (rows : t.store.rows = r.store.rows.filterMap (d.settle operation r taken)) :
    let result := Batch.step (fun r e => operation e r) t (d.target r.store id)
    result.2 = (d.alone operation r id).2 ∧ Near result.1 ∧
      result.1.store.rows = r.store.rows.filterMap (d.settle operation r (id :: taken)) := by
  intro result
  cases record : (d.target r.store id).record with
  | error fault =>
    have none : result = (t, .error fault) := by simp only [result, Batch.step, record]
    have idle : d.alone operation r id = (r, .error fault) := alone_of_record_error record
    rw [none, idle]
    refine ⟨rfl, near, rows.trans (filterMap_settle_cons_of_stays each other ?_).symm⟩
    rw [idle]
  | ok e =>
    have some : result = operation e t := by simp only [result, Batch.step, record]
    have here : d.alone operation r id = operation e r := alone_of_record record
    obtain ⟨answer, near', after⟩ := solitary.alike near
      (each.filterMap (fun _ _ => settle_stays) rows) (d.find?_of_target record)
      (row?_of_settled each other rows)
    rw [some, here]
    refine ⟨answer, near', ?_⟩
    rw [after, rows, List.filterMap_filterMap]
    refine List.filterMap_congr fun row _ => ?_
    rw [settle_cons other, here]

variable (d operation r) in
/-- A batch that has come so far: the records ahead have not had their turn, and the rows of the others
are as the operation on its own leaves them. -/
def Midway (Near : Registry → Prop) (ids : List I) (t : Registry) (ahead : List (Target E)) : Prop :=
  ∃ taken rest : List I, ahead = rest.map (d.target r.store) ∧ (taken ++ rest).Nodup ∧
    (∀ id, id ∈ taken ++ rest ↔ id ∈ ids) ∧ Near t ∧
    t.store.rows = r.store.rows.filterMap (d.settle operation r taken)

omit [DecidableEq I] [LawfulIdentifier I] in
theorem Solitary.midway_start (solitary : d.Solitary operation r Near) (distinct : ids.Nodup) :
    d.Midway operation r Near ids r (ids.map (d.target r.store)) := by
  refine ⟨[], ids, rfl, distinct, fun _ => Iff.rfl, solitary.near, ?_⟩
  have stay : ∀ row, d.settle operation r [] row = some row := fun row =>
    settle_of_not_listed fun id hid => absurd hid List.not_mem_nil
  simp [stay]

omit [DecidableEq I] in
theorem Solitary.midway_step (solitary : d.Solitary operation r Near) (each : r.store.OneRowEach)
    (t : Registry) (target : Target E) (ahead : List (Target E))
    (h : d.Midway operation r Near ids t (target :: ahead)) :
    (Batch.step (fun r e => operation e r) t target).2 =
      (Batch.step (fun r e => operation e r) r target).2 ∧
    d.Midway operation r Near ids (Batch.step (fun r e => operation e r) t target).1 ahead := by
  obtain ⟨taken, rest, shape, distinct, members, near, rows⟩ := h
  cases rest with
  | nil => cases shape
  | cons id rest =>
    cases shape
    have moved : (taken ++ id :: rest).Perm (id :: taken ++ rest) := List.perm_middle
    have distinct' := moved.nodup_iff.1 distinct
    have other : id ∉ taken := fun h => (List.nodup_cons.1 distinct').1 (List.mem_append_left _ h)
    obtain ⟨answer, near', rows'⟩ := solitary.step each near other rows
    exact ⟨answer, id :: taken, rest, rfl, distinct',
      fun i => moved.mem_iff.symm.trans (members i), near', rows'⟩

omit [DecidableEq I] in
theorem Midway.rows {t : Registry} (h : d.Midway operation r Near ids t []) :
    t.store.rows = r.store.rows.filterMap (d.settle operation r ids) := by
  obtain ⟨taken, rest, shape, _, members, _, rows⟩ := h
  cases List.map_eq_nil_iff.1 shape.symm
  rw [List.append_nil] at members
  exact rows.trans (List.filterMap_congr fun row _ => settle_congr members)

/-- A batch of a solitary operation complains as the operation does on its own, and so it leaves each
listed row. -/
theorem Solitary.batch (solitary : d.Solitary operation r Near) (each : r.store.OneRowEach)
    (name : String) {params : Params}
    (parsed : Identifier.parseAll (params.getAll "ids") = .ok ids)
    (readable : d.Readable r.store ids) :
    (d.batch name operation params r).2 = .ok (Batch.classify name ids.length
      (Entries.putAll [] (d.complaints operation r ids))) ∧
    (d.batch name operation params r).1.store.rows =
      r.store.rows.filterMap (d.settle operation r ids) := by
  have start := solitary.midway_start (Identifier.nodup_parseAll parsed)
  unfold Desk.batch
  rw [d.targets_eq parsed readable]
  dsimp only [Batch.execute]
  refine ⟨?_, ?_⟩
  · rw [Batch.errors_run _ (solitary.midway_step each) [] start, List.length_map]
    rfl
  · exact Midway.rows (Batch.run_steps _ (fun t target ahead h =>
      (solitary.midway_step each t target ahead h).2) [] start)

end Batches
end Desk
end Registrar
