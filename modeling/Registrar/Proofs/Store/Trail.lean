import Registrar.Proofs.Store.Run

/-!
The trail of a record: its revisions in the order of the log. A record is added, modified any number
of times and deleted, again and again. Main statement: in every state that writes reach, the trail
and the row of each record tell the same life, and the log is numbered without a gap.
-/

namespace Registrar

/-- A life that has not ended yet: an addition and some modifications. -/
def openLife (modified : Nat) : List RevisionType := .add :: List.replicate modified .modify

/-- One life of a record from its addition to its deletion. -/
def endedLife (modified : Nat) : List RevisionType := openLife modified ++ [.delete]

/-- The modifications since the last addition. -/
def modifications (trail : List Revision) : Nat :=
  (trail.reverse.takeWhile fun r => r.type != .add).countP fun r => r.type == .modify

/-- What the state of a record is behind its trail. -/
def lastState (trail : List Revision) : Option String := trail.getLast?.bind Revision.newState

/-- The row of a record, if it has one, and its trail, as one change after another makes them. -/
inductive Life : Option SavedRow → List Revision → Prop
  | unknown : Life none []
  | add {trail : List Revision} {row : SavedRow} {r : Revision} (before : Life none trail)
      (type : r.type = .add) (first : row.version = 0) (old : r.oldState = none)
      (new : r.newState = row.state) (shown : r.content = row.content ∧ r.display = row.display) :
      Life (some row) (trail ++ [r])
  | modify {trail : List Revision} {was row : SavedRow} {r : Revision}
      (before : Life (some was) trail)
      (type : r.type = .modify) (next : row.version = was.version + 1) (old : r.oldState = was.state)
      (new : r.newState = row.state) (shown : r.content = row.content ∧ r.display = row.display) :
      Life (some row) (trail ++ [r])
  | delete {trail : List Revision} {was : SavedRow} {r : Revision} (before : Life (some was) trail)
      (type : r.type = .delete) (old : r.oldState = was.state) (new : r.newState = none) :
      Life none (trail ++ [r])

namespace Life

variable {row? : Option SavedRow} {trail : List Revision}

theorem last_of_some {row : SavedRow} (h : Life (some row) trail) :
    ∃ r, trail.getLast? = some r ∧ (r.type = .add ∨ r.type = .modify) ∧ r.newState = row.state ∧
      row.content = r.content ∧ row.display = r.display := by
  cases h with
  | add before type first old new shown =>
    exact ⟨_, List.getLast?_concat, .inl type, new, shown.1.symm, shown.2.symm⟩
  | modify before type next old new shown =>
    exact ⟨_, List.getLast?_concat, .inr type, new, shown.1.symm, shown.2.symm⟩

theorem last_of_none (h : Life none trail) :
    trail = [] ∨ ∃ r, trail.getLast? = some r ∧ r.type = .delete ∧ r.newState = none := by
  cases h with
  | unknown => exact .inl rfl
  | delete before type old new => exact .inr ⟨_, List.getLast?_concat, type, new⟩

theorem isSome_iff (h : Life row? trail) :
    row?.isSome ↔ ∃ r, trail.getLast? = some r ∧ (r.type = .add ∨ r.type = .modify) := by
  cases row? with
  | none =>
    refine ⟨fun none => by simp at none, fun ⟨r, last, type⟩ => ?_⟩
    rcases h.last_of_none with rfl | ⟨r', last', type', _⟩
    · simp at last
    · cases last.symm.trans last'
      simp [type'] at type
  | some row =>
    obtain ⟨r, last, type, _⟩ := h.last_of_some
    exact ⟨fun _ => ⟨r, last, type⟩, fun _ => rfl⟩

theorem lastState_eq (h : Life row? trail) : lastState trail = row?.bind SavedRow.state := by
  cases row? with
  | none =>
    rcases h.last_of_none with rfl | ⟨r, last, _, new⟩
    · rfl
    · simp [lastState, last, new]
  | some row =>
    obtain ⟨r, last, _, new, _⟩ := h.last_of_some
    simp [lastState, last, new]

theorem version_eq (h : Life row? trail) :
    ∀ row ∈ row?, row.version = modifications trail := by
  induction h with
  | unknown => simp
  | add before type first old new shown ih =>
    intro row hrow
    cases hrow
    simp [modifications, type, first]
  | modify before type next old new shown ih =>
    intro row hrow
    cases hrow
    have was := ih _ rfl
    simp only [modifications] at was ⊢
    simp [type, next, was]
  | delete before type old new ih => simp

/-- The trail tells some lives that have ended, and an open one if the record has a row. -/
theorem types_eq (h : Life row? trail) :
    ∃ ended : List Nat, trail.map Revision.type =
      ended.flatMap endedLife ++ (row?.map fun row => openLife row.version.toNat).getD [] := by
  induction h with
  | unknown => exact ⟨[], rfl⟩
  | add before type first old new shown ih =>
    obtain ⟨ended, ih⟩ := ih
    refine ⟨ended, ?_⟩
    rw [List.map_append, ih, List.map_singleton, type]
    simp [openLife, first]
  | @modify trail was row r before type next old new shown ih =>
    obtain ⟨ended, ih⟩ := ih
    refine ⟨ended, ?_⟩
    have grown : row.version.toNat = was.version.toNat + 1 := by
      have := before.version_eq was rfl
      omega
    rw [List.map_append, ih, List.map_singleton, type]
    simp [openLife, grown, List.replicate_succ']
  | @delete trail was r before type old new ih =>
    obtain ⟨ended, ih⟩ := ih
    refine ⟨ended ++ [was.version.toNat], ?_⟩
    rw [List.map_append, ih, List.map_singleton, type, List.flatMap_append]
    simp [endedLife]

theorem oldState_eq (h : Life row? trail) (front : List Revision) (r : Revision)
    (rest : List Revision) (split : trail = front ++ r :: rest) : r.oldState = lastState front := by
  -- The revision is the last one, or stands in the trail before that.
  have step {trail : List Revision} {last : Revision}
      (ih : ∀ rest, trail = front ++ r :: rest → r.oldState = lastState front)
      (old : last.oldState = lastState trail) (rest : List Revision)
      (split : trail ++ [last] = front ++ r :: rest) : r.oldState = lastState front := by
    rcases List.eq_nil_or_concat rest with rfl | ⟨rest, x, rfl⟩
    · obtain ⟨rfl, same⟩ := List.append_inj' split rfl
      cases same
      exact old
    · rw [List.concat_eq_append, ← List.cons_append, ← List.append_assoc] at split
      exact ih rest (List.append_inj' split rfl).1
  induction h generalizing rest with
  | unknown => simp at split
  | add before type first old new shown ih =>
    exact step ih (old.trans before.lastState_eq.symm) rest split
  | modify before type next old new shown ih =>
    exact step ih (old.trans before.lastState_eq.symm) rest split
  | delete before type old new ih =>
    exact step ih (old.trans before.lastState_eq.symm) rest split

end Life

namespace Store

theorem life_change {s t : Store} {entityType key : String}
    (h : Life (s.row? entityType key) (s.revisionsOf entityType key)) (change : s.Change t) :
    Life (t.row? entityType key) (t.revisionsOf entityType key) := by
  cases change with
  | idle rows revisions => rwa [row?_congr rows, revisionsOf_congr revisions]
  | add now author row vacant first coherent rows revisions =>
    rw [row?_append row vacant rows, revisionsOf_log revisions]
    split
    · next there =>
      obtain ⟨rfl, rfl⟩ := SavedRow.isAt_iff.1 there
      rw [vacant] at h
      exact .add h rfl first rfl rfl ⟨rfl, rfl⟩
    · exact h
  | replace now author old row found next coherent rows revisions =>
    rw [row?_map row found rows, revisionsOf_log revisions]
    split
    · next there =>
      obtain ⟨rfl, rfl⟩ := SavedRow.isAt_iff.1 there
      rw [found] at h
      exact .modify h rfl next rfl rfl ⟨rfl, rfl⟩
    · exact h
  | remove now author row found rows revisions =>
    rw [row?_filter row rows, revisionsOf_log revisions]
    split
    · next there =>
      obtain ⟨rfl, rfl⟩ := SavedRow.isAt_iff.1 there
      rw [found] at h
      exact .delete h rfl rfl rfl
    · exact h

theorem life_run (writes : List Write) (entityType key : String) :
    Life ((run writes {}).row? entityType key) ((run writes {}).revisionsOf entityType key) :=
  run_keeps life_change writes .unknown

def Numbered (s : Store) : Prop :=
  s.revisions.map Revision.number = (List.range s.revisions.length).map fun i : Nat => (i : Int) + 1

theorem numbered_log {s t : Store} (h : s.Numbered) {type : RevisionType} {now : Instant}
    {author : Author} {oldState : Option String} {row : SavedRow}
    (revisions : t.revisions = s.log type now author oldState row) : t.Numbered := by
  rw [Numbered, revisions, log_eq, List.map_append, h, List.length_append]
  simp [List.range_succ, entry]

theorem numbered_change {s t : Store} (h : s.Numbered) (change : s.Change t) : t.Numbered := by
  cases change with
  | idle rows revisions => rwa [Numbered, revisions]
  | add now author row vacant first coherent rows revisions => exact numbered_log h revisions
  | replace now author old row found next coherent rows revisions => exact numbered_log h revisions
  | remove now author row found rows revisions => exact numbered_log h revisions

theorem Numbered.pairwise {s : Store} (h : s.Numbered) :
    s.revisions.Pairwise fun a b => a.number < b.number := by
  have ascending : (s.revisions.map Revision.number).Pairwise (· < ·) := by
    rw [h, List.pairwise_map]
    exact List.pairwise_lt_range.imp fun less => by omega
  exact List.pairwise_map.1 ascending

theorem Numbered.le_length {s : Store} (h : s.Numbered) {r : Revision} (hr : r ∈ s.revisions) :
    r.number ≤ s.revisions.length := by
  have shown := List.mem_map_of_mem (f := Revision.number) hr
  rw [h, List.mem_map] at shown
  obtain ⟨i, hi, same⟩ := shown
  have := List.mem_range.1 hi
  omega

/-- Whatever is saved and deleted, each record's trail and row tell the same life, which the version
of the row counts the modifications of, and the log is numbered without a gap. Versions stay below
the number of saves. -/
theorem run_tells_lives (writes : List Write) :
    (run writes {}).Numbered ∧ (run writes {}).OneRowEach ∧ ∀ entityType key : String,
      let row? := (run writes {}).row? entityType key
      let trail := (run writes {}).revisionsOf entityType key
      (∃ ended : List Nat, trail.map Revision.type =
        ended.flatMap endedLife ++ (row?.map fun row => openLife row.version.toNat).getD []) ∧
      (row?.isSome ↔ ∃ r, trail.getLast? = some r ∧ (r.type = .add ∨ r.type = .modify)) ∧
      (∀ row ∈ row?, row.version = modifications trail ∧
        row.content.field? "version" = some (.int row.version) ∧
        0 ≤ row.version ∧ row.version < (run writes {}).saves) ∧
      (∀ row ∈ row?, ∃ r, trail.getLast? = some r ∧
        row.content = r.content ∧ row.display = r.display) ∧
      ∀ front r rest, trail = front ++ r :: rest → r.oldState = lastState front := by
  refine ⟨run_keeps numbered_change writes rfl, oneRowEach_run writes, ?_⟩
  intro entityType key row? trail
  have life : Life row? trail := life_run writes entityType key
  refine ⟨life.types_eq, life.isSome_iff, fun row hrow => ?_, fun row hrow => ?_, life.oldState_eq⟩
  · have kept := mem_of_row? hrow
    exact ⟨life.version_eq row hrow, (coherent_run writes row kept).version,
      versions_run writes row kept⟩
  · rw [Option.mem_def.1 hrow] at life
    obtain ⟨r, last, _, _, content, display⟩ := life.last_of_some
    exact ⟨r, last, content, display⟩

end Store
end Registrar
