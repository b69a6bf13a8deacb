import Mathlib.Data.List.Induction
import Registrar.Proofs.Store.Run

/-!
What the log says about a change of the store. Main statement: a save or delete appends one revision
for the row that it adds, replaces or removes, and none if no row differs; and so do changes in a row,
as long as each is at another place. In a run, each revision was made by one of the saves and deletes.
-/

namespace Registrar

/-- The revision is one of the record under a key. -/
def Revision.IsAt (r : Revision) (entityType key : String) : Prop :=
  r.entityType = entityType ∧ r.entityKey = key

/-- What became of a row is what the revision says: the row came in with the revision's content, it
took the place of the version before it, or it went with that content. -/
def Revision.Tells (r : Revision) (before after : Option SavedRow) : Prop :=
  match r.type with
  | .add => before = none ∧ ∃ row, after = some row ∧ r.content = row.content
  | .modify => ∃ old row, before = some old ∧ after = some row ∧ row.version = old.version + 1 ∧
      r.content = row.content
  | .delete => after = none ∧ ∃ row, before = some row ∧ r.content = row.content

theorem Revision.Tells.ne {r : Revision} {before after : Option SavedRow}
    (h : r.Tells before after) : before ≠ after := by
  unfold Tells at h
  split at h
  · obtain ⟨rfl, row, rfl, _⟩ := h
    simp
  · obtain ⟨old, row, rfl, rfl, next, _⟩ := h
    intro same
    cases same
    omega
  · obtain ⟨rfl, row, rfl, _⟩ := h
    simp

namespace Store

structure Untouched (s t : Store) : Prop where
  rows : t.rows = s.rows
  revisions : t.revisions = s.revisions

theorem Untouched.trans {s t u : Store} (first : s.Untouched t) (rest : t.Untouched u) :
    s.Untouched u :=
  ⟨rest.rows.trans first.rows, rest.revisions.trans first.revisions⟩

/-- The revisions are what the second store has over the first one. Each of them is by the author and
tells what became of a row; no two are about the same one, and no other row has changed. -/
structure Recorded (author : Author) (s t : Store) (revisions : List Revision) : Prop where
  appended : t.revisions = s.revisions ++ revisions
  authored : ∀ r ∈ revisions, r.actor = author.actor ∧ r.event = some author.event
  onceEach : revisions.Pairwise fun a b => ¬b.IsAt a.entityType a.entityKey
  told : ∀ r ∈ revisions,
    r.Tells (s.row? r.entityType r.entityKey) (t.row? r.entityType r.entityKey)
  othersKept : ∀ entityType key, (∀ r ∈ revisions, ¬r.IsAt entityType key) →
    t.row? entityType key = s.row? entityType key

variable {author : Author} {s t u : Store} {revisions more : List Revision}

theorem Untouched.recorded (h : s.Untouched t) : s.Recorded author t [] where
  appended := by simp [h.revisions]
  authored := by simp
  onceEach := .nil
  told := by simp
  othersKept _ _ _ := row?_congr h.rows

theorem recorded_entry {type : RevisionType} {now : Instant} {oldState : Option String}
    {row : SavedRow} (log : t.revisions = s.log type now author oldState row)
    (told : (s.entry type now author oldState row).Tells (s.row? row.entityType row.key)
      (t.row? row.entityType row.key))
    (away : ∀ entityType key, ¬row.isAt entityType key →
      t.row? entityType key = s.row? entityType key) :
    s.Recorded author t [s.entry type now author oldState row] where
  appended := by rw [log, log_eq]
  authored r hr := by
    cases List.mem_singleton.1 hr
    exact ⟨rfl, rfl⟩
  onceEach := List.pairwise_singleton _ _
  told r hr := by
    cases List.mem_singleton.1 hr
    exact told
  othersKept entityType key h :=
    away entityType key fun there => h _ (List.mem_singleton.2 rfl) (SavedRow.isAt_iff.1 there)

theorem Recorded.differs_iff (h : s.Recorded author t revisions) (entityType key : String) :
    s.row? entityType key ≠ t.row? entityType key ↔ ∃ r ∈ revisions, r.IsAt entityType key := by
  constructor
  · intro differs
    refine Classical.byContradiction fun none => differs (h.othersKept entityType key ?_).symm
    exact fun r hr there => none ⟨r, hr, there⟩
  · rintro ⟨r, hr, rfl, rfl⟩
    exact (h.told r hr).ne

theorem Recorded.trans (first : s.Recorded author t revisions) (rest : t.Recorded author u more)
    (apart : ∀ a ∈ revisions, ∀ b ∈ more, ¬b.IsAt a.entityType a.entityKey) :
    s.Recorded author u (revisions ++ more) where
  appended := by rw [rest.appended, first.appended, List.append_assoc]
  authored r hr := (List.mem_append.1 hr).elim (first.authored r) (rest.authored r)
  onceEach := List.pairwise_append.2 ⟨first.onceEach, rest.onceEach, apart⟩
  told r hr := by
    rcases List.mem_append.1 hr with hr | hr
    · rw [rest.othersKept _ _ (apart r hr)]
      exact first.told r hr
    · rw [← first.othersKept _ _ fun a ha there => apart a ha r hr ⟨there.1.symm, there.2.symm⟩]
      exact rest.told r hr
  othersKept entityType key h := by
    rw [rest.othersKept entityType key fun r hr => h r (List.mem_append_right _ hr)]
    exact first.othersKept entityType key fun r hr => h r (List.mem_append_left _ hr)

section Records

variable {I E : Type} [Identifier I] (k : Kind I E)

theorem recorded_save (law : k.Lawful) (supply : Supply) (author : Author) (e : E) (s : Store) :
    ∃ revisions, s.Recorded author (s.save k supply author e).1 revisions ∧
      ∀ r ∈ revisions, r.IsAt k.entityType (k.key (s.named k supply e)) := by
  have way := s.saving k supply author e
  generalize s.save k supply author e = result at way
  cases way with
  | replaced counted old rows revisions found current next bumped =>
    let row := k.row (k.key (s.named k supply e)) next
    have after (entityType key : String) :
        (counted.replace supply.now author old row).row? entityType key =
          if row.isAt entityType key then some row else s.row? entityType key :=
      row?_map row found (rows_replace rows)
    refine ⟨[s.entry .modify supply.now author old.state row],
      recorded_entry (revisions_replace revisions) ?_ ?_, ?_⟩
    · rw [after, if_pos row.isAt_self]
      refine ⟨old, row, found, rfl, ?_, rfl⟩
      show k.version next = old.version + 1
      rw [bumped, law.version_setVersion]
    · intro entityType key away
      rw [after, if_neg away]
    · simp [entry, row, Kind.row, Revision.IsAt]
  | outdated counted old rows revisions found stale =>
    exact ⟨[], Untouched.recorded ⟨rows, revisions⟩, by simp⟩
  | added counted rows revisions vacant first =>
    let row := k.row (k.key (s.named k supply e)) (s.named k supply e)
    have after (entityType key : String) : (counted.add supply.now author row).row? entityType key =
        if row.isAt entityType key then some row else s.row? entityType key :=
      row?_append row vacant (rows_add rows)
    refine ⟨[s.entry .add supply.now author none row],
      recorded_entry (revisions_add revisions) ?_ ?_, ?_⟩
    · rw [after, if_pos row.isAt_self]
      exact ⟨vacant, row, rfl, rfl⟩
    · intro entityType key away
      rw [after, if_neg away]
    · simp [entry, row, Kind.row, Revision.IsAt]
  | gone counted rows revisions vacant later =>
    exact ⟨[], Untouched.recorded ⟨rows, revisions⟩, by simp⟩

theorem recorded_delete (now : Instant) (author : Author) (e : E) (s : Store) :
    ∃ revisions, s.Recorded author (s.delete k now author e).1 revisions ∧
      ∀ r ∈ revisions, r.IsAt k.entityType (k.key e) := by
  unfold delete
  split
  · exact ⟨[], Untouched.recorded ⟨rfl, rfl⟩, by simp⟩
  · next key hkey =>
    split
    · next row found =>
      obtain ⟨type, same⟩ := SavedRow.isAt_iff.1 (isAt_of_row? found)
      have after (entityType key : String) : (s.remove now author row).row? entityType key =
          if row.isAt entityType key then none else s.row? entityType key := row?_filter row rfl
      refine ⟨[s.entry .delete now author row.state row], recorded_entry rfl ?_ ?_, ?_⟩
      · rw [after, if_pos row.isAt_self]
        refine ⟨rfl, row, ?_, rfl⟩
        rw [type, same]
        exact found
      · intro entityType key away
        rw [after, if_neg away]
      · simp [entry, Revision.IsAt, type, same, Kind.key, hkey]
    · exact ⟨[], Untouched.recorded ⟨rfl, rfl⟩, by simp⟩

end Records

/-- A change adds no revision, or one that tells what became of the row that it is about. -/
theorem Change.told (change : s.Change t) :
    t.revisions = s.revisions ∨ ∃ rev : Revision, t.revisions = s.revisions ++ [rev] ∧
      rev.Tells (s.row? rev.entityType rev.entityKey) (t.row? rev.entityType rev.entityKey) := by
  cases change with
  | idle _ revisions => exact .inl revisions
  | add now author row vacant first coherent rows revisions =>
    have after : t.row? row.entityType row.key = some row :=
      (row?_append row vacant rows).trans (if_pos row.isAt_self)
    exact .inr ⟨_, revisions, vacant, row, after, rfl⟩
  | replace now author old row found next coherent rows revisions =>
    have after : t.row? row.entityType row.key = some row :=
      (row?_map row found rows).trans (if_pos row.isAt_self)
    exact .inr ⟨_, revisions, old, row, found, after, next, rfl⟩
  | remove now author row found rows revisions =>
    have after : t.row? row.entityType row.key = none :=
      (row?_filter row rows).trans (if_pos row.isAt_self)
    exact .inr ⟨_, revisions, after, row, found, rfl⟩

/-- The write puts the revision at the end of the store's log, and the revision tells what the write makes
of the row that it is about. -/
structure Write.Makes (w : Write) (s : Store) (rev : Revision) : Prop where
  logged : (w.apply s).revisions = s.revisions ++ [rev]
  told : rev.Tells (s.row? rev.entityType rev.entityKey)
    ((w.apply s).row? rev.entityType rev.entityKey)

/-- Each revision was made by one of the writes that led to the store. -/
theorem exists_makes (writes : List Write) {rev : Revision} (h : rev ∈ (run writes {}).revisions) :
    ∃ front w rest, writes = front ++ w :: rest ∧ w.Makes (run front {}) rev := by
  induction writes using List.reverseRecOn with
  | nil => cases h
  | append_singleton front w ih =>
    rw [run_append] at h
    -- An older revision is traced to an earlier write.
    have earlier (old : rev ∈ (run front {}).revisions) : ∃ before v rest,
        front ++ [w] = before ++ v :: rest ∧ v.Makes (run before {}) rev := by
      obtain ⟨before, v, rest, rfl, makes⟩ := ih old
      exact ⟨before, v, rest ++ [w], by simp, makes⟩
    rcases (change_apply w (run front {})).told with same | ⟨last, logged, told⟩
    · exact earlier (same ▸ h)
    · have there : rev ∈ (run front {}).revisions ++ [last] := logged ▸ h
      rcases List.mem_append.1 there with old | new
      · exact earlier old
      · cases List.mem_singleton.1 new
        exact ⟨front, w, [], rfl, logged, told⟩

end Store
end Registrar
