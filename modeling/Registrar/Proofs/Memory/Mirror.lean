import Registrar.Proofs.Memory.Tables
import Registrar.Proofs.Sorting.Runs
import Registrar.Proofs.Store.Trail

/-!
The tables and the store side by side. Main statements: as long as no version leaves its 32 bits, each save
and delete has the same answer on the tables as on the store, and so has each read; a run of fewer than
2 ^ 31 writes never comes to such a version.
-/

namespace Registrar

open Json Number Store

/-- The row as the store has it, without the number of its save. -/
def StoredRow.saved (entityType key : String) (row : StoredRow) : SavedRow where
  entityType
  key
  version := row.version
  display := row.display
  state := row.state
  content := row.content

theorem StoredRow.isAt_saved {row : StoredRow} {entityType key other key' : String} :
    (row.saved entityType key).isAt other key' ↔ entityType = other ∧ key = key' :=
  SavedRow.isAt_iff

namespace Memory

/-- The number of the save that added the row which stands in the place of a given one. -/
def age (m : Memory) (row : SavedRow) : Int :=
  ((m.row? row.entityType row.key).map StoredRow.seq).getD 0

/-- The tables have the rows of the store, numbered in the order in which these stand. -/
structure Mirrors (m : Memory) (s : Store) : Prop where
  saves : m.saves = s.saves
  textIds : m.textIds = s.textIds
  revisions : m.revisions = s.revisions
  changes : m.changes = s.revisions.length
  rows (entityType key : String) :
    (m.row? entityType key).map (StoredRow.saved entityType key) = s.row? entityType key
  tables : m.Ordered
  ages : s.rows.Pairwise fun a b => m.age a < m.age b
  young : ∀ row ∈ s.rows, m.age row ≤ m.saves

theorem mirrors_empty : Mirrors {} {} where
  saves := rfl
  textIds := rfl
  revisions := rfl
  changes := rfl
  rows _ _ := rfl
  tables _ := .nil
  ages := .nil
  young := by simp

variable {m : Memory} {s : Store} {entityType key : String} {now : Instant} {author : Author}
variable {row old : StoredRow}

theorem row?_note {type : RevisionType} {oldState : Option String} (other key' : String) :
    (m.note type now author entityType key oldState row).row? other key' = m.row? other key' := rfl

theorem identify_keeps {I E : Type} [Identifier I] (k : Kind I E) (supply : Supply) (e : E)
    (m : Memory) : (m.identify k supply e).1.tables = m.tables ∧
      (m.identify k supply e).1.revisions = m.revisions := by
  unfold identify
  dsimp only
  split <;> exact ⟨rfl, rfl⟩

theorem age_keep {r : SavedRow} : (m.keep entityType key row).age r =
    if r.isAt entityType key then row.seq else m.age r := by
  rw [age, row?_keep]
  by_cases there : r.isAt entityType key
  · obtain ⟨rfl, rfl⟩ := SavedRow.isAt_iff.1 there
    simp [there]
  · have away : ¬(entityType = r.entityType ∧ key = r.key) := fun ⟨type, same⟩ =>
      there (SavedRow.isAt_iff.2 ⟨type.symm, same.symm⟩)
    rw [if_neg away, if_neg there, age]

theorem age_drop {r : SavedRow} (away : !r.isAt entityType key) :
    (m.drop entityType key).age r = m.age r := by
  have apart : ¬(entityType = r.entityType ∧ key = r.key) := by
    rintro ⟨rfl, rfl⟩
    simp [r.isAt_self] at away
  rw [age, row?_drop, if_neg apart, age]

namespace Mirrors

variable (h : Mirrors m s)

include h

theorem note {type : RevisionType} {oldState : Option String} :
    (m.note type now author entityType key oldState row).revisions =
      s.log type now author oldState (row.saved entityType key) := by
  rw [Memory.note, log, h.revisions, h.changes]
  rfl

theorem row?_of_keep {t : Store} (rows : ∀ other key', t.row? other key' =
      if (row.saved entityType key).isAt other key' then some (row.saved entityType key)
      else s.row? other key') (other key' : String) :
    ((m.keep entityType key row).row? other key').map (StoredRow.saved other key') =
      t.row? other key' := by
  rw [rows, row?_keep]
  by_cases there : entityType = other ∧ key = key'
  · obtain ⟨rfl, rfl⟩ := there
    rw [if_pos ⟨rfl, rfl⟩, if_pos (StoredRow.isAt_saved.2 ⟨rfl, rfl⟩), Option.map_some]
  · rw [if_neg there, if_neg fun same => there (StoredRow.isAt_saved.1 same), h.rows]

theorem added (vacant : m.row? entityType key = none) (fresh : row.seq = m.saves)
    (older : ∀ r ∈ s.rows, m.age r < m.saves) :
    Mirrors ((m.keep entityType key row).note .add now author entityType key none row)
      (s.add now author (row.saved entityType key)) := by
  have free : s.row? entityType key = none := by rw [← h.rows, vacant, Option.map_none]
  have away : ∀ r ∈ s.rows, r.isAt entityType key = false := row?_eq_none_iff.1 free
  have kept : ∀ r ∈ s.rows, (m.keep entityType key row).age r = m.age r := fun r hr => by
    rw [age_keep, if_neg (Bool.eq_false_iff.1 (away r hr))]
  have own : (m.keep entityType key row).age (row.saved entityType key) = m.saves := by
    rw [age_keep, if_pos (StoredRow.isAt_saved.2 ⟨rfl, rfl⟩), fresh]
  exact {
    saves := h.saves
    textIds := h.textIds
    revisions := h.note
    changes := by simp [Memory.note, Memory.keep, h.changes, Store.add, log]
    rows := h.row?_of_keep fun other key' => row?_append _ free rfl
    tables := h.tables.keep
    ages := by
      refine List.pairwise_append.2 ⟨h.ages.imp_of_mem fun {a b} ha hb before => ?_,
        List.pairwise_singleton _ _, fun a ha b hb => ?_⟩
      · show (m.keep entityType key row).age a < (m.keep entityType key row).age b
        rwa [kept a ha, kept b hb]
      · cases List.mem_singleton.1 hb
        show (m.keep entityType key row).age a < (m.keep entityType key row).age _
        rw [kept a ha, own]
        exact older a ha
    young := fun r hr => by
      show (m.keep entityType key row).age r ≤ m.saves
      rcases List.mem_append.1 hr with hr | hr
      · exact kept r hr ▸ h.young r hr
      · cases List.mem_singleton.1 hr
        exact Int.le_of_eq own }

theorem replaced (found : m.row? entityType key = some old) (same : row.seq = old.seq) :
    Mirrors ((m.keep entityType key row).note .modify now author entityType key old.state row)
      (s.replace now author (old.saved entityType key) (row.saved entityType key)) := by
  have there : s.row? entityType key = some (old.saved entityType key) := by
    rw [← h.rows, found, Option.map_some]
  let moved (r : SavedRow) : SavedRow :=
    if r.isAt entityType key then row.saved entityType key else r
  have kept (r : SavedRow) : (m.keep entityType key row).age (moved r) = m.age r := by
    dsimp only [moved]
    rw [age_keep]
    by_cases at_ : r.isAt entityType key
    · obtain ⟨rfl, rfl⟩ := SavedRow.isAt_iff.1 at_
      rw [if_pos at_, if_pos (StoredRow.isAt_saved.2 ⟨rfl, rfl⟩), same, age, found]
      rfl
    · rw [if_neg at_, if_neg at_]
  exact {
    saves := h.saves
    textIds := h.textIds
    revisions := h.note
    changes := by simp [Memory.note, Memory.keep, h.changes, Store.replace, log]
    rows := h.row?_of_keep fun other key' => row?_map _ there rfl
    tables := h.tables.keep
    ages := List.pairwise_map.2 (h.ages.imp fun {a b} before => by
      show (m.keep entityType key row).age (moved a) < (m.keep entityType key row).age (moved b)
      rwa [kept, kept])
    young := fun r hr => by
      obtain ⟨r, there, rfl⟩ := List.mem_map.1 hr
      show (m.keep entityType key row).age (moved r) ≤ m.saves
      exact Int.le_trans (Int.le_of_eq (kept r)) (h.young r there) }

theorem removed :
    Mirrors ((m.drop entityType key).note .delete now author entityType key row.state row)
      (s.remove now author (row.saved entityType key)) where
  saves := h.saves
  textIds := h.textIds
  revisions := h.note
  changes := by simp [Memory.note, Memory.drop, h.changes, Store.remove, log]
  rows other key' := by
    rw [row?_filter (s := s) (row.saved entityType key) rfl, row?_note, row?_drop]
    by_cases there : entityType = other ∧ key = key'
    · rw [if_pos there, if_pos (StoredRow.isAt_saved.2 there), Option.map_none]
    · rw [if_neg there, if_neg fun same => there (StoredRow.isAt_saved.1 same), h.rows]
  tables := h.tables.drop
  ages := (h.ages.filter _).imp_of_mem fun {a b} ha hb before => by
    have awayA : !a.isAt entityType key := (List.mem_filter.1 ha).2
    have awayB : !b.isAt entityType key := (List.mem_filter.1 hb).2
    show (m.drop entityType key).age a < (m.drop entityType key).age b
    rwa [age_drop awayA, age_drop awayB]
  young r hr := by
    obtain ⟨there, (away : !r.isAt entityType key)⟩ := List.mem_filter.1 hr
    show (m.drop entityType key).age r ≤ m.saves
    rw [age_drop away]
    exact h.young r there

section Writes

variable {I E : Type} [Identifier I] (k : Kind I E) (supply : Supply) (e : E)

theorem identify :
    (m.identify k supply e).2 = (s.identify k supply e).2 ∧
      Mirrors (m.identify k supply e).1 (s.identify k supply e).1 ∧
      ∀ r ∈ (s.identify k supply e).1.rows,
        (m.identify k supply e).1.age r < (m.identify k supply e).1.saves := by
  have older (r : SavedRow) (hr : r ∈ s.rows) : m.age r < ((s.saves + 1 : Nat) : Int) := by
    have young := h.young r hr
    rw [h.saves] at young
    omega
  have counted (texts : Nat) :
      Mirrors { m with saves := s.saves + 1, textIds := texts }
        { s with saves := s.saves + 1, textIds := texts } :=
    ⟨rfl, rfl, h.revisions, h.changes, h.rows, h.tables, h.ages, fun r hr =>
      Int.le_of_lt (older r hr)⟩
  unfold Memory.identify Store.identify
  rw [h.saves, h.textIds]
  dsimp only
  split
  · exact ⟨rfl, counted _, older⟩
  · exact ⟨rfl, h.textIds ▸ counted _, older⟩

/-- A save is answered alike and leaves the same rows, unless it replaces a row with the greatest version:
then the request ends, and the rows and revisions stay as they are. -/
theorem save (law : k.Lawful) :
    ((m.save k supply author e).2 = (s.save k supply author e).2 ∧
        Mirrors (m.save k supply author e).1 (s.save k supply author e).1) ∨
      ∃ old, s.row? k.entityType (k.key (s.named k supply e)) = some old ∧ maxInt32 ≤ old.version ∧
        (m.save k supply author e).2 = .error (.panic .overflow) ∧
        (m.save k supply author e).1.tables = m.tables ∧
        (m.save k supply author e).1.revisions = m.revisions := by
  obtain ⟨same, mirrors, older⟩ := h.identify k supply e
  have kept := m.identify_keeps k supply e
  have named := idText?_named law supply e s
  have first : (s.identify k supply e).1.row? k.entityType (k.key (s.named k supply e)) =
      s.row? k.entityType (k.key (s.named k supply e)) := row?_congr (identify_rows k supply e s)
  unfold Memory.save Store.save Store.named at *
  generalize s.identify k supply e = counted at *
  generalize m.identify k supply e = counted' at *
  obtain ⟨s', x⟩ := counted
  obtain ⟨m', x'⟩ := counted'
  dsimp only at same mirrors older kept named first ⊢
  subst same
  simp only [named, Option.getD_some, ← mirrors.rows k.entityType (k.key x')] at *
  cases found : m'.row? k.entityType (k.key x') with
  | none =>
    simp only [Option.map_none]
    split
    · exact .inl ⟨rfl, mirrors.added found rfl older⟩
    · exact .inl ⟨rfl, mirrors⟩
  | some old =>
    simp only [Option.map_some]
    by_cases current : old.version = k.version x'
    · by_cases low : old.version < maxInt32
      · have next : nextVersion? old.version = some (old.version + 1) := if_pos low
        have saved : (old.saved k.entityType (k.key x')).version = k.version x' := current
        simp only [if_pos current, if_pos saved, next]
        exact .inl ⟨rfl, mirrors.replaced found rfl⟩
      · have spent : nextVersion? old.version = none := if_neg low
        have there : s.row? k.entityType (k.key x') = some (old.saved k.entityType (k.key x')) := by
          rw [← first, found, Option.map_some]
        refine .inr ⟨_, there, Int.not_lt.1 low, ?_⟩
        simpa only [if_pos current, spent, true_and] using kept
    · have stale : (old.saved k.entityType (k.key x')).version ≠ k.version x' := current
      simp only [if_neg current, if_neg stale]
      exact .inl ⟨rfl, mirrors⟩

theorem delete : (m.delete k now author e).2 = (s.delete k now author e).2 ∧
    Mirrors (m.delete k now author e).1 (s.delete k now author e).1 := by
  unfold Memory.delete Store.delete
  cases k.idText? e with
  | none => exact ⟨rfl, h⟩
  | some key =>
    have row := h.rows k.entityType key
    dsimp only
    rw [← row]
    cases m.row? k.entityType key with
    | none => exact ⟨rfl, h⟩
    | some old => exact ⟨rfl, h.removed⟩

end Writes

section Reads

variable {I E : Type} [Identifier I] (k : Kind I E)

theorem find? (id : I) : m.find? k id = s.find? k id := by
  rw [Memory.find?, Store.find?, ← h.rows]
  cases m.row? k.entityType (Identifier.text id) <;> rfl

theorem display? : m.display? entityType key = s.display? entityType key := by
  rw [Memory.display?, Store.display?, ← h.rows]
  cases m.row? entityType key <;> rfl

theorem revisionsOf (numbered : s.Numbered) :
    m.revisionsOf entityType key = some (s.revisionsOf entityType key) := by
  rw [Memory.revisionsOf, h.revisions]
  exact Sorting.sort?_of_perm 296 (.refl _) (numbered.pairwise.filter _)

theorem row?_of_mem (each : s.OneRowEach) {r : SavedRow} (hr : r ∈ s.rows) :
    m.row? r.entityType r.key = some ⟨m.age r, r.version, r.display, r.state, r.content⟩ := by
  have there := h.rows r.entityType r.key
  rw [each.row?_eq hr r.isAt_self] at there
  obtain ⟨row, found, shown⟩ := Option.map_eq_some_iff.1 there
  have age : m.age r = row.seq := by
    rw [Memory.age, found]
    rfl
  rw [found, age, ← shown]
  rfl

/-- A table has the rows of the store with its type, in some order. -/
theorem table_perm (each : s.OneRowEach) (entityType : String) :
    (m.table entityType).Perm ((s.rows.filter fun r => r.entityType == entityType).map fun r =>
      (r.key, ⟨m.age r, r.version, r.display, r.state, r.content⟩)) := by
  refine (List.perm_ext_iff_of_nodup (.of_map _ (h.tables entityType).nodup) ?_).2 fun ⟨key, row⟩ => ?_
  · refine List.pairwise_map.2 ((each.filter _).imp_of_mem fun {a b} ha hb apart same => ?_)
    have typeA := (List.mem_filter.1 ha).2
    have typeB := (List.mem_filter.1 hb).2
    have sameType : a.entityType = b.entityType := (eq_of_beq typeA).trans (eq_of_beq typeB).symm
    have sameKey : a.key = b.key := congrArg Prod.fst same
    rw [SavedRow.isAt_iff.2 ⟨sameType, sameKey⟩] at apart
    cases apart
  · rw [mem_table_iff h.tables, List.mem_map]
    constructor
    · intro found
      have there : s.row? entityType key = some (row.saved entityType key) := by
        rw [← h.rows, found, Option.map_some]
      refine ⟨_, List.mem_filter.2 ⟨mem_of_row? there, beq_self_eq_true entityType⟩, ?_⟩
      have age : m.age (row.saved entityType key) = row.seq := by
        rw [Memory.age]
        exact congrArg (fun r => (Option.map StoredRow.seq r).getD 0) found
      rw [age]
      rfl
    · rintro ⟨r, hr, shown⟩
      obtain ⟨hr, type⟩ := List.mem_filter.1 hr
      cases shown
      rw [← eq_of_beq type]
      exact h.row?_of_mem each hr

theorem search (each : s.OneRowEach) (f : Filter) (sort : List SortKey) :
    m.search entityType f sort = s.search entityType f sort := by
  let own := (s.rows.filter fun r => r.entityType == entityType).filter fun r => f.accepts r.content
  have perm : (((m.table entityType).filter fun e => f.accepts e.2.content).map fun e =>
      (e.2.seq, e.2.content)).Perm (own.map fun r => (m.age r, r.content)) := by
    have same := ((h.table_perm each entityType).filter fun e => f.accepts e.2.content).map fun e =>
      (e.2.seq, e.2.content)
    rwa [List.filter_map, List.map_map] at same
  have ascending : (own.map fun r => (m.age r, r.content)).Pairwise fun a b => a.1 < b.1 :=
    List.pairwise_map.2 ((h.ages.filter _).filter _)
  have sorted := Sorting.sort?_of_perm 40 perm ascending
  have contents : (own.map fun r => (m.age r, r.content)).map Prod.snd =
      (s.contents entityType).filter f.accepts := by
    rw [List.map_map, contents, List.filter_map]
    rfl
  rw [Memory.search, Store.search, sorted, Option.bind_some, contents]

omit [Identifier I] in
theorem query (each : s.OneRowEach) (f : Filter) (sort : List SortKey) :
    m.query k f sort = s.query k f sort := by
  rw [Memory.query, h.search each]
  rfl

end Reads

end Mirrors

def apply : Write → Memory → Memory
  | @Write.save _ _ _ _ k _ supply author e, m => (m.save k supply author e).1
  | @Write.delete _ _ _ k now author e, m => (m.delete k now author e).1

def run (writes : List Write) (m : Memory) : Memory := writes.foldl (fun m w => apply w m) m

/-- The write has the same answer on the tables as on the store. -/
def Agrees (m : Memory) (s : Store) : Write → Prop
  | @Write.save _ _ _ _ k _ supply author e =>
    (m.save k supply author e).2 = (s.save k supply author e).2
  | @Write.delete _ _ _ k now author e => (m.delete k now author e).2 = (s.delete k now author e).2

/-- Reads of the tables have the same answers as reads of the store. -/
structure ReadsAlike (m : Memory) (s : Store) : Prop where
  find? {I E : Type} [Identifier I] (k : Kind I E) (id : I) : m.find? k id = s.find? k id
  query {I E : Type} (k : Kind I E) (f : Filter) (sort : List SortKey) :
    m.query k f sort = s.query k f sort
  revisionsOf (entityType key : String) :
    m.revisionsOf entityType key = some (s.revisionsOf entityType key)
  display? (entityType key : String) : m.display? entityType key = s.display? entityType key

theorem Mirrors.apply (h : Mirrors m s) (room : ∀ row ∈ s.rows, row.version < maxInt32) (w : Write) :
    m.Agrees s w ∧ Mirrors (Memory.apply w m) (w.apply s) := by
  cases w with
  | @save I E _ _ k law supply author e =>
    rcases h.save k supply e law with alike | ⟨old, found, full, _⟩
    · exact alike
    · exact absurd (room old (mem_of_row? found)) (Int.not_lt.2 full)
  | @delete I E _ k now author e => exact h.delete k e

theorem saves_run_le (writes : List Write) : (Store.run writes {}).saves ≤ writes.length := by
  induction writes using List.reverseRecOn with
  | nil => exact Nat.le_refl 0
  | append_singleton front w ih =>
    rw [run_append, List.length_append]
    cases w with
    | save law supply author e => exact Nat.le_trans (Nat.le_of_eq (saves_save ..)) (Nat.succ_le_succ ih)
    | delete k now author e => exact Nat.le_trans (Nat.le_of_eq (saves_delete ..)) (Nat.le_succ_of_le ih)

theorem room_of_few {writes : List Write} (few : writes.length < maxInt32) :
    ∀ row ∈ (Store.run writes {}).rows, row.version < maxInt32 := by
  intro row hrow
  have below := (versions_run writes row hrow).2
  have saves := saves_run_le writes
  omega

theorem mirrors_run {writes : List Write} (few : writes.length ≤ maxInt32) :
    Mirrors (run writes {}) (Store.run writes {}) := by
  induction writes using List.reverseRecOn with
  | nil => exact mirrors_empty
  | append_singleton front w ih =>
    rw [List.length_append, List.length_singleton] at few
    rw [run, List.foldl_append, run_append]
    exact ((ih (Nat.le_of_succ_le few)).apply (room_of_few few) w).2

/-- In a run of fewer than 2 ^ 31 writes each write has the same answer on the tables as on the store, and
so has each read behind the run. -/
theorem runs_alike {writes : List Write} (few : writes.length ≤ maxInt32) :
    (∀ n w, writes[n]? = some w →
      (run (writes.take n) {}).Agrees (Store.run (writes.take n) {}) w) ∧
    ReadsAlike (run writes {}) (Store.run writes {}) := by
  refine ⟨fun n w h => ?_, ?_⟩
  · obtain ⟨short, _⟩ := List.getElem?_eq_some_iff.1 h
    have front : (writes.take n).length < maxInt32 := by
      rw [List.length_take_of_le (Nat.le_of_lt short)]
      exact Nat.lt_of_lt_of_le short few
    exact ((mirrors_run (Nat.le_of_lt front)).apply (room_of_few front) w).1
  · have mirrors := mirrors_run few
    have each := oneRowEach_run writes
    have numbered : (Store.run writes {}).Numbered := run_keeps numbered_change writes rfl
    exact ⟨fun k id => mirrors.find? k id, fun k f sort => mirrors.query k each f sort,
      fun entityType key => mirrors.revisionsOf numbered,
      fun entityType key => mirrors.display?⟩

end Memory
end Registrar
