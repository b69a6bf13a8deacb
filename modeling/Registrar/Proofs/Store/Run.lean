import Registrar.Proofs.Store.Step

/-!
Runs of a store: saves and deletes of records of any lawful kinds, one after another. Main statements:
what every change keeps holds after a run, a row's content always names its key and version, and
there is at most one row for each record.
-/

namespace Registrar.Store

/-- A save or delete that somebody asks for. -/
inductive Write : Type 1
  | save {I E : Type} [Identifier I] [LawfulIdentifier I] {k : Kind I E} (law : k.Lawful)
      (supply : Supply) (author : Author) (e : E)
  | delete {I E : Type} [Identifier I] (k : Kind I E) (now : Instant) (author : Author) (e : E)

def Write.apply : Write → Store → Store
  | @save _ _ _ _ k _ supply author e, s => (s.save k supply author e).1
  | @delete _ _ _ k now author e, s => (s.delete k now author e).1

def run (writes : List Write) (s : Store) : Store := writes.foldl (fun s w => w.apply s) s

theorem change_apply (w : Write) (s : Store) : s.Change (w.apply s) := by
  cases w with
  | save law supply author e => exact change_save law supply author e s
  | delete k now author e => exact change_delete now author e s

theorem run_append (front rest : List Write) (s : Store) :
    run (front ++ rest) s = run rest (run front s) := by
  simp [run]

theorem run_induction {P : Store → Prop} {writes : List Write}
    (step : ∀ w ∈ writes, ∀ s, P s → P (w.apply s)) {s : Store} (start : P s) :
    P (run writes s) := by
  induction writes generalizing s with
  | nil => exact start
  | cons w r ih =>
    exact ih (fun w' hw => step w' (List.mem_cons_of_mem _ hw)) (step w List.mem_cons_self s start)

theorem run_keeps {P : Store → Prop} (step : ∀ {s t : Store}, P s → s.Change t → P t)
    (writes : List Write) {s : Store} (start : P s) : P (run writes s) :=
  run_induction (fun w _ s h => step h (change_apply w s)) start

theorem coherent_change {s t : Store} (h : ∀ row ∈ s.rows, row.IsCoherent) (change : s.Change t) :
    ∀ row ∈ t.rows, row.IsCoherent := by
  intro r hr
  cases change with
  | idle rows => exact h r (rows ▸ hr)
  | add now author row vacant first coherent rows =>
    rw [rows, List.mem_append, List.mem_singleton] at hr
    rcases hr with hr | rfl
    · exact h r hr
    · exact coherent
  | replace now author old row found next coherent rows =>
    rw [rows, List.mem_map] at hr
    obtain ⟨x, hx, rfl⟩ := hr
    split
    · exact coherent
    · exact h x hx
  | remove now author row found rows =>
    rw [rows, List.mem_filter] at hr
    exact h r hr.1

theorem coherent_run (writes : List Write) : ∀ row ∈ (run writes {}).rows, row.IsCoherent :=
  run_keeps coherent_change writes (by simp)

/-- No two rows stand for one record. -/
def OneRowEach (s : Store) : Prop :=
  s.rows.Pairwise fun a b => a.isAt b.entityType b.key = false

theorem oneRowEach_change {s t : Store} (h : s.OneRowEach) (change : s.Change t) :
    t.OneRowEach := by
  cases change with
  | idle rows =>
    rw [OneRowEach, rows]
    exact h
  | add now author row vacant first coherent rows =>
    rw [OneRowEach, rows, List.pairwise_append]
    refine ⟨h, List.pairwise_singleton _ _, fun a ha b hb => ?_⟩
    rw [List.mem_singleton] at hb
    exact hb ▸ row?_eq_none_iff.1 vacant a ha
  | replace now author old row found next coherent rows =>
    rw [OneRowEach, rows, List.pairwise_map]
    refine h.imp fun {a b} hab => ?_
    -- Both rows cannot stand at the place of the new one, since they differ in place.
    by_cases ha : a.isAt row.entityType row.key
    · by_cases hb : b.isAt row.entityType row.key
      · rw [(SavedRow.isAt_iff.1 hb).1, (SavedRow.isAt_iff.1 hb).2, ha] at hab
        cases hab
      · simp only [ha, hb, if_true]
        refine Bool.eq_false_iff.2 fun there => hb ?_
        exact SavedRow.isAt_iff.2 ⟨(SavedRow.isAt_iff.1 there).1.symm,
          (SavedRow.isAt_iff.1 there).2.symm⟩
    · by_cases hb : b.isAt row.entityType row.key
      · simp only [ha, hb, if_true]
        exact Bool.eq_false_iff.2 ha
      · simpa [ha, hb] using hab
  | remove now author row found rows =>
    rw [OneRowEach, rows]
    exact h.filter _

theorem oneRowEach_run (writes : List Write) : (run writes {}).OneRowEach :=
  run_keeps oneRowEach_change writes .nil

theorem OneRowEach.row?_eq {s : Store} (each : s.OneRowEach) {row : SavedRow} (hrow : row ∈ s.rows)
    {entityType key : String} (there : row.isAt entityType key) :
    s.row? entityType key = some row := by
  unfold OneRowEach at each
  rw [row?]
  generalize s.rows = rows at each hrow
  induction rows with
  | nil => cases hrow
  | cons first r ih =>
    obtain ⟨apart, each⟩ := List.pairwise_cons.1 each
    rw [List.find?_cons]
    rcases List.mem_cons.1 hrow with rfl | hrow
    · rw [there]
    · obtain ⟨rfl, rfl⟩ := SavedRow.isAt_iff.1 there
      rw [apart row hrow]
      exact ih each hrow

theorem saves_delete {I E : Type} [Identifier I] (k : Kind I E) (now : Instant) (author : Author)
    (e : E) (s : Store) : (s.delete k now author e).1.saves = s.saves := by
  unfold delete
  split
  · rfl
  · split <;> rfl

/-- Versions start at zero, and a save raises at most one of them by one. -/
theorem versions_apply (w : Write) {s : Store}
    (h : ∀ row ∈ s.rows, 0 ≤ row.version ∧ row.version < s.saves) :
    ∀ row ∈ (w.apply s).rows, 0 ≤ row.version ∧ row.version < (w.apply s).saves := by
  intro r hr
  cases w with
  | @save I E _ _ k law supply author e =>
    have counted : (((s.save k supply author e).1.saves : Nat) : Int) = s.saves + 1 := by
      rw [saves_save]
      rfl
    have old : ∀ row ∈ s.rows, 0 ≤ row.version ∧ row.version < s.saves + 1 := by
      intro row hrow
      have := h row hrow
      omega
    simp only [Write.apply, counted] at hr ⊢
    cases change_save law supply author e s with
    | idle rows => exact old r (rows ▸ hr)
    | add now author row vacant first coherent rows =>
      rw [rows, List.mem_append, List.mem_singleton] at hr
      rcases hr with hr | rfl
      · exact old r hr
      · omega
    | replace now author was row found next coherent rows =>
      rw [rows, List.mem_map] at hr
      obtain ⟨x, hx, rfl⟩ := hr
      split
      · have := h was (mem_of_row? found)
        omega
      · exact old x hx
    | remove now author row found rows =>
      rw [rows, List.mem_filter] at hr
      exact old r hr.1
  | @delete I E _ k now author e =>
    simp only [Write.apply, saves_delete] at hr ⊢
    exact h r (mem_rows_delete hr)

theorem versions_run (writes : List Write) :
    ∀ row ∈ (run writes {}).rows, 0 ≤ row.version ∧ row.version < (run writes {}).saves :=
  run_induction
    (P := fun s => ∀ row ∈ s.rows, 0 ≤ row.version ∧ row.version < (s.saves : Int))
    (fun w _ _ h => versions_apply w h) (by simp)

end Registrar.Store
