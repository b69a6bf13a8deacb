import Registrar.Memory
import Registrar.Proofs.Entries

/-!
Tables of rows. Main statements: a row that is kept or dropped leaves all others, and the tables stay in
the order of their keys.
-/

namespace Registrar

namespace Memory

variable {m : Memory} {entityType other key key' : String} {row : StoredRow}

theorem table_keep : (m.keep entityType key row).table other =
    if entityType = other then Entries.put key row (m.table entityType) else m.table other := by
  rw [keep, table]
  split
  · next same => rw [← same, Entries.get?_put_self, Option.getD_some]
  · next apart => rw [Entries.get?_put_of_ne (Ne.symm apart), table]

theorem table_drop : (m.drop entityType key).table other =
    if entityType = other then (m.table entityType).filter fun e => e.1 != key else m.table other := by
  rw [drop, table]
  split
  · next same => rw [← same, Entries.get?_put_self, Option.getD_some]
  · next apart => rw [Entries.get?_put_of_ne (Ne.symm apart), table]

theorem row?_keep : (m.keep entityType key row).row? other key' =
    if entityType = other ∧ key = key' then some row else m.row? other key' := by
  rw [row?, table_keep]
  by_cases type : entityType = other
  · subst type
    by_cases same : key = key'
    · simp [same, Entries.get?_put_self]
    · simp [same, Entries.get?_put_of_ne (Ne.symm same), row?]
  · simp [type, row?]

theorem row?_drop : (m.drop entityType key).row? other key' =
    if entityType = other ∧ key = key' then none else m.row? other key' := by
  rw [row?, table_drop]
  by_cases type : entityType = other
  · subst type
    by_cases same : key = key'
    · simp [same, Entries.get?_filter_of_dropped (p := fun name => name != key')]
    · simp [same, row?,
        Entries.get?_filter_of_kept (p := fun name => name != key) (bne_iff_ne.2 (Ne.symm same))]
  · simp [type, row?]

def Ordered (m : Memory) : Prop := ∀ entityType, Entries.Ordered (m.table entityType)

theorem Ordered.keep (h : m.Ordered) : (m.keep entityType key row).Ordered := by
  intro other
  rw [table_keep]
  split
  · exact (h entityType).put key row
  · exact h other

theorem Ordered.drop (h : m.Ordered) : (m.drop entityType key).Ordered := by
  intro other
  rw [table_drop]
  split
  · exact (h entityType).filter _
  · exact h other

theorem mem_table_iff (h : m.Ordered) :
    (key, row) ∈ m.table entityType ↔ m.row? entityType key = some row :=
  ⟨Entries.get?_of_mem (h entityType).nodup, Entries.mem_of_get?⟩

end Memory
end Registrar
