import Registrar.Proofs.Desk.Deeds

/-!
The guard of unique columns: a filter on the rows of a type that asks for a column's value. Main
statements: the guard sees a row with just that value unless the value reads as "not a number", and
a record that it lets pass shares no other value with a record that stays.
-/

namespace Registrar

open Json Number

/-- The value is a text for "not a number". Such values compare with nothing, themselves included. -/
def Json.Value.IsNan (v : Value) : Prop := Row.number? v = some .nan

theorem Number.Double.compare?_self_iff (x : Double) : x.compare? x = some .eq ↔ x ≠ .nan := by
  have valued {n : Int} (h : x.units? = some n) : x.compare? x = some .eq := by
    simp [compare?, h]
  cases x with
  | nan => simp [compare?, units?]
  | infinite negative => exact ⟨fun _ => Double.noConfusion, fun _ => valued rfl⟩
  | finite negative mantissa exponent => exact ⟨fun _ => Double.noConfusion, fun _ => valued rfl⟩

theorem Row.compare?_self_iff (v : Value) : compare? v v = some .eq ↔ ¬v.IsNan := by
  rw [Value.IsNan, compare?]
  cases number? v with
  | none => simp
  | some x => simp [Double.compare?_self_iff]

theorem Filter.accepts_own_iff {row v : Value} {column : String}
    (h : Row.extract row column = some v) :
    ({ client := [.equal column v] } : Filter).accepts row ↔ ¬v.IsNan := by
  rw [← Row.compare?_self_iff]
  simp [accepts, Predicate.holds, Predicate.equal, Predicate.holdsFor, Predicate.order?,
    Predicate.isEqual, h]

theorem forM_eq_ok_iff {α ε : Type} {check : α → Except ε Unit} {l : List α} :
    l.forM check = .ok () ↔ ∀ x ∈ l, check x = .ok () := by
  induction l with
  | nil => exact ⟨fun _ _ h => absurd h List.not_mem_nil, fun _ => rfl⟩
  | cons y r ih =>
    have step : (y :: r).forM check = (check y >>= fun _ => r.forM check) := rfl
    rw [step, List.forall_mem_cons, ← ih]
    cases check y <;> simp [bind, Except.bind]

namespace Store

variable {I E : Type} {k : Kind I E}

theorem mem_query {s : Store} {f : Filter} {found : List E} (h : s.query k f [] = .ok found) {row : SavedRow} (hrow : row ∈ s.rows)
    (type : row.entityType = k.entityType) (accepted : f.accepts row.content) :
    ∃ e ∈ found, k.decode row.content = .ok e := by
  have listed : row.content ∈ (s.contents k.entityType).filter f.accepts := by
    refine List.mem_filter.2 ⟨?_, accepted⟩
    exact List.mem_map.2 ⟨row, List.mem_filter.2 ⟨hrow, by simp [type]⟩, rfl⟩
  obtain ⟨e, he, decoded⟩ := mapM_mem_of_mem h listed
  refine ⟨e, he, ?_⟩
  unfold read at decoded
  split at decoded
  · next e' he' =>
    cases decoded
    exact he'
  · cases decoded

end Store

namespace Desk

variable {I E : Type} [DecidableEq I] {d : Desk I E}

/-- A record whose value is not another's: where a row has the value too, the record is no new one
and carries the row's identifier. -/
theorem same_of_clash {creating : Bool} {e : E} {s : Store} {f : Field} {v : Value}
    (passed : d.clash creating e s f = .ok ())
    (hv : Row.extract (d.kind.encode e) f.name = some v) (shown : ¬v.IsNan) {row : SavedRow}
    (hrow : row ∈ s.rows) (type : row.entityType = d.kind.entityType)
    (same : Row.extract row.content f.name = some v) :
    creating = false ∧ ∃ other, d.kind.decode row.content = .ok other ∧
      d.kind.id other = d.kind.id e := by
  unfold clash at passed
  simp only [hv] at passed
  split at passed
  · cases passed
  · next others query =>
    split at passed
    · cases passed
    · next alone =>
      obtain ⟨other, listed, decoded⟩ :=
        Store.mem_query query hrow type ((Filter.accepts_own_iff same).2 shown)
      simp only [List.any_eq_true, Bool.or_eq_true, bne_iff_ne, not_exists, not_and, not_or,
        not_not] at alone
      obtain ⟨notCreating, sameId⟩ := alone other listed
      exact ⟨Bool.eq_false_iff.2 notCreating, other, decoded, sameId⟩

theorem clash_of_check {rules : RuleSet} {creating : Bool} {e : E} {s : Store} {f : Field}
    (passed : d.check rules creating e s = .ok ()) (declared : f ∈ d.kind.schema.declared)
    (unique : f.isUnique) : d.clash creating e s f = .ok () := by
  unfold check at passed
  split at passed
  · cases passed
  · exact forM_eq_ok_iff.1 passed f (List.mem_filter.2 ⟨declared, unique⟩)

end Desk
end Registrar
