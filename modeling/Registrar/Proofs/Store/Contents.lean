import Registrar.Proofs.Sorting.Stable
import Registrar.Proofs.Store.Step

/-!
What the rows of a kind show, and the revisions of its records. Main statements: saves and deletes keep what
every record of a kind has, if each saved record has it; and a filter that lets just the rows of some records pass finds what it
would find without it in a store that has no other rows.
-/

namespace Registrar

open Json

/-- The property of records is none of their identifier and version. -/
structure Kind.Stable {I E : Type} (k : Kind I E) (P : E → Prop) : Prop where
  setId (i : I) {e : E} : P e → P (k.setId i e)
  setVersion (n : Int) {e : E} : P e → P (k.setVersion n e)

namespace Store

/-- The rows of the kind hold the data forms of records with the property. -/
def Shows {I E : Type} (k : Kind I E) (P : E → Prop) (s : Store) : Prop :=
  ∀ row ∈ s.rows, row.entityType = k.entityType → ∃ e, row.content = k.encode e ∧ P e

section Records

variable {I E J F : Type} [Identifier I] [Identifier J] {k : Kind I E} {other : Kind J F}
variable {P : E → Prop} {s : Store}

theorem named_of_stable (stable : k.Stable P) (supply : Supply) {e : E} (he : P e) (s : Store) :
    P (s.named k supply e) := by
  by_cases new : k.isNew e
  · rw [named_of_isNew k new]
    exact stable.setVersion _ (stable.setId _ he)
  · rw [named_of_not_isNew k (Bool.eq_false_iff.2 new)]
    exact he

theorem Shows.save (h : s.Shows k P) (stable : k.Stable P) {e : E} (he : P e) (supply : Supply)
    (author : Author) : (s.save k supply author e).1.Shows k P := by
  have named := named_of_stable stable supply he s
  intro row hrow type
  rcases mem_rows_save hrow with old | ⟨x, rfl | ⟨n, rfl⟩, rfl⟩
  · exact h row old type
  · exact ⟨_, rfl, named⟩
  · exact ⟨_, rfl, stable.setVersion n named⟩

omit [Identifier I] in
theorem Shows.save_other (h : s.Shows k P) (apart : other.entityType ≠ k.entityType)
    (supply : Supply) (author : Author) (e : F) : (s.save other supply author e).1.Shows k P := by
  intro row hrow type
  rcases mem_rows_save hrow with old | ⟨x, _, rfl⟩
  · exact h row old type
  · exact absurd type apart

omit [Identifier I] in
theorem Shows.delete (h : s.Shows k P) (now : Instant) (author : Author) (e : F) :
    (s.delete other now author e).1.Shows k P :=
  fun row hrow => h row (mem_rows_delete hrow)

end Records

/-- The rows of the kind and the revisions of its records hold the data forms of records with the
property. -/
structure Remembers {I E : Type} (k : Kind I E) (P : E → Prop) (s : Store) : Prop where
  shows : s.Shows k P
  revisions : ∀ rev ∈ s.revisions, rev.entityType = k.entityType →
    ∃ e, rev.content = k.encode e ∧ P e

section Records

variable {I E J F : Type} [Identifier I] [Identifier J] {k : Kind I E} {other : Kind J F}
variable {P : E → Prop} {s t : Store}

omit [Identifier I] in
theorem Remembers.change (h : s.Remembers k P) (shows : t.Shows k P) (change : s.Change t) :
    t.Remembers k P := by
  refine ⟨shows, fun rev hrev type => ?_⟩
  have entry {row : SavedRow} {kind : RevisionType} {now : Instant} {author : Author}
      {old : Option String} (shown : row.entityType = k.entityType →
        ∃ e, row.content = k.encode e ∧ P e)
      (revisions : t.revisions = s.log kind now author old row) :
      ∃ e, rev.content = k.encode e ∧ P e := by
    rw [revisions, log_eq] at hrev
    rcases List.mem_append.1 hrev with before | new
    · exact h.revisions rev before type
    · cases List.mem_singleton.1 new
      exact shown type
  cases change with
  | idle _ revisions => exact h.revisions rev (revisions ▸ hrev) type
  | add now author row vacant first coherent rows revisions =>
    exact entry (shows row (by simp [rows])) revisions
  | replace now author old row found next coherent rows revisions =>
    have there := mem_of_row? ((row?_map row found rows).trans (if_pos row.isAt_self))
    exact entry (shows row there) revisions
  | remove now author row found rows revisions =>
    exact entry (h.shows row (mem_of_row? found)) revisions

theorem Remembers.save [LawfulIdentifier I] (h : s.Remembers k P) (law : k.Lawful)
    (stable : k.Stable P) {e : E} (he : P e) (supply : Supply) (author : Author) :
    (s.save k supply author e).1.Remembers k P :=
  h.change (h.shows.save stable he supply author) (change_save law supply author e s)

omit [Identifier I] in
theorem Remembers.save_other [LawfulIdentifier J] (h : s.Remembers k P) (law : other.Lawful)
    (apart : other.entityType ≠ k.entityType) (supply : Supply) (author : Author) (e : F) :
    (s.save other supply author e).1.Remembers k P :=
  h.change (h.shows.save_other apart supply author e) (change_save law supply author e s)

omit [Identifier I] in
theorem Remembers.delete (h : s.Remembers k P) (now : Instant) (author : Author) (e : F) :
    (s.delete other now author e).1.Remembers k P :=
  h.change (h.shows.delete now author e) (change_delete now author e s)

end Records

section Queries

variable {I E : Type} {k : Kind I E} {s : Store} {f : Filter} {sort : List SortKey}

theorem read_eq_ok_iff {content : Value} {e : E} :
    read k content = .ok e ↔ k.decode content = .ok e := by
  unfold read
  split <;> simp_all

theorem read_eq_error {content : Value} {fault : Error} (h : read k content = .error fault) :
    fault = .undecodable k.entityType := by
  unfold read at h
  split at h
  · cases h
  · cases h
    rfl

theorem perm_of_search {found : List Value} (h : s.search k.entityType f sort = some found) :
    found.Perm ((s.contents k.entityType).filter f.accepts) := Sorting.perm_of_rows h

theorem mem_search {found : List Value} (h : s.search k.entityType f sort = some found) {v : Value} :
    v ∈ found ↔ v ∈ s.contents k.entityType ∧ f.accepts v := by
  rw [(perm_of_search h).mem_iff, List.mem_filter]

theorem length_search_le {found : List Value} (h : s.search k.entityType f sort = some found) :
    found.length ≤ s.rows.length := by
  rw [(perm_of_search h).length_eq]
  refine Nat.le_trans (List.length_filter_le _ _) ?_
  rw [contents, List.length_map]
  exact List.length_filter_le _ _

theorem query_unsorted (s : Store) (k : Kind I E) (f : Filter) :
    s.query k f [] = ((s.contents k.entityType).filter f.accepts).mapM (read k) := rfl

theorem query_of_search {found : List Value} (h : s.search k.entityType f sort = some found) :
    s.query k f sort = found.mapM (read k) := by
  rw [query, h]

theorem query_of_disorder (h : s.search k.entityType f sort = none) :
    s.query k f sort = .error (.panic .disorder) := by
  rw [query, h]

theorem search_of_query {found : List E} (h : s.query k f sort = .ok found) :
    ∃ listed, s.search k.entityType f sort = some listed ∧ listed.mapM (read k) = .ok found := by
  cases sorted : s.search k.entityType f sort with
  | none =>
    rw [query_of_disorder sorted] at h
    cases h
  | some listed => exact ⟨listed, rfl, (query_of_search sorted).symm.trans h⟩

/-- The rows of the kind that the filter accepts can be read. -/
def CanRead (k : Kind I E) (f : Filter) (s : Store) : Prop :=
  ∀ v ∈ s.contents k.entityType, f.accepts v → ∃ e, k.decode v = .ok e

theorem canRead_of_all (h : (s.contents k.entityType).all fun v => (k.decode v).isOk) :
    s.CanRead k f := by
  intro v hv _
  have shown := List.all_eq_true.1 h v hv
  cases decoded : k.decode v with
  | ok e => exact ⟨e, rfl⟩
  | error fault =>
    rw [decoded] at shown
    cases shown

theorem CanRead.query (h : s.CanRead k f) {listed : List Value}
    (sorted : s.search k.entityType f sort = some listed) :
    ∃ found, s.query k f sort = .ok found := by
  rw [query_of_search sorted]
  refine exists_mapM_ok fun v hv => ?_
  obtain ⟨there, accepted⟩ := (mem_search sorted).1 hv
  obtain ⟨e, decoded⟩ := h v there accepted
  exact ⟨e, read_eq_ok_iff.2 decoded⟩

theorem query_of_not_canRead (h : ¬s.CanRead k f) {listed : List Value}
    (sorted : s.search k.entityType f sort = some listed) :
    s.query k f sort = .error (.undecodable k.entityType) := by
  rw [query_of_search sorted]
  cases asked : listed.mapM (read k) with
  | error fault =>
    obtain ⟨v, _, bad⟩ := exists_error_of_mapM asked
    rw [read_eq_error bad]
  | ok found =>
    refine absurd (fun v there accepted => ?_) h
    obtain ⟨e, _, decoded⟩ := mapM_mem_of_mem asked ((mem_search sorted).2 ⟨there, accepted⟩)
    exact ⟨e, read_eq_ok_iff.1 decoded⟩

theorem length_query {found : List E} (h : s.query k f sort = .ok found) :
    found.length = ((s.contents k.entityType).filter f.accepts).length := by
  obtain ⟨listed, sorted, read⟩ := search_of_query h
  rw [← (perm_of_search sorted).length_eq, (forall₂_of_mapM read).length_eq]

theorem id_of_query [Identifier I] [LawfulIdentifier I] (law : k.Lawful)
    (coherent : ∀ row ∈ s.rows, row.IsCoherent) {found : List E}
    (h : s.query k f sort = .ok found) {e : E} (he : e ∈ found) : ∃ i, k.id e = some i := by
  obtain ⟨listed, sorted, read⟩ := search_of_query h
  obtain ⟨v, hv, decoded⟩ := mem_of_mem_mapM read he
  obtain ⟨row, hrow, rfl⟩ := List.mem_map.1 ((mem_search sorted).1 hv).1
  obtain ⟨i, hid, _⟩ := id_of_decode law (coherent row (List.mem_filter.1 hrow).1)
    (read_eq_ok_iff.1 decoded)
  exact ⟨i, hid⟩

end Queries

section Hidden

variable {I E : Type} {k : Kind I E} {s : Store} {hidden : SavedRow → Bool}

/-- The store without the rows that are hidden. -/
def without (hidden : SavedRow → Bool) (s : Store) : Store :=
  { s with rows := s.rows.filter fun row => !hidden row }

theorem without_of_none (h : ∀ row ∈ s.rows, hidden row = false) : s.without hidden = s := by
  have all : s.rows.filter (fun row => !hidden row) = s.rows :=
    List.filter_eq_self.2 fun row hrow => by rw [h row hrow]; rfl
  rw [without, all]

theorem query_congr {t : Store} {f g : Filter} {sort : List SortKey}
    (same : (s.contents k.entityType).filter f.accepts = (t.contents k.entityType).filter g.accepts) :
    s.query k f sort = t.query k g sort := by
  rw [query, query, search, search, same]

theorem query_without {p : Predicate}
    (tells : ∀ row ∈ s.rows, row.entityType = k.entityType → p.holds row.content = !hidden row)
    (f : Filter) (sort : List SortKey) :
    s.query k (f.force p) sort = (s.without hidden).query k f sort := by
  refine query_congr ?_
  simp only [contents, without, List.filter_map, List.filter_filter]
  congr 1
  refine List.filter_congr fun row hrow => ?_
  rw [Function.comp_apply, Function.comp_apply, Filter.accepts_force]
  by_cases type : row.entityType = k.entityType
  · rw [tells row hrow type, Bool.and_assoc, Bool.and_comm (!hidden row)]
  · have elsewhere : (row.entityType == k.entityType) = false := beq_eq_false_iff_ne.2 type
    rw [elsewhere, Bool.and_false, Bool.false_and, Bool.and_false]

end Hidden
end Store
end Registrar
