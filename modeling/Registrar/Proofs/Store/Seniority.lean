import Registrar.Proofs.Store.Contents
import Registrar.Proofs.Store.Founded
import Registrar.Proofs.Store.Trail

/-!
The order of rows. Rows stand in the order in which the current lives of their records began. Main
statement: a query without sort keys finds the rows that its filter accepts in this order, each once; an
update moves no record, and one that is deleted and added again comes last.
-/

namespace Registrar

namespace Store

variable {s t : Store}

/-- The current life of one row's record began before that of the other's. -/
def Senior (s : Store) (a b : SavedRow) : Prop :=
  ∃ x y : Revision, x.Begins (s.revisionsOf a.entityType a.key) ∧
    y.Begins (s.revisionsOf b.entityType b.key) ∧ x.number < y.number

def keys (s : Store) (entityType : String) : List String :=
  (s.rows.filter fun row => row.entityType == entityType).map SavedRow.key

/-- Each record with a row is in some life, and of any two rows the first one's record is senior. -/
structure ByAge (s : Store) : Prop where
  numbered : s.Numbered
  begun : ∀ row ∈ s.rows, ∃ first : Revision,
    first.Begins (s.revisionsOf row.entityType row.key)
  ordered : s.rows.Pairwise s.Senior

theorem Senior.of_begins {a b a' b' : SavedRow} (h : s.Senior a b)
    (ha : ∀ {first : Revision}, first.Begins (s.revisionsOf a.entityType a.key) →
      first.Begins (t.revisionsOf a'.entityType a'.key))
    (hb : ∀ {first : Revision}, first.Begins (s.revisionsOf b.entityType b.key) →
      first.Begins (t.revisionsOf b'.entityType b'.key)) : t.Senior a' b' := by
  obtain ⟨x, y, hx, hy, less⟩ := h
  exact ⟨x, y, ha hx, hb hy, less⟩

theorem ByAge.of_sublist (h : s.ByAge) (numbered : t.Numbered) (rows : t.rows.Sublist s.rows)
    (trails : ∀ r ∈ t.rows,
      t.revisionsOf r.entityType r.key = s.revisionsOf r.entityType r.key) : t.ByAge where
  numbered := numbered
  begun r hr := by
    rw [trails r hr]
    exact h.begun r (rows.subset hr)
  ordered := (h.ordered.sublist rows).imp_of_mem fun ha hb senior =>
    senior.of_begins (by simp [trails _ ha]) (by simp [trails _ hb])

theorem revisionsOf_away {type : RevisionType} {now : Instant} {author : Author}
    {oldState : Option String} {row r : SavedRow}
    (revisions : t.revisions = s.log type now author oldState row)
    (away : r.isAt row.entityType row.key = false) :
    t.revisionsOf r.entityType r.key = s.revisionsOf r.entityType r.key := by
  rw [revisionsOf_log revisions, if_neg]
  intro there
  obtain ⟨same, key⟩ := SavedRow.isAt_iff.1 there
  rw [same, key, r.isAt_self] at away
  cases away

section Written

variable {now : Instant} {author : Author} {old row : SavedRow}

theorem ByAge.added (h : s.ByAge) (numbered : t.Numbered)
    (vacant : s.row? row.entityType row.key = none) (rows : t.rows = s.rows ++ [row])
    (revisions : t.revisions = s.log .add now author none row) : t.ByAge := by
  have others {r : SavedRow} (hr : r ∈ s.rows) :
      t.revisionsOf r.entityType r.key = s.revisionsOf r.entityType r.key :=
    revisionsOf_away revisions (row?_eq_none_iff.1 vacant r hr)
  have begins : (s.entry .add now author none row).Begins
      (t.revisionsOf row.entityType row.key) := by
    rw [revisionsOf_log revisions, if_pos row.isAt_self]
    exact Revision.begins_add rfl
  refine ⟨numbered, ?_, ?_⟩
  · rw [rows]
    refine List.forall_mem_append.2 ⟨fun r hr => ?_, List.forall_mem_singleton.2 ⟨_, begins⟩⟩
    rw [others hr]
    exact h.begun r hr
  · rw [rows, List.pairwise_append]
    refine ⟨h.ordered.imp_of_mem fun ha hb senior =>
      senior.of_begins (by simp [others ha]) (by simp [others hb]),
      List.pairwise_singleton _ _, fun a ha b hb => ?_⟩
    cases List.mem_singleton.1 hb
    obtain ⟨x, hx⟩ := h.begun a ha
    have earlier := h.numbered.le_length (List.mem_of_mem_filter hx.mem)
    refine ⟨x, _, by rwa [others ha], begins, ?_⟩
    show x.number < (s.revisions.length : Int) + 1
    omega

theorem begins_replaced (revisions : t.revisions = s.log .modify now author old.state row)
    {r : SavedRow} {first : Revision}
    (begins : first.Begins (s.revisionsOf r.entityType r.key)) :
    first.Begins (t.revisionsOf (if r.isAt row.entityType row.key then row else r).entityType
      (if r.isAt row.entityType row.key then row else r).key) := by
  by_cases there : r.isAt row.entityType row.key
  · obtain ⟨type, key⟩ := SavedRow.isAt_iff.1 there
    rw [if_pos there, revisionsOf_log revisions, if_pos row.isAt_self, ← type, ← key]
    exact begins.modify rfl
  · rw [if_neg there, revisionsOf_away revisions (Bool.eq_false_iff.2 there)]
    exact begins

theorem ByAge.replaced (h : s.ByAge) (numbered : t.Numbered)
    (rows : t.rows = s.rows.map fun r => if r.isAt row.entityType row.key then row else r)
    (revisions : t.revisions = s.log .modify now author old.state row) : t.ByAge := by
  refine ⟨numbered, ?_, ?_⟩
  · rw [rows]
    refine List.forall_mem_map.2 fun r hr => ?_
    obtain ⟨first, begins⟩ := h.begun r hr
    exact ⟨first, begins_replaced revisions begins⟩
  · rw [rows, List.pairwise_map]
    exact h.ordered.imp fun senior =>
      senior.of_begins (begins_replaced revisions) (begins_replaced revisions)

end Written

theorem byAge_change (h : s.ByAge) (change : s.Change t) : t.ByAge := by
  have numbered := numbered_change h.numbered change
  cases change with
  | idle rows revisions =>
    exact h.of_sublist numbered (rows ▸ .refl _) fun r _ => revisionsOf_congr revisions ..
  | remove now author row found rows revisions =>
    refine h.of_sublist numbered (rows ▸ List.filter_sublist) fun r hr => ?_
    rw [rows, List.mem_filter] at hr
    exact revisionsOf_away revisions (by simpa using hr.2)
  | add now author row vacant first coherent rows revisions =>
    exact h.added numbered vacant rows revisions
  | replace now author old row found next coherent rows revisions =>
    exact h.replaced numbered rows revisions

theorem byAge_run (writes : List Write) : (run writes {}).ByAge :=
  run_keeps byAge_change writes ⟨rfl, by simp, .nil⟩

theorem nodup_keys (each : s.OneRowEach) (entityType : String) : (s.keys entityType).Nodup := by
  rw [keys, List.Nodup, List.pairwise_map]
  refine (List.Pairwise.filter _ each).imp_of_mem fun {a b} ha hb apart same => ?_
  have type (r : SavedRow) (hr : r ∈ s.rows.filter fun row => row.entityType == entityType) :
      r.entityType = entityType := by simpa using (List.mem_filter.1 hr).2
  rw [type b hb, ← type a ha, ← same, a.isAt_self] at apart
  cases apart

theorem keys_map {new : SavedRow → SavedRow} (h : t.rows = s.rows.map new)
    (places : ∀ r, (new r).entityType = r.entityType ∧ (new r).key = r.key) (entityType : String) :
    t.keys entityType = s.keys entityType := by
  rw [keys, h, List.filter_map, List.map_map, keys]
  have types : ((fun row : SavedRow => row.entityType == entityType) ∘ new) =
      fun row => row.entityType == entityType := funext fun r => by simp [(places r).1]
  have own : SavedRow.key ∘ new = SavedRow.key := funext fun r => (places r).2
  rw [types, own]

section Records

variable {I E : Type} [Identifier I] {k : Kind I E} {supply : Supply} {author : Author} {e saved : E}

theorem keys_update (found : (s.row? k.entityType (k.key (s.named k supply e))).isSome)
    (entityType : String) : (s.save k supply author e).1.keys entityType = s.keys entityType := by
  have way := s.saving k supply author e
  generalize s.save k supply author e = result at way
  cases way with
  | replaced counted old rows revisions _ current next bumped =>
    refine keys_map (s := s) (rows_replace rows) (fun r => ?_) entityType
    split
    · next there =>
      obtain ⟨type, key⟩ := SavedRow.isAt_iff.1 there
      exact ⟨type.symm, key.symm⟩
    · exact ⟨rfl, rfl⟩
  | outdated counted old rows revisions _ stale => rw [keys, keys, rows]
  | added counted rows revisions vacant first =>
    rw [vacant] at found
    cases found
  | gone counted rows revisions vacant later => rw [keys, keys, rows]

theorem keys_create (vacant : s.row? k.entityType (k.key (s.named k supply e)) = none)
    (done : (s.save k supply author e).2 = .ok saved) :
    (s.save k supply author e).1.keys k.entityType = s.keys k.entityType ++ [k.key saved] := by
  have way := s.saving k supply author e
  generalize s.save k supply author e = result at way done
  cases way with
  | replaced counted old rows revisions found => cases vacant.symm.trans found
  | outdated counted old rows revisions found => cases done
  | added counted rows revisions _ first =>
    cases done
    rw [keys, rows_add rows, List.filter_append, List.map_append, keys]
    simp [Kind.row]
  | gone counted rows revisions _ later => cases done

theorem keys_delete (each : s.OneRowEach) {now : Instant}
    (done : (s.delete k now author e).2 = .ok ()) :
    (s.delete k now author e).1.keys k.entityType = (s.keys k.entityType).erase (k.key e) := by
  unfold delete at done ⊢
  split
  · next unidentified => simp [unidentified] at done
  · next key identified =>
    simp only [identified] at done
    split
    · next row found =>
      obtain ⟨type, own⟩ := SavedRow.isAt_iff.1 (isAt_of_row? found)
      rw [(nodup_keys each _).erase_eq_filter, Kind.key, identified, Option.getD_some, keys, remove,
        keys, List.filter_map, List.filter_filter, List.filter_filter]
      congr 1
      refine List.filter_congr fun r _ => ?_
      rw [SavedRow.isAt, type, own]
      cases r.entityType == k.entityType <;> simp [bne]
    · next vacant => simp [vacant] at done

end Records

section Queries

variable {I E : Type} {k : Kind I E} {f : Filter}

def accepted (s : Store) (entityType : String) (f : Filter) : List SavedRow :=
  s.rows.filter fun row => row.entityType == entityType && f.accepts row.content

theorem query_nil (s : Store) (k : Kind I E) (f : Filter) :
    s.query k f [] = (s.accepted k.entityType f).mapM fun row => read k row.content := by
  have contents : (s.contents k.entityType).filter f.accepts =
      (s.accepted k.entityType f).map SavedRow.content := by
    rw [Store.contents, List.filter_map, List.filter_filter, accepted]
    congr 1
    exact List.filter_congr fun row _ => Bool.and_comm ..
  rw [query_unsorted, contents, List.mapM_map]
  rfl

/-- A query without sort keys finds these rows: those of the kind that the filter accepts, each once and
in the order in which the lives of their records began. It shows what is read of them, and fails if one
cannot be read. -/
structure FindsByAge (s : Store) (k : Kind I E) (f : Filter) (found : List SavedRow) : Prop where
  complete (row : SavedRow) : row ∈ found ↔
    row ∈ s.rows ∧ row.entityType = k.entityType ∧ f.accepts row.content
  once : (found.map SavedRow.key).Nodup
  byAge : found.Pairwise s.Senior
  inOrder : (found.map SavedRow.key).Sublist (s.keys k.entityType)
  shown : (∀ row ∈ found, ∃ e, k.decode row.content = .ok e) → ∃ records,
    s.query k f [] = .ok records ∧
      List.Forall₂ (fun row e => k.decode row.content = .ok e) found records
  refused {row : SavedRow} : row ∈ found → (∀ e, k.decode row.content ≠ .ok e) →
    s.query k f [] = .error (.undecodable k.entityType)

theorem findsByAge_accepted (each : s.OneRowEach) (ages : s.ByAge) (k : Kind I E) (f : Filter) :
    s.FindsByAge k f (s.accepted k.entityType f) := by
  have inOrder : ((s.accepted k.entityType f).map SavedRow.key).Sublist (s.keys k.entityType) := by
    refine List.Sublist.map _ ?_
    rw [accepted, ← List.filter_filter]
    exact List.filter_sublist.filter _
  refine ⟨fun row => by simp [accepted], (nodup_keys each _).sublist inOrder,
    ages.ordered.filter _, inOrder, fun readable => ?_, fun {row} hrow bad => ?_⟩
  · have reads : ∀ row ∈ s.accepted k.entityType f, ∃ e, read k row.content = .ok e :=
      fun row hrow => (readable row hrow).imp fun e he => read_eq_ok_iff.2 he
    obtain ⟨records, answer⟩ := exists_mapM_ok reads
    rw [query_nil]
    exact ⟨records, answer, (forall₂_of_mapM answer).imp fun _ _ => read_eq_ok_iff.1⟩
  · cases answer : s.query k f [] with
    | error fault =>
      obtain ⟨_, _, failed⟩ := exists_error_of_mapM (query_nil s k f ▸ answer)
      rw [read_eq_error failed]
    | ok records =>
      obtain ⟨e, _, decoded⟩ := mapM_mem_of_mem (query_nil s k f ▸ answer) hrow
      exact absurd (read_eq_ok_iff.1 decoded) (bad e)

end Queries

/-- What saves and deletes of a kind's records make of the order in which rows are found: whatever is saved
over a row leaves it, a deleted record leaves it to the others, and what is added comes last. -/
structure MovesLast {I E : Type} [Identifier I] (s : Store) (k : Kind I E) : Prop where
  update {supply : Supply} {author : Author} {e : E} :
    (s.row? k.entityType (k.key (s.named k supply e))).isSome → ∀ entityType,
      (s.save k supply author e).1.keys entityType = s.keys entityType
  delete {now : Instant} {author : Author} {e : E} : (s.delete k now author e).2 = .ok () →
    (s.delete k now author e).1.keys k.entityType = (s.keys k.entityType).erase (k.key e)
  create {supply : Supply} {author : Author} {e saved : E} :
    s.row? k.entityType (k.key (s.named k supply e)) = none →
    (s.save k supply author e).2 = .ok saved →
      (s.save k supply author e).1.keys k.entityType = s.keys k.entityType ++ [k.key saved]

/-- Whatever was saved and deleted, queries without sort keys find the rows that they ask for in the order
in which the current lives of their records began; no update moves a record, and one that is added, be it
anew after a delete, comes last. -/
theorem found_by_age (writes : List Write) :
    (∀ {I E : Type} (k : Kind I E) (f : Filter),
      ∃ found, (run writes {}).FindsByAge k f found) ∧
    ∀ {I E : Type} [Identifier I] (k : Kind I E), (run writes {}).MovesLast k := by
  have each := oneRowEach_run writes
  exact ⟨fun k f => ⟨_, findsByAge_accepted each (byAge_run writes) k f⟩,
    fun k => ⟨keys_update, keys_delete each, keys_create⟩⟩

end Store
end Registrar
