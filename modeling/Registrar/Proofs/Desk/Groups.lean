import Mathlib.Data.List.Induction
import Mathlib.Data.List.Nodup
import Registrar.Proofs.Desk.Reads
import Registrar.Proofs.Entries

/-!
Groups of rows that agree in the texts of some properties. Counting keeps the lists of texts in ascending
order, each once with the number of rows that have it. Main statement: from any store, the pages of
the groups put together show each list of texts among the rows in question once, with the number of rows.
-/

namespace Registrar

open Json Number

namespace Tally

variable {key other : List String} {tally : Tally}

def number (key : List String) : Tally → Nat
  | [] => 0
  | (k, n) :: r => if k = key then n else number key r

def keys (tally : Tally) : List (List String) := tally.map Prod.fst

def Ascending (tally : Tally) : Prop := tally.keys.Pairwise (· < ·)

theorem number_eq_zero (h : key ∉ tally.keys) : number key tally = 0 := by
  induction tally with
  | nil => rfl
  | cons entry r ih =>
    rw [keys, List.map_cons, List.mem_cons, not_or] at h
    rw [number, if_neg (Ne.symm h.1)]
    exact ih h.2

theorem mem_keys_count : other ∈ (count key tally).keys ↔ other = key ∨ other ∈ tally.keys := by
  induction tally with
  | nil => simp [count, keys]
  | cons entry r ih =>
    obtain ⟨k, n⟩ := entry
    unfold keys at ih ⊢
    unfold count
    split
    · simp
    · split
      · next same => simp [same]
      · simp only [List.map_cons, List.mem_cons, ih]
        exact or_left_comm

theorem Ascending.count (h : Ascending tally) (key : List String) : Ascending (count key tally) := by
  induction tally with
  | nil => exact List.pairwise_singleton _ _
  | cons entry r ih =>
    obtain ⟨k, n⟩ := entry
    obtain ⟨first, rest⟩ := List.pairwise_cons.1 h
    unfold Tally.count
    split
    · next before =>
      refine List.pairwise_cons.2 ⟨fun x hx => ?_, h⟩
      rcases List.mem_cons.1 hx with rfl | hx
      · exact before
      · exact List.lt_trans before (first x hx)
    · next before =>
      split
      · exact h
      · next apart =>
        refine List.pairwise_cons.2 ⟨fun x hx => ?_, ih rest⟩
        rcases mem_keys_count.1 hx with rfl | hx
        · exact Decidable.byContradiction fun behind =>
            apart (List.le_antisymm (List.not_lt.1 before) (List.not_lt.1 behind))
        · exact first x hx

theorem number_count (h : Ascending tally) (key other : List String) :
    number other (count key tally) = number other tally + if other = key then 1 else 0 := by
  induction tally with
  | nil => simp [count, number, eq_comm]
  | cons entry r ih =>
    obtain ⟨k, n⟩ := entry
    obtain ⟨first, rest⟩ := List.pairwise_cons.1 h
    unfold count
    split
    · next before =>
      -- A list of texts in front of all that were counted is none of them.
      have new : key ∉ keys ((k, n) :: r) := by
        intro there
        rcases List.mem_cons.1 there with rfl | there
        · exact List.lt_irrefl _ before
        · exact List.lt_irrefl _ (List.lt_trans before (first key there))
      by_cases same : other = key
      · rw [number, if_pos same.symm, if_pos same, same, number_eq_zero new]
      · rw [number, if_neg (Ne.symm same), if_neg same, Nat.add_zero]
    · split
      · next there =>
        subst there
        by_cases same : other = k
        · simp [number, same]
        · simp [number, same, Ne.symm same]
      · by_cases found : k = other
        · subst found
          simp [number, *]
        · simp [number, found, ih rest]

theorem number_of_mem (h : Ascending tally) {n : Nat} (there : (key, n) ∈ tally) :
    number key tally = n := by
  induction tally with
  | nil => cases there
  | cons entry r ih =>
    obtain ⟨k, m⟩ := entry
    obtain ⟨first, rest⟩ := List.pairwise_cons.1 h
    rcases List.mem_cons.1 there with same | there
    · cases same
      exact if_pos rfl
    · have before : k < key := first key (List.mem_map_of_mem there)
      have apart : k ≠ key := fun same => List.lt_irrefl key (same ▸ before)
      rw [number, if_neg apart]
      exact ih rest there

variable (names : List String)

theorem ofRows_concat (rows : List Value) (row : Value) :
    ofRows names (rows ++ [row]) = count (keyOf names row) (ofRows names rows) :=
  List.foldl_concat _ _ _ _

theorem ascending_ofRows (rows : List Value) : Ascending (ofRows names rows) := by
  induction rows using List.reverseRecOn with
  | nil => exact .nil
  | append_singleton rows row ih =>
    rw [ofRows_concat]
    exact ih.count _

theorem mem_keys_ofRows {rows : List Value} :
    key ∈ (ofRows names rows).keys ↔ ∃ row ∈ rows, keyOf names row = key := by
  induction rows using List.reverseRecOn with
  | nil => simp [ofRows, keys]
  | append_singleton rows row ih =>
    rw [ofRows_concat, mem_keys_count, ih]
    simp only [List.mem_append, List.mem_singleton, or_and_right, exists_or, exists_eq_left]
    rw [or_comm, eq_comm]

theorem number_ofRows (rows : List Value) :
    number key (ofRows names rows) = rows.countP fun row => keyOf names row = key := by
  induction rows using List.reverseRecOn with
  | nil => rfl
  | append_singleton rows row ih =>
    rw [ofRows_concat, number_count (ascending_ofRows names rows), ih, List.countP_append,
      List.countP_singleton]
    simp [eq_comm]

variable {names}

/-- A row that stands for those of the given rows whose properties have the given texts. -/
structure IsGroup (names : List String) (rows : List Value) (key : List String) (group : Value) :
    Prop where
  texts : names.map (fun name => group.field? name) = key.map fun text => some (.text text)
  count : group.field? "count" = some (.int (rows.countP fun row => keyOf names row = key))

/-- There is one group for each list of texts that a row has, and for no other. -/
structure IsGrouping (names : List String) (rows : List Value) (keys : List (List String))
    (groups : List Value) : Prop where
  groups : List.Forall₂ (IsGroup names rows) keys groups
  once : keys.Nodup
  all (key : List String) : key ∈ keys ↔ ∃ row ∈ rows, keyOf names row = key

theorem field?_toRow_keyOf (apart : "count" ∉ names) (row : Value) (n : Nat) {name : String}
    (given : name ∈ names) :
    (toRow names (keyOf names row, n)).field? name = some (.text (Row.textAt row name)) := by
  have zipped : (names.zip (keyOf names row)).map (fun p => (p.1, Value.text p.2)) =
      names.map fun name => (name, .text (Row.textAt row name)) := by
    rw [keyOf]
    clear given apart
    induction names with
    | nil => rfl
    | cons name r ih => simp [ih]
  have other : name ≠ "count" := fun same => apart (same ▸ given)
  simp only [toRow, Value.ofPairs, Value.field?, Entries.putAll, List.foldl_append, List.foldl_cons,
    List.foldl_nil, zipped]
  rw [Entries.get?_put_of_ne other]
  exact (Entries.get?_putAll_map names _ name []).trans (if_pos given)

theorem isGroup_toRow (apart : "count" ∉ names) {rows : List Value} {entry : List String × Nat}
    (counted : entry ∈ ofRows names rows) :
    IsGroup names rows entry.1 (toRow names entry) := by
  obtain ⟨texts, n⟩ := entry
  have amount : n = rows.countP fun row => keyOf names row = texts :=
    (number_of_mem (ascending_ofRows names rows) counted).symm.trans (number_ofRows names rows)
  obtain ⟨row, _, rfl⟩ := (mem_keys_ofRows names).1 (List.mem_map_of_mem counted)
  constructor
  · rw [keyOf, List.map_map]
    exact List.map_congr_left fun name given => field?_toRow_keyOf apart row n given
  · rw [field?_toRow, amount]

/-- Sorted in any way, the counts of some rows are the groups of these rows. -/
theorem isGrouping_sorted (apart : "count" ∉ names) {rows : List Value} {sort : List SortKey}
    {groups : List Value}
    (found : Sorting.rows sort (Tally.groups names rows) = some groups) :
    ∃ keys, IsGrouping names rows keys groups ∧ (sort = [] → keys.Pairwise (· < ·)) := by
  let tally := ofRows names rows
  have ascending := ascending_ofRows names rows
  have counted : List.Forall₂ (IsGroup names rows) tally.keys (tally.map (toRow names)) := by
    rw [keys, List.forall₂_map_left_iff, List.forall₂_map_right_iff, List.forall₂_same]
    exact fun entry => isGroup_toRow apart
  have distinct : tally.keys.Nodup := by
    refine List.Pairwise.imp (fun {a b} (before : a < b) (same : a = b) => ?_) ascending
    exact List.lt_irrefl b (same ▸ before)
  by_cases unsorted : sort = []
  · subst unsorted
    cases found
    exact ⟨tally.keys, ⟨counted, distinct, fun key => mem_keys_ofRows names⟩, fun _ => ascending⟩
  · obtain ⟨arranged, sorted, perm⟩ :=
      List.perm_comp_forall₂ (Sorting.perm_of_rows found) counted.flip
    refine ⟨arranged, ⟨sorted.flip, perm.nodup_iff.2 distinct, fun key => ?_⟩,
      fun none => absurd none unsorted⟩
    rw [perm.mem_iff]
    exact mem_keys_ofRows names

theorem IsGrouping.apart {rows groups : List Value} {keys : List (List String)}
    (h : IsGrouping names rows keys groups) :
    groups.Pairwise fun a b => ∃ name ∈ names, a.field? name ≠ b.field? name := by
  let shown (group : Value) := names.map fun name => group.field? name
  let told (key : List String) := key.map fun text => some (Value.text text)
  have same : groups.map shown = keys.map told := by
    have all := h.groups
    clear h
    induction all with
    | nil => rfl
    | cons first _ ih => exact congr (congrArg List.cons first.texts) ih
  have injective : Function.Injective told :=
    List.map_injective_iff.2 fun a b equal => by simpa using equal
  have distinct : (groups.map shown).Nodup := same ▸ h.once.map injective
  refine (List.pairwise_map.1 distinct).imp fun {a b} differ => ?_
  by_contra none
  exact differ (List.map_congr_left fun name given =>
    Classical.byContradiction fun other => none ⟨name, given, other⟩)

end Tally

namespace Store

open Desk (districts)

variable {I E : Type} {k : Kind I E} {s : Store} {f : Filter} {names : List String}

theorem groups_of_query {all : List E} (given : names ≠ []) (found : s.query k f [] = .ok all)
    (request : PageRequest) :
    s.groups k f names request =
      match Sorting.rows request.sort (Tally.groups names (all.map k.encode)) with
      | none => .error (.panic .disorder)
      | some sorted => Page.ofAll sorted request := by
  have asked : names.isEmpty = false := by simpa using given
  rw [groups, asked, found]
  rfl

theorem groups_of_not_canRead (given : names ≠ []) (h : ¬s.CanRead k f) (request : PageRequest) :
    s.groups k f names request = .error (.undecodable k.entityType) := by
  have asked : names.isEmpty = false := by simpa using given
  rw [groups, asked, query_of_not_canRead h (Sorting.rows_nil _)]
  rfl

theorem rows_of_query {all : List E} (found : s.query k f [] = .ok all) :
    List.Forall₂ (fun v row => ∃ e, k.decode v = .ok e ∧ k.encode e = row)
      ((s.contents k.entityType).filter f.accepts) (all.map k.encode) := by
  rw [query_unsorted] at found
  rw [List.forall₂_map_right_iff]
  exact (forall₂_of_mapM found).imp fun v e decoded => ⟨e, read_eq_ok_iff.1 decoded, rfl⟩

/-- What the pages of the groups of some rows come to: there is one row for each list of texts that the
properties have, with the number of rows that have it, and no two of them agree on all properties. Without
an order they ascend. A size that makes no word with their number has no page. -/
structure GroupsOnce (k : Kind I E) (s : Store) (f : Filter) (names : List String) (sort : List SortKey)
    (rows groups : List Value) (keys : List (List String)) : Prop where
  grouping : Tally.IsGrouping names rows keys groups
  apart : groups.Pairwise fun a b => ∃ name ∈ names, a.field? name ≠ b.field? name
  ascending : sort = [] → keys.Pairwise (· < ·)
  pages (size : Nat) : 0 < size → groups.length + size ≤ maxWord64 →
    ∃ count contents, Page.Cut groups size
      (fun number page => s.groups k f names ⟨number, size, sort⟩ = .ok page) count contents
  overflow (number size : Nat) : 0 < size → maxWord64 < groups.length + size →
    s.groups k f names ⟨number, size, sort⟩ = .error (.panic .overflow)

/-- From any store, the groups of the rows in question have each list of texts once, if the sort keys put
them in an order. They do so without keys, for few groups, and where the values at each key are in one
order; otherwise the program may give up. If a row in question cannot be read, there is no page. -/
theorem groups_list_keys_once (k : Kind I E) {s : Store} (fits : s.rows.length ≤ maxInt64) (f : Filter)
    (given : names ≠ []) (apart : "count" ∉ names) (sort : List SortKey) :
    (s.CanRead k f → ∃ rows,
      List.Forall₂ (fun v row => ∃ e, k.decode v = .ok e ∧ k.encode e = row)
        ((s.contents k.entityType).filter f.accepts) rows ∧
      (∀ groups, Sorting.rows sort (Tally.groups names rows) = some groups →
        ∃ keys, GroupsOnce k s f names sort rows groups keys) ∧
      (sort = [] ∨ Sorting.Settled sort (Tally.groups names rows) →
        ∃ groups, Sorting.rows sort (Tally.groups names rows) = some groups) ∧
      (Sorting.rows sort (Tally.groups names rows) = none →
        ∀ number size, s.groups k f names ⟨number, size, sort⟩ = .error (.panic .disorder))) ∧
    (¬s.CanRead k f → ∀ number size,
      s.groups k f names ⟨number, size, sort⟩ = .error (.undecodable k.entityType)) := by
  refine ⟨fun readable => ?_, fun h number size => groups_of_not_canRead given h _⟩
  obtain ⟨all, found⟩ := readable.query (Sorting.rows_nil _)
  have answer (number size : Nat) := groups_of_query given found ⟨number, size, sort⟩
  refine ⟨all.map k.encode, rows_of_query found, fun groups sorted => ?_, ?_, fun disorder number size => ?_⟩
  · obtain ⟨keys, grouping, ascending⟩ := Tally.isGrouping_sorted apart sorted
    have few : groups.length ≤ maxInt64 := by
      have tallied := Tally.length_groups_le names (all.map k.encode)
      have stored : ((s.contents k.entityType).filter f.accepts).length ≤ s.rows.length :=
        length_search_le (Sorting.rows_nil _)
      rw [← length_query found] at stored
      have same := (Sorting.perm_of_rows sorted).length_eq
      rw [List.length_map] at tallied
      omega
    refine ⟨keys, grouping, grouping.apart, ascending, fun size filled word => ?_,
      fun number size filled beyond => ?_⟩
    · obtain ⟨count, contents, cut⟩ := Page.cut_ofAll sort filled few word
      refine ⟨count, contents, fun number first within => ?_, cut.word, cut.together, cut.behind⟩
      rw [answer, sorted]
      exact cut.answer number first within
    · rw [answer, sorted]
      exact Page.ofAll_of_beyond groups beyond filled
  · rintro (rfl | settled)
    · exact ⟨_, Sorting.rows_nil _⟩
    · exact Sorting.rows_of_settled settled
  · rw [answer, disorder]

def branches : Store :=
  let save := Write.save Department.kind_lawful ⟨⟨0, 0⟩, fun _ => ""⟩ Seed.author
  .run [
    save (Seed.department "D10" "Works" none),
    save (Seed.department "D1010" "Sales" (some "D10")),
    save (Seed.department "D1020" "Sales" (some "D10"))] {}

theorem branches_grouped_by_parent :
    branches.rows.length ≤ maxInt64 ∧ branches.CanRead Department.kind {} ∧
      ∃ rows groups keys, List.Forall₂ (fun v row => ∃ e,
          Department.kind.decode v = .ok e ∧ Department.kind.encode e = row)
        ((branches.contents "department").filter (Filter.accepts {})) rows ∧
      GroupsOnce Department.kind branches {} ["name", "parent.id", "name"] [] rows groups keys := by
  have fits : branches.rows.length ≤ maxInt64 := by decide +kernel
  have readable : branches.CanRead Department.kind {} := canRead_of_all (by decide +kernel)
  have given : ["name", "parent.id", "name"] ≠ [] := by decide
  have apart : "count" ∉ ["name", "parent.id", "name"] := by decide
  obtain ⟨rows, shown, once, sorted, _⟩ :=
    (groups_list_keys_once Department.kind fits {} given apart []).1 readable
  obtain ⟨groups, found⟩ := sorted (.inl rfl)
  obtain ⟨keys, listed⟩ := once groups found
  exact ⟨fits, readable, rows, groups, keys, shown, listed⟩

/-- By their names, the groups of the departments with different codes are in no order, and there is no
page of them. -/
theorem grouped_districts_in_no_order :
    districts.CanRead Department.kind {} ∧
      ∀ number size, districts.groups Department.kind {} ["code", "name"]
        ⟨number, size, [⟨"name", .ascending⟩]⟩ = .error (.panic .disorder) := by
  have readable : districts.CanRead Department.kind {} := canRead_of_all (by decide +kernel)
  refine ⟨readable, fun number size => ?_⟩
  obtain ⟨all, found⟩ := readable.query (Sorting.rows_nil _)
  have disorder : ((districts.query Department.kind {} []).toOption.all fun all =>
      (Sorting.rows [⟨"name", .ascending⟩]
        (Tally.groups ["code", "name"] (all.map Department.kind.encode))).isNone) = true := by
    decide +kernel
  rw [found] at disorder
  rw [groups_of_query (by decide) found, Option.isNone_iff_eq_none.1 disorder]

end Store
end Registrar
