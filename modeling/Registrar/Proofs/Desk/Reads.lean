import Mathlib.Algebra.GroupWithZero.Nat
import Mathlib.Data.List.Perm.Basic
import Registrar.Proofs.Export.Reading
import Registrar.Proofs.Page.Slices
import Registrar.Proofs.Store.Contents
import Registrar.Proofs.Store.Run
import Registrar.Seed

/-!
What a desk shows of many records. Pages, a file, options to choose from and groups are asked for in
different requests with the same predicates and order. Main statement: from any store, these requests
show one list of records, or all of them fail alike.
-/

namespace Registrar

open Json Number

namespace Tally

variable (properties : List String)

theorem field?_toRow (entry : List String × Nat) :
    (toRow properties entry).field? "count" = some (.int entry.2) := by
  simp only [toRow, Value.ofPairs, Value.field?, Entries.putAll, List.foldl_append, List.foldl_cons,
    List.foldl_nil]
  exact Entries.get?_put_self _ _ _

theorem total_eq_sum (tally : Tally) : tally.total = (tally.map fun entry => entry.2).sum := by
  induction tally with
  | nil => rfl
  | cons entry r ih => exact congrArg (entry.2 + ·) ih

theorem length_ofRows_le (rows : List Value) : (ofRows properties rows).length ≤ rows.length := by
  have counted (key : List String) (tally : Tally) :
      (count key tally).length ≤ tally.length + 1 := by
    induction tally with
    | nil => simp [count]
    | cons entry r ih =>
      obtain ⟨k, n⟩ := entry
      unfold count
      split
      · simp
      · split
        · simp
        · simpa using ih
  have all (tally : Tally) :
      (rows.foldl (fun tally row => count (keyOf properties row) tally) tally).length ≤
        tally.length + rows.length := by
    induction rows generalizing tally with
    | nil => simp
    | cons row r ih =>
      have first := counted (keyOf properties row) tally
      have rest := ih (count (keyOf properties row) tally)
      rw [List.foldl_cons, List.length_cons]
      omega
  simpa [ofRows] using all []

def CountsTo (total : Nat) (rows : List Value) : Prop :=
  ∃ counts : List Nat,
    List.Forall₂ (fun row n => row.field? "count" = some (.int n)) rows counts ∧ counts.sum = total

def groups (rows : List Value) : List Value := (ofRows properties rows).map (toRow properties)

theorem length_groups_le (rows : List Value) : (groups properties rows).length ≤ rows.length := by
  rw [groups, List.length_map]
  exact length_ofRows_le properties rows

theorem countsTo_sorted {rows : List Value} {sort : List SortKey} {sorted : List Value}
    (found : Sorting.rows sort (groups properties rows) = some sorted) :
    CountsTo rows.length sorted := by
  let tally := ofRows properties rows
  have shown : List.Forall₂ (fun row n => row.field? "count" = some (.int (n : Nat)))
      (tally.map (toRow properties)) (tally.map fun entry => entry.2) := by
    rw [List.forall₂_map_left_iff, List.forall₂_map_right_iff, List.forall₂_same]
    exact fun entry _ => field?_toRow properties entry
  obtain ⟨counts, sorted, perm⟩ := List.perm_comp_forall₂ (Sorting.perm_of_rows found) shown
  refine ⟨counts, sorted, ?_⟩
  rw [perm.sum_nat, ← total_eq_sum, total_ofRows]

end Tally

namespace Desk

variable {I E : Type} (d : Desk I E) (params : Params) (caller : Caller) (s : Store)
variable {pairs : List (String × String)}

theorem filter_asking (h : ∀ p ∈ pairs, p.1 ∈ Params.controls) :
    d.filter (params.asking pairs) caller = d.filter params caller := by
  rw [filter, filter, params.filter_asking h]

theorem sort_pageRequest_asking (h : ∀ p ∈ pairs, p.1 ∈ Params.controls) :
    (d.pageRequest (params.asking pairs)).sort = (d.pageRequest params).sort := by
  simp only [pageRequest, PageRequest.ofParams, params.sort_asking h]

theorem found_asking (h : ∀ p ∈ pairs, p.1 ∈ Params.controls) :
    d.found (params.asking pairs) caller s = d.found params caller s := by
  rw [found, found, d.filter_asking params caller h, d.sort_pageRequest_asking params h]

theorem findByPage_paging (number size : Nat) :
    d.findByPage (params.asking (Params.paging number size)) caller s =
      (d.found params caller s).bind fun all =>
        (Page.ofAll all (d.pageRequest (params.asking (Params.paging number size)))).map .page := by
  rw [findByPage, params.wantsExport_paging,
    d.found_asking params caller s (Params.paging_controls number size)]
  cases d.found params caller s <;> rfl

theorem findByPage_exporting :
    d.findByPage (params.asking Params.exporting) caller s =
      (d.found params caller s).map fun all =>
        .file (.ofRows d.kind.schema (all.map d.kind.encode)) := by
  rw [findByPage, params.wantsExport_exporting,
    d.found_asking params caller s Params.exporting_controls]
  cases d.found params caller s <;> rfl

def tallied (name : String) (all : List E) : List Value :=
  Tally.groups (groupProperties (params.asking [("group_by", name)])) (all.map d.kind.encode)

/-- The groups in the order that the request asks for. -/
def groupsOf (name : String) (all : List E) : Option (List Value) :=
  Sorting.rows (d.pageRequest params).sort (d.tallied params name all)

variable {params} in
theorem groupAggregate_paging {name : String}
    (asked : groupProperties (params.asking [("group_by", name)]) ≠ []) (number size : Nat) :
    d.groupAggregate (params.asking (("group_by", name) :: Params.paging number size)) caller s =
      (s.query d.kind (d.filter params caller) []).bind fun all =>
        match d.groupsOf params name all with
        | none => .error (.panic .disorder)
        | some groups => Page.ofAll groups
          (d.pageRequest (params.asking (("group_by", name) :: Params.paging number size))) := by
  have controls := Params.grouping_controls name number size
  have same : groupProperties (params.asking (("group_by", name) :: Params.paging number size)) =
      groupProperties (params.asking [("group_by", name)]) := by
    simp [groupProperties, Params.getAll, Params.asking, Params.paging]
  have given : (groupProperties (params.asking [("group_by", name)])).isEmpty = false := by
    simpa using asked
  simp only [groupAggregate, Store.groups, same, given, d.filter_asking params caller controls,
    d.sort_pageRequest_asking params controls]
  cases s.query d.kind (d.filter params caller) [] <;> rfl

section Identified

variable [Identifier I]

/-- All that the requests show is one list of the records in question: the pages of every size that a
client can have, the records of the file behind its labels, and the options, all in the order of the list;
and the groups by any properties, whose counts sum to its length. -/
structure Describes (all : List E) : Prop where
  rows : ∃ contents, List.Forall₂ (fun v e => d.kind.decode v = .ok e) contents all ∧
    contents.Perm ((s.contents d.kind.entityType).filter (d.filter params caller).accepts)
  pages : Page.Shows all d.limits.most fun number size page =>
    d.findByPage (params.asking (Params.paging number size)) caller s = .ok (.page page)
  file : ∃ file, d.findByPage (params.asking Params.exporting) caller s = .ok (.file file) ∧
    Export.read? file.text = some (Export.shown (Export.labels d.kind.schema) ::
      all.map fun e => Export.shown (Export.texts d.kind.schema (d.kind.encode e)))
  options : ∃ options, d.selectOptions params caller s = .ok options ∧
    List.Forall₂ (fun e choice => d.kind.idText? e = some choice.id ∧
      d.kind.display e = choice.display) all options
  groups (name : String) : groupProperties (params.asking [("group_by", name)]) ≠ [] →
    ∃ groups, Tally.CountsTo all.length groups ∧
      Page.Shows groups d.limits.most fun number size page =>
        d.groupAggregate (params.asking (("group_by", name) :: Params.paging number size)) caller s =
          .ok page

/-- The sort keys put the records in question in an order, and so any groups of them. -/
structure Sortable : Prop where
  rows : ∃ listed, s.search d.kind.entityType (d.filter params caller) (d.pageRequest params).sort =
    some listed
  groups (name : String) : groupProperties (params.asking [("group_by", name)]) ≠ [] →
    ∀ all, s.query d.kind (d.filter params caller) [] = .ok all →
      ∃ groups, d.groupsOf params name all = some groups

/-- Each request for records fails with the error. -/
structure Fails (fault : Error) : Prop where
  pages (number size : Nat) :
    d.findByPage (params.asking (Params.paging number size)) caller s = .error fault
  file : d.findByPage (params.asking Params.exporting) caller s = .error fault
  options : d.selectOptions params caller s = .error fault

/-- Each request for groups by some properties fails with the error. -/
def FailsGrouped (fault : Error) (name : String) : Prop := ∀ number size : Nat,
  d.groupAggregate (params.asking (("group_by", name) :: Params.paging number size)) caller s =
    .error fault

variable {d params caller s} {all : List E}

omit [Identifier I] in
theorem rows_of_found (h : d.found params caller s = .ok all) :
    ∃ contents, List.Forall₂ (fun v e => d.kind.decode v = .ok e) contents all ∧
      contents.Perm ((s.contents d.kind.entityType).filter (d.filter params caller).accepts) := by
  obtain ⟨listed, sorted, read⟩ := Store.search_of_query h
  exact ⟨listed, (forall₂_of_mapM read).imp fun _ _ => Store.read_eq_ok_iff.1,
    Store.perm_of_search sorted⟩

omit [Identifier I] in
theorem pages_of_found (h : d.found params caller s = .ok all) (narrow : d.limits.most ≤ maxWord32)
    (fits : all.length ≤ maxInt64) :
    Page.Shows all d.limits.most fun number size page =>
      d.findByPage (params.asking (Params.paging number size)) caller s = .ok (.page page) := by
  refine Page.shows_ofAll (d.pageRequest params).sort narrow fits ?_
  intro number size page first word filled allowed answer
  have request : d.pageRequest (params.asking (Params.paging number size)) = _ :=
    PageRequest.ofParams_paging params [] (by simp) first word filled allowed narrow
  rw [findByPage_paging, h, request]
  exact congrArg (Except.map Listing.page) answer

omit [Identifier I] in
theorem file_of_found (h : d.found params caller s = .ok all) :
    ∃ file, d.findByPage (params.asking Params.exporting) caller s = .ok (.file file) ∧
      Export.read? file.text = some (Export.shown (Export.labels d.kind.schema) ::
        all.map fun e => Export.shown (Export.texts d.kind.schema (d.kind.encode e))) := by
  refine ⟨.ofRows d.kind.schema (all.map d.kind.encode), ?_, ?_⟩
  · rw [findByPage_exporting, h]
    rfl
  · rw [Export.read?_ofRows, List.map_map]
    rfl

theorem options_of_found (h : d.found params caller s = .ok all)
    (identified : ∀ e ∈ all, ∃ i, d.kind.id e = some i) :
    ∃ options, d.selectOptions params caller s = .ok options ∧
      List.Forall₂ (fun e choice => d.kind.idText? e = some choice.id ∧
        d.kind.display e = choice.display) all options := by
  refine ⟨all.filterMap d.choice?, by rw [selectOptions, h]; rfl, ?_⟩
  clear h
  induction all with
  | nil => exact .nil
  | cons e r ih =>
    obtain ⟨i, hi⟩ := identified e List.mem_cons_self
    have text : d.kind.idText? e = some (Identifier.text i) := by rw [Kind.idText?, hi]; rfl
    have choice : d.choice? e = some ⟨Identifier.text i, d.kind.display e⟩ := by
      rw [choice?, text]
      rfl
    rw [List.filterMap_cons_some choice]
    exact .cons ⟨text, rfl⟩ (ih fun e he => identified e (List.mem_cons_of_mem _ he))

omit [Identifier I] in
theorem length_tallied_le (query : s.query d.kind (d.filter params caller) [] = .ok all) (name : String) :
    (d.tallied params name all).length ≤
      ((s.contents d.kind.entityType).filter (d.filter params caller).accepts).length := by
  rw [← Store.length_query query, ← List.length_map d.kind.encode]
  exact Tally.length_groups_le _ _

omit [Identifier I] in
theorem groups_of_query (h : s.query d.kind (d.filter params caller) [] = .ok all) {name : String}
    (asked : groupProperties (params.asking [("group_by", name)]) ≠ []) {groups : List Value}
    (sorted : d.groupsOf params name all = some groups) (narrow : d.limits.most ≤ maxWord32)
    (fits : all.length ≤ maxInt64) :
    Tally.CountsTo all.length groups ∧
      Page.Shows groups d.limits.most fun number size page =>
        d.groupAggregate (params.asking (("group_by", name) :: Params.paging number size)) caller s =
          .ok page := by
  have counts := Tally.countsTo_sorted _ sorted
  rw [List.length_map] at counts
  have few : groups.length ≤ maxInt64 := by
    have tallied := length_tallied_le h name
    rw [← Store.length_query h, ← (Sorting.perm_of_rows sorted).length_eq] at tallied
    exact Nat.le_trans tallied fits
  refine ⟨counts, Page.shows_ofAll (d.pageRequest params).sort narrow few ?_⟩
  intro number size page first word filled allowed answer
  have request :
      d.pageRequest (params.asking ([("group_by", name)] ++ Params.paging number size)) = _ :=
    PageRequest.ofParams_paging params [("group_by", name)] (by simp [Params.controls]) first word
      filled allowed narrow
  rw [List.singleton_append] at request
  rw [d.groupAggregate_paging caller s asked, h, request]
  simp only [Except.bind, sorted]
  exact answer

theorem describes_of_sortable [LawfulIdentifier I] (law : d.kind.Lawful)
    (coherent : ∀ row ∈ s.rows, row.IsCoherent) (fits : s.rows.length ≤ maxInt64)
    (narrow : d.limits.most ≤ maxWord32) (readable : s.CanRead d.kind (d.filter params caller))
    (sortable : d.Sortable params caller s) : ∃ all, d.Describes params caller s all := by
  obtain ⟨listed, sorted⟩ := sortable.rows
  obtain ⟨all, found⟩ := readable.query sorted
  obtain ⟨unsorted, query⟩ := readable.query (Sorting.rows_nil _)
  have same : unsorted.length = all.length :=
    (Store.length_query query).trans (Store.length_query found).symm
  have few : all.length ≤ maxInt64 := by
    rw [Store.length_query found, ← (Store.perm_of_search sorted).length_eq]
    exact Nat.le_trans (Store.length_search_le sorted) fits
  refine ⟨all, rows_of_found found, pages_of_found found narrow few, file_of_found found,
    options_of_found found fun e he => Store.id_of_query law coherent found he, fun name asked => ?_⟩
  obtain ⟨groups, inOrder⟩ := sortable.groups name asked unsorted query
  rw [← same] at few ⊢
  exact ⟨groups, groups_of_query query asked inOrder narrow few⟩

theorem fails_of_found {fault : Error} (found : d.found params caller s = .error fault) :
    d.Fails params caller s fault := by
  refine ⟨fun number size => ?_, ?_, ?_⟩
  · rw [findByPage_paging, found]
    rfl
  · rw [findByPage_exporting, found]
    rfl
  · rw [selectOptions, found]
    rfl

omit [Identifier I] in
theorem sortable_of_settled
    (rows : Sorting.Settled (d.pageRequest params).sort
      ((s.contents d.kind.entityType).filter (d.filter params caller).accepts))
    (groups : ∀ name all, s.query d.kind (d.filter params caller) [] = .ok all →
      Sorting.Settled (d.pageRequest params).sort (d.tallied params name all)) :
    d.Sortable params caller s :=
  ⟨Sorting.rows_of_settled rows, fun name _ all query => Sorting.rows_of_settled (groups name all query)⟩

/-- From any store, requests with the same predicates and order show one list of records in pages, in a
file, as options and in groups, as long as the rows can be read and the sort keys put rows and groups in an
order. They do so if there are few rows, or one order for the values at each key; otherwise the program may
give up. A row that cannot be read makes all requests fail. -/
theorem reads_describe_one_list [LawfulIdentifier I] (law : d.kind.Lawful)
    (coherent : ∀ row ∈ s.rows, row.IsCoherent) (fits : s.rows.length ≤ maxInt64)
    (narrow : d.limits.most ≤ maxWord32) (params : Params) (caller : Caller) :
    (s.CanRead d.kind (d.filter params caller) → d.Sortable params caller s →
      ∃ all, d.Describes params caller s all) ∧
    (Sorting.Settled (d.pageRequest params).sort
        ((s.contents d.kind.entityType).filter (d.filter params caller).accepts) →
      (∀ name all, s.query d.kind (d.filter params caller) [] = .ok all →
        Sorting.Settled (d.pageRequest params).sort (d.tallied params name all)) →
      d.Sortable params caller s) ∧
    (s.search d.kind.entityType (d.filter params caller) (d.pageRequest params).sort = none →
      d.Fails params caller s (.panic .disorder)) ∧
    (∀ name all, groupProperties (params.asking [("group_by", name)]) ≠ [] →
      s.query d.kind (d.filter params caller) [] = .ok all → d.groupsOf params name all = none →
      d.FailsGrouped params caller s (.panic .disorder) name) ∧
    (¬s.CanRead d.kind (d.filter params caller) →
      (∀ listed, s.search d.kind.entityType (d.filter params caller) (d.pageRequest params).sort =
        some listed → d.Fails params caller s (.undecodable d.kind.entityType)) ∧
      ∀ name, groupProperties (params.asking [("group_by", name)]) ≠ [] →
        d.FailsGrouped params caller s (.undecodable d.kind.entityType) name) := by
  refine ⟨describes_of_sortable law coherent fits narrow, sortable_of_settled,
    fun disorder => fails_of_found (Store.query_of_disorder disorder),
    fun name all asked query disorder number size => ?_,
    fun unreadable => ⟨fun listed sorted =>
      fails_of_found (Store.query_of_not_canRead unreadable sorted), fun name asked number size => ?_⟩⟩
  · rw [d.groupAggregate_paging caller s asked, query]
    simp only [Except.bind, disorder]
  · rw [d.groupAggregate_paging caller s asked,
      Store.query_of_not_canRead unreadable (Sorting.rows_nil _)]
    rfl

end Identified

def offices : Store :=
  let save := Store.Write.save Department.kind_lawful ⟨⟨0, 0⟩, fun _ => ""⟩ Seed.author
  .run [
    save (Seed.department "D10" "Works, \"north\"" none),
    save (Seed.department "D20" "Sales" none)] {}

theorem sorted_offices_describe_one_list :
    (∀ row ∈ offices.rows, row.IsCoherent) ∧ offices.rows.length = 2 ∧
      ∃ all, (⟨Department.kind, Department.policy, {}⟩ : Desk String Department).Describes
        ⟨.read, [("sort", "name"), ("NN_code", "")]⟩ Caller.anonymous offices all := by
  have readable : offices.CanRead Department.kind (Desk.filter ⟨Department.kind, Department.policy, {}⟩
      ⟨.read, [("sort", "name"), ("NN_code", "")]⟩ Caller.anonymous) :=
    Store.canRead_of_all (by decide +kernel)
  obtain ⟨described, ordered, _⟩ := reads_describe_one_list
    (d := ⟨Department.kind, Department.policy, {}⟩) Department.kind_lawful (Store.coherent_run _)
    (show offices.rows.length ≤ maxInt64 by decide +kernel) (by decide)
    ⟨.read, [("sort", "name"), ("NN_code", "")]⟩ Caller.anonymous
  have few : ((offices.contents Department.kind.entityType).filter
      (Desk.filter ⟨Department.kind, Department.policy, {}⟩ ⟨.read, [("sort", "name"), ("NN_code", "")]⟩
        Caller.anonymous).accepts).length ≤ 20 := by decide +kernel
  exact ⟨Store.coherent_run _, rfl, described readable (ordered (.inl few) fun name all query =>
    .inl (Nat.le_trans (length_tallied_le query name) few))⟩

/-- A store with departments that have the names 1x, 2, 3x, 4 and so on. -/
def districts : Store :=
  let save := Store.Write.save Department.kind_lawful ⟨⟨0, 0⟩, fun _ => ""⟩ Seed.author
  .run ((List.range 24).map fun i =>
    save (Seed.department ("D" ++ natText (i + 10)) (natText (i + 1) ++ if i % 2 = 0 then "x" else "")
      none)) {}

/-- By their names, the departments are in no order, and requests for them are given up. -/
theorem sorted_districts_not_described :
    (∀ row ∈ districts.rows, row.IsCoherent) ∧
      districts.CanRead Department.kind (Desk.filter ⟨Department.kind, Department.policy, {}⟩
        ⟨.read, [("sort", "name")]⟩ Caller.anonymous) ∧
      (⟨Department.kind, Department.policy, {}⟩ : Desk String Department).Fails
        ⟨.read, [("sort", "name")]⟩ Caller.anonymous districts (.panic .disorder) ∧
      ¬∃ all, (⟨Department.kind, Department.policy, {}⟩ : Desk String Department).Describes
        ⟨.read, [("sort", "name")]⟩ Caller.anonymous districts all := by
  have fails : (⟨Department.kind, Department.policy, {}⟩ : Desk String Department).Fails
      ⟨.read, [("sort", "name")]⟩ Caller.anonymous districts (.panic .disorder) :=
    fails_of_found (Store.query_of_disorder (by decide +kernel))
  refine ⟨Store.coherent_run _, Store.canRead_of_all (by decide +kernel), fails, ?_⟩
  rintro ⟨all, described⟩
  obtain ⟨file, answer, -⟩ := described.file
  cases answer.symm.trans fails.file

end Desk
end Registrar
