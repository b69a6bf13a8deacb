import Registrar.Proofs.Sorting.Insertion
import Registrar.Proofs.Sorting.Order

/-!
What sorting rows comes to. Main statement: where the values at each key are numbers, or none of them is
one, the rows come out in the order of the keys, rows level at every key stay as they were, and sorting by
the keys in two goes, the last ones first, gives the same.
-/

namespace Registrar.Sorting

open Json Row

/-- The values with the property are all numbers or texts of numbers, or none of them is one. -/
def Uniform (P : Value → Prop) : Prop :=
  (∀ v, P v → amount? v ≠ none) ∨ ∀ v, P v → number? v = none

/-- The first value is below the second one, and a missing one below all others. -/
inductive Lower : Option Value → Option Value → Prop
  | missing {w : Value} : Lower none (some w)
  | number {v w : Value} {m n : Int} :
      amount? v = some m → amount? w = some n → m < n → Lower (some v) (some w)
  | text {v w : Value} :
      number? v = none → number? w = none → text v < text w → Lower (some v) (some w)

/-- The two values stand at one place in the order. -/
inductive Same : Option Value → Option Value → Prop
  | missing : Same none none
  | number {v w : Value} {n : Int} : amount? v = some n → amount? w = some n → Same (some v) (some w)
  | text {v w : Value} : number? v = none → number? w = none → text v = text w → Same (some v) (some w)

/-- The key puts the first row before the second one. -/
def Ahead (key : SortKey) (a b : Value) : Prop :=
  match key.direction with
  | .ascending => Lower (extract a key.property) (extract b key.property)
  | .descending => Lower (extract b key.property) (extract a key.property)

def Level (key : SortKey) (a b : Value) : Prop :=
  Same (extract a key.property) (extract b key.property)

/-- The first key at which the two rows are not level puts the first row before the second one. -/
inductive Precedes : List SortKey → Value → Value → Prop
  | here {key : SortKey} {rest : List SortKey} {a b : Value} :
      Ahead key a b → Precedes (key :: rest) a b
  | further {key : SortKey} {rest : List SortKey} {a b : Value} :
      Level key a b → Precedes rest a b → Precedes (key :: rest) a b

section Values

variable {P : Value → Prop} {a b : Option Value}

theorem not_isNan_of_amount {v : Value} {m : Int} (h : amount? v = some m) : ¬v.IsNan := by
  intro nan
  rw [amount?, nan] at h
  cases h

theorem Uniform.shown (uniform : Uniform P) (v : Value) (hv : P v) : ¬v.IsNan := by
  rcases uniform with numbers | plain
  · obtain ⟨m, hm⟩ := Option.ne_none_iff_exists'.1 (numbers v hv)
    exact not_isNan_of_amount hm
  · intro nan
    rw [Value.IsNan, plain v hv] at nan
    cases nan

theorem Uniform.isOrder (uniform : Uniform P) : IsOrder P := by
  refine (untorn_of_uniform ?_).isOrder uniform.shown
  refine uniform.imp_left fun numbers v hv none => ?_
  exact numbers v hv ((amount?_eq_none_iff (uniform.shown v hv)).2 none)

theorem Uniform.compareOptions_some (uniform : Uniform P) {v w : Value} (hv : P v) (hw : P w) :
    (∃ m n, amount? v = some m ∧ amount? w = some n ∧
        compareOptions (some v) (some w) = compare m n) ∨
      number? v = none ∧ number? w = none ∧
        compareOptions (some v) (some w) = compare (text v) (text w) := by
  have compared : compareOptions (some v) (some w) = order v w := by
    rw [compareOptions, compare?_eq_order (uniform.shown v hv) (uniform.shown w hw), Option.getD_some]
  rw [compared]
  rcases uniform with numbers | plain
  · obtain ⟨m, hm⟩ := Option.ne_none_iff_exists'.1 (numbers v hv)
    obtain ⟨n, hn⟩ := Option.ne_none_iff_exists'.1 (numbers w hw)
    exact .inl ⟨m, n, hm, hn, order_of_amounts hm hn⟩
  · have none : amount? v = none := by rw [amount?, plain v hv, Option.bind_none]
    exact .inr ⟨plain v hv, plain w hw, order_of_plain (.inl none)⟩

theorem compareOptions_eq_lt_iff (uniform : Uniform P) (ha : ∀ v, a = some v → P v)
    (hb : ∀ v, b = some v → P v) : compareOptions a b = .lt ↔ Lower a b := by
  cases a with
  | none =>
    cases b with
    | none => exact iff_of_false (by decide) nofun
    | some w => exact iff_of_true rfl .missing
  | some v =>
    cases b with
    | none => exact iff_of_false (by simp [compareOptions]) nofun
    | some w =>
      rcases uniform.compareOptions_some (ha v rfl) (hb w rfl) with
        ⟨m, n, hm, hn, compared⟩ | ⟨hv, hw, compared⟩
      · rw [compared, Int.compare_eq_lt]
        constructor
        · exact .number hm hn
        · rintro (_ | ⟨hm', hn', low⟩ | ⟨hv, _, _⟩)
          · rwa [Option.some_inj.1 (hm.symm.trans hm'), Option.some_inj.1 (hn.symm.trans hn')]
          · rw [amount?, hv] at hm
            cases hm
      · rw [compared]
        constructor
        · intro low
          exact .text hv hw (compareOfLessAndEq_eq_lt.1 low)
        · rintro (_ | ⟨hm, _, _⟩ | ⟨_, _, low⟩)
          · rw [amount?, hv] at hm
            cases hm
          · exact compareOfLessAndEq_eq_lt.2 low

theorem compareOptions_eq_eq_iff (uniform : Uniform P) (ha : ∀ v, a = some v → P v)
    (hb : ∀ v, b = some v → P v) : compareOptions a b = .eq ↔ Same a b := by
  cases a with
  | none =>
    cases b with
    | none => exact iff_of_true rfl .missing
    | some w => exact iff_of_false (by simp [compareOptions]) (by rintro ⟨⟩)
  | some v =>
    cases b with
    | none => exact iff_of_false (by simp [compareOptions]) (by rintro ⟨⟩)
    | some w =>
      rcases uniform.compareOptions_some (ha v rfl) (hb w rfl) with
        ⟨m, n, hm, hn, compared⟩ | ⟨hv, hw, compared⟩
      · rw [compared, Int.compare_eq_eq]
        constructor
        · rintro rfl
          exact .number hm hn
        · rintro (_ | ⟨hm', hn'⟩ | ⟨hv, _, _⟩)
          · exact Option.some_inj.1 ((hm.symm.trans hm').trans (hn'.symm.trans hn))
          · rw [amount?, hv] at hm
            cases hm
      · rw [compared, Std.LawfulEqCmp.compare_eq_iff_eq]
        constructor
        · exact .text hv hw
        · rintro (_ | ⟨hm, _⟩ | ⟨_, _, same⟩)
          · rw [amount?, hv] at hm
            cases hm
          · exact same

end Values

section Rows

variable {rows : Value → Prop} {key : SortKey} {keys : List SortKey} {a b : Value}

theorem compareBy_eq_lt_iff (uniform : Uniform (At rows key.property)) (ha : rows a) (hb : rows b) :
    compareBy key a b = .lt ↔ Ahead key a b := by
  have ofA : ∀ v, extract a key.property = some v → At rows key.property v := fun _ h => ⟨a, ha, h⟩
  have ofB : ∀ v, extract b key.property = some v → At rows key.property v := fun _ h => ⟨b, hb, h⟩
  obtain ⟨property, direction⟩ := key
  cases direction with
  | ascending => exact compareOptions_eq_lt_iff uniform ofA ofB
  | descending =>
    rw [compareBy, Direction.apply, ← compareOptions_swap]
    exact compareOptions_eq_lt_iff uniform ofB ofA

theorem compareBy_eq_eq_iff (uniform : Uniform (At rows key.property)) (ha : rows a) (hb : rows b) :
    compareBy key a b = .eq ↔ Level key a b := by
  have applied (d : Direction) (o : Ordering) : d.apply o = .eq ↔ o = .eq := by
    cases d <;> cases o <;> decide
  rw [compareBy, applied]
  exact compareOptions_eq_eq_iff uniform (fun _ h => ⟨a, ha, h⟩) fun _ h => ⟨b, hb, h⟩

theorem compareRows_eq_lt_iff (uniform : ∀ key ∈ keys, Uniform (At rows key.property)) (ha : rows a)
    (hb : rows b) : compareRows keys a b = .lt ↔ Precedes keys a b := by
  induction keys with
  | nil => exact iff_of_false (by simp [compareRows]) nofun
  | cons key rest ih =>
    have first := uniform key List.mem_cons_self
    rw [compareRows, Ordering.then_eq_lt, compareBy_eq_lt_iff first ha hb,
      compareBy_eq_eq_iff first ha hb, ih fun k hk => uniform k (List.mem_cons_of_mem _ hk)]
    constructor
    · rintro (ahead | ⟨level, rest⟩)
      · exact .here ahead
      · exact .further level rest
    · rintro (ahead | ⟨level, rest⟩)
      · exact .inl ahead
      · exact .inr ⟨level, rest⟩

theorem compareRows_eq_eq_iff (uniform : ∀ key ∈ keys, Uniform (At rows key.property)) (ha : rows a)
    (hb : rows b) : compareRows keys a b = .eq ↔ ∀ key ∈ keys, Level key a b := by
  induction keys with
  | nil => exact iff_of_true rfl nofun
  | cons key rest ih =>
    rw [compareRows, Ordering.then_eq_eq, compareBy_eq_eq_iff (uniform key List.mem_cons_self) ha hb,
      ih fun k hk => uniform k (List.mem_cons_of_mem _ hk), List.forall_mem_cons]

theorem compareRows_append (first second : List SortKey) (a b : Value) :
    compareRows (first ++ second) a b = compareLex (compareRows first) (compareRows second) a b := by
  induction first with
  | nil => rfl
  | cons key rest ih =>
    rw [List.cons_append, compareRows, ih, compareLex, compareLex, compareRows, Ordering.then_assoc]

end Rows

/-- The order of the given rows by the keys. -/
def among (given : List Value) (keys : List SortKey) (a b : {row // row ∈ given}) : Ordering :=
  compareRows keys a b

section Given

variable {given : List Value} {keys first second : List SortKey}

theorem transCmp_among (uniform : ∀ key ∈ keys, Uniform (At (· ∈ given) key.property)) :
    Std.TransCmp (among given keys) :=
  transCmp_compareRows fun key hkey => (uniform key hkey).isOrder

theorem arranged_eq_attach (keys : List SortKey) (given : List Value) :
    arranged (compareRows keys) given =
      (arranged (among given keys) given.attach).map Subtype.val := by
  have mapped := map_arranged (compareRows keys) Subtype.val given.attach
  rw [List.attach_map_subtype_val] at mapped
  exact mapped.symm

theorem rows_eq_some (law : Std.TransCmp (among given keys)) :
    rows keys given = some (arranged (compareRows keys) given) := by
  have consistent : Consistent fun a b => among given keys a b == .lt := consistent_of_transCmp
  rw [arranged_eq_attach]
  unfold rows
  split
  · rename_i none
    obtain rfl := List.isEmpty_iff.1 none
    have level : given.attach.Pairwise fun a b => (among given [] a b).isLE :=
      List.pairwise_of_forall fun _ _ => rfl
    rw [eq_of_filter (pairwise_arranged _) level fun x => filter_arranged x _,
      List.attach_map_subtype_val]
  · obtain ⟨sorted, found, sorts⟩ := (answers_sort 32 given.attach).isSome consistent
    have same := sorts.unique consistent (sorts_arranged given.attach)
    rw [same] at found
    exact congrArg (Option.map (List.map Subtype.val)) found

/-- There are few rows, or the values at each key are in one order. -/
def Settled (keys : List SortKey) (given : List Value) : Prop :=
  given.length ≤ 20 ∨ ∀ key ∈ keys, IsOrder (At (· ∈ given) key.property)

theorem rows_of_settled (settled : Settled keys given) : ∃ sorted, rows keys given = some sorted := by
  rcases settled with few | ordered
  · unfold rows
    split
    · exact ⟨given, rfl⟩
    · extract_lets less
      have found : sort? less 32 given.attach = some (insertion less given.attach) :=
        if_pos (by rwa [List.length_attach])
      exact ⟨_, congrArg (Option.map (List.map Subtype.val)) found⟩
  · exact ⟨_, rows_eq_some (transCmp_compareRows ordered)⟩

/-- Whatever the keys, a result has the rows that are given. -/
theorem perm_of_rows {sorted : List Value} (found : rows keys given = some sorted) :
    sorted.Perm given := by
  unfold rows at found
  split at found
  · cases found
    exact .refl _
  · obtain ⟨attached, sorts, rfl⟩ := Option.map_eq_some_iff.1 found
    have perm := ((answers_sort 32 given.attach).of_eq_some sorts).perm.map Subtype.val
    rwa [List.attach_map_subtype_val] at perm

theorem pairwise_arranged_rows (uniform : ∀ key ∈ keys, Uniform (At (· ∈ given) key.property)) :
    (arranged (compareRows keys) given).Pairwise fun a b => ¬Precedes keys b a := by
  have law := transCmp_among uniform
  rw [arranged_eq_attach, List.pairwise_map]
  refine (pairwise_arranged given.attach).imp fun {a b} low before => ?_
  have greater : among given keys b a = .lt := (compareRows_eq_lt_iff uniform b.2 a.2).2 before
  have swap : among given keys a b = (among given keys b a).swap := Std.OrientedCmp.eq_swap
  rw [swap, greater] at low
  cases low

theorem sublist_arranged_rows (uniform : ∀ key ∈ keys, Uniform (At (· ∈ given) key.property))
    {tied : List Value} (inside : tied.Sublist given)
    (level : tied.Pairwise fun a b => ∀ key ∈ keys, Level key a b) :
    tied.Sublist (arranged (compareRows keys) given) := by
  have law := transCmp_among uniform
  rw [← List.attach_map_subtype_val given, List.sublist_map_iff] at inside
  obtain ⟨tied, inside, rfl⟩ := inside
  rw [List.pairwise_map] at level
  have equal : tied.Pairwise fun a b => among given keys a b = .eq :=
    level.imp fun {a b} level => (compareRows_eq_eq_iff uniform a.2 b.2).2 level
  rw [arranged_eq_attach]
  exact (sublist_arranged inside equal).map Subtype.val

theorem arranged_append (uniform : ∀ key ∈ first ++ second, Uniform (At (· ∈ given) key.property)) :
    arranged (compareRows (first ++ second)) given =
      arranged (compareRows first) (arranged (compareRows second) given) := by
  have firstLaw := transCmp_among fun key hkey => uniform key (List.mem_append_left second hkey)
  have secondLaw := transCmp_among fun key hkey => uniform key (List.mem_append_right first hkey)
  have both : among given (first ++ second) =
      compareLex (among given first) (among given second) :=
    funext fun a => funext fun b => compareRows_append first second a b
  calc arranged (compareRows (first ++ second)) given
    _ = (arranged (among given first) (arranged (among given second) given.attach)).map
        Subtype.val := by rw [arranged_eq_attach, both, arranged_compareLex]
    _ = arranged (compareRows first) ((arranged (among given second) given.attach).map Subtype.val) :=
      map_arranged (compareRows first) Subtype.val _
    _ = arranged (compareRows first) (arranged (compareRows second) given) := by
      rw [← arranged_eq_attach]

theorem rows_append (uniform : ∀ key ∈ first ++ second, Uniform (At (· ∈ given) key.property)) :
    (rows second given).bind (rows first) = rows (first ++ second) given := by
  have secondLaw := transCmp_among fun key hkey => uniform key (List.mem_append_right first hkey)
  have found := rows_eq_some secondLaw
  have same : (· ∈ arranged (compareRows second) given) = (· ∈ given) :=
    funext fun row => propext (perm_of_rows found).mem_iff
  have firstLaw : Std.TransCmp (among (arranged (compareRows second) given) first) :=
    transCmp_among fun key hkey => same ▸ uniform key (List.mem_append_left second hkey)
  rw [found, Option.bind_some, rows_eq_some firstLaw, ← arranged_append uniform,
    rows_eq_some (transCmp_among uniform)]

end Given

/-- Where the values at each key are numbers or none of them is one, sorting keeps every row, puts each
before all it precedes, leaves rows level at every key as they are, and may be done in two goes, by the
last keys first. -/
theorem rows_sorted_stably {keys : List SortKey} {given : List Value}
    (uniform : ∀ key ∈ keys, Uniform (At (· ∈ given) key.property)) :
    ∃ sorted, rows keys given = some sorted ∧ sorted.Perm given ∧
      sorted.Pairwise (fun a b => ¬Precedes keys b a) ∧
      (∀ tied : List Value, tied.Sublist given →
        tied.Pairwise (fun a b => ∀ key ∈ keys, Level key a b) → tied.Sublist sorted) ∧
      ∀ first second, keys = first ++ second → (rows second given).bind (rows first) = some sorted := by
  have found := rows_eq_some (transCmp_among uniform)
  refine ⟨_, found, perm_of_rows found, pairwise_arranged_rows uniform,
    fun _ => sublist_arranged_rows uniform, ?_⟩
  rintro first second rfl
  rw [rows_append uniform, found]

/-- Two of one grade with one name, one of a grade given as a text, and one without a grade. -/
def crew : List Value :=
  [.object [("id", .int 1), ("grade", .int 2), ("name", .text "Ann")],
    .object [("id", .int 2), ("grade", .null), ("name", .text "Ben")],
    .object [("id", .int 3), ("grade", .text "10"), ("name", .text "Cid")],
    .object [("id", .int 4), ("grade", .text "2.0"), ("name", .text "Ann")]]

theorem crew_sorted_stably :
    ∃ sorted, rows [⟨"grade", .descending⟩, ⟨"name", .ascending⟩] crew = some sorted ∧
      sorted.map (fun row => textAt row "id") = ["3", "1", "4", "2"] ∧
      (rows [⟨"name", .ascending⟩] crew).bind (rows [⟨"grade", .descending⟩]) = some sorted := by
  have grades : ∀ v ∈ crew.filterMap fun row => extract row "grade", amount? v ≠ none := by
    decide +kernel
  have names : ∀ v ∈ crew.filterMap fun row => extract row "name", number? v = none := by
    decide +kernel
  have shown : (rows [⟨"grade", .descending⟩, ⟨"name", .ascending⟩] crew).map
      (fun sorted => sorted.map fun row => textAt row "id") = some ["3", "1", "4", "2"] := by
    decide +kernel
  have uniform : ∀ key ∈ [⟨"grade", .descending⟩, ⟨"name", .ascending⟩],
      Uniform (At (· ∈ crew) (SortKey.property key)) := by
    intro key hkey
    simp only [List.mem_cons, List.not_mem_nil, or_false] at hkey
    rcases hkey with rfl | rfl
    · exact .inl fun v hv => grades v (at_iff.1 hv)
    · exact .inr fun v hv => names v (at_iff.1 hv)
  obtain ⟨sorted, found, -, -, -, twice⟩ := rows_sorted_stably uniform
  rw [found] at shown
  exact ⟨sorted, found, Option.some_inj.1 shown, twice [_] [_] rfl⟩

end Registrar.Sorting
