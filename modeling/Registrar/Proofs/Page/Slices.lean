import Registrar.Desk.Listing
import Registrar.Proofs.Number.Decimal

/-!
Pages by number and size. Pairs in front of a request's own ask for a page, for a file or for groups,
and leave the filter and the order as they are. Main statement: of a list that memory can hold, the
pages of a size put the list together, and those behind the last one are empty.
-/

namespace Registrar

open Number

theorem positive?_natText {n : Nat} (positive : 0 < n) (h : n ≤ maxWord64) :
    positive? (some (natText n)) = some n := by
  rw [positive?, readUnsigned_natText h]
  exact if_pos positive

namespace Params

def asking (params : Params) (pairs : List (String × String)) : Params :=
  { params with pairs := pairs ++ params.pairs }

def paging (number size : Nat) : List (String × String) :=
  [("_format_", ""), ("page", natText number), ("rows", natText size)]

def exporting : List (String × String) := [("_format_", "csv")]

def controls : List String := ["_format_", "page", "rows", "group_by"]

theorem paging_controls (number size : Nat) : ∀ p ∈ paging number size, p.1 ∈ controls := by
  simp [paging, controls]

theorem grouping_controls (name : String) (number size : Nat) :
    ∀ p ∈ ("group_by", name) :: paging number size, p.1 ∈ controls :=
  List.forall_mem_cons.2 ⟨by simp [controls], paging_controls number size⟩

theorem exporting_controls : ∀ p ∈ exporting, p.1 ∈ controls := by decide

theorem ofParam?_of_control {key : String} (h : key ∈ controls) (raw : String) :
    Predicate.ofParam? key raw = none := by
  have nothing : ∀ key ∈ controls,
      (Text.cut? '_' key.toList).bind (fun parts => Test.ofCode? (String.ofList parts.1)) = none := by
    decide +kernel
  have none := nothing key h
  unfold Predicate.ofParam?
  split
  · rfl
  · next code names cut =>
    rw [cut, Option.bind_some] at none
    rw [none]

variable (params : Params) {pairs : List (String × String)}

theorem filter_asking (h : ∀ p ∈ pairs, p.1 ∈ controls) :
    Filter.ofParams (params.asking pairs) = Filter.ofParams params := by
  have nothing : pairs.filterMap (fun p => Predicate.ofParam? p.1 p.2) = [] :=
    List.filterMap_eq_nil_iff.2 fun p hp => ofParam?_of_control (h p hp) p.2
  simp [Filter.ofParams, asking, nothing]

theorem getAll_asking {key : String} (h : ∀ p ∈ pairs, p.1 ≠ key) :
    (params.asking pairs).getAll key = params.getAll key := by
  have nothing : pairs.filter (fun p => p.1 == key) = [] :=
    List.filter_eq_nil_iff.2 fun p hp => by simpa using h p hp
  simp [getAll, asking, nothing]

theorem sort_asking (h : ∀ p ∈ pairs, p.1 ∈ controls) :
    (params.asking pairs).getAll "sort" = params.getAll "sort" := by
  refine params.getAll_asking fun p hp same => ?_
  have control := h p hp
  rw [same] at control
  exact absurd control (by decide)

theorem wantsExport_paging (number size : Nat) :
    wantsExport (params.asking (paging number size)) = .ok false := by
  have blank : (params.asking (paging number size)).getFilled? "_format_" = none := rfl
  rw [wantsExport, blank]

theorem wantsExport_exporting : wantsExport (params.asking exporting) = .ok true := by
  have format : (params.asking exporting).getFilled? "_format_" = some "csv" := rfl
  rw [wantsExport, format]
  exact if_pos (by decide)

end Params

theorem PageRequest.ofParams_paging (params : Params) (others : List (String × String))
    {limits : PageLimits} {number size : Nat}
    (apart : ∀ p ∈ others, p.1 ∈ Params.controls ∧ p.1 ≠ "page" ∧ p.1 ≠ "rows")
    (first : 0 < number) (word : number ≤ maxWord64) (filled : 0 < size) (allowed : size ≤ limits.most)
    (narrow : limits.most ≤ maxWord32) :
    ofParams (params.asking (others ++ Params.paging number size)) limits =
      ⟨number, size, (ofParams params limits).sort⟩ := by
  have skip {key : String} (h : ∀ p ∈ others, p.1 ≠ key) :
      (params.asking (others ++ Params.paging number size)).get? key =
        (params.asking (Params.paging number size)).get? key := by
    have nothing : others.find? (fun p => p.1 == key) = none :=
      List.find?_eq_none.2 fun p hp => by simpa using h p hp
    simp [Params.get?, Params.asking, List.find?_append, nothing]
  have page : (params.asking (others ++ Params.paging number size)).get? "page" =
      some (natText number) := skip fun p hp => (apart p hp).2.1
  have rows : (params.asking (others ++ Params.paging number size)).get? "rows" =
      some (natText size) := skip fun p hp => (apart p hp).2.2
  have controls : ∀ p ∈ others ++ Params.paging number size, p.1 ∈ Params.controls := by
    intro p hp
    rcases List.mem_append.1 hp with hp | hp
    · exact (apart p hp).1
    · exact Params.paging_controls number size p hp
  have sort := params.sort_asking controls
  have small : size ≤ maxWord64 := by
    unfold maxWord32 at narrow
    unfold maxWord64
    omega
  simp [ofParams, page, rows, sort, positive?_natText first word, positive?_natText filled small,
    Nat.min_eq_left allowed]

theorem word?_of_le {n : Nat} (h : n ≤ maxWord64) : word? n = some n := by
  rw [word?, if_pos (by omega), Int.toNat_natCast]

/-- As long as the sum is a word, the number of pages is the number of rows divided by the size,
rounded up. -/
theorem pageCount?_of_word {total size : Nat} (filled : 0 < size)
    (word : total + size ≤ maxWord64) : pageCount? total size = some ((total + size - 1) / size) := by
  have sum : word? ((total : Int) + size) = some (total + size) := word?_of_le word
  have last : word? (((total + size : Nat) : Int) - 1) = some (total + size - 1) := by
    rw [← word?_of_le (n := total + size - 1) (by omega)]
    congr 1
    omega
  rw [pageCount?, if_neg (by omega), sum, Option.bind_eq_bind, Option.bind_some, last]
  rfl

theorem pageCount?_of_beyond {total size : Nat} (filled : 0 < size)
    (beyond : maxWord64 < total + size) : pageCount? total size = none := by
  have sum : word? ((total : Int) + size) = none := if_neg (by omega)
  rw [pageCount?, if_neg (by omega), sum]
  rfl

namespace Page

variable {α : Type}

theorem flatMap_slices (all : List α) (size count : Nat) :
    (List.range count).flatMap (fun i => (all.drop (i * size)).take size) =
      all.take (count * size) := by
  induction count with
  | zero => simp
  | succ count ih =>
    rw [List.range_succ, List.flatMap_append, ih, Nat.succ_mul, List.take_add]
    simp

theorem ceil_bounds (total : Nat) {size : Nat} (filled : 0 < size) :
    total ≤ (total + size - 1) / size * size ∧ (total + size - 1) / size ≤ total := by
  have parts := Nat.div_add_mod (total + size - 1) size
  have rest := Nat.mod_lt (total + size - 1) filled
  rw [Nat.mul_comm] at parts
  refine ⟨by omega, ?_⟩
  rw [Nat.div_le_iff_le_mul_add_pred filled]
  have := Nat.le_mul_of_pos_left total filled
  omega

/-- Of a list that memory can hold, the start of a page may as well lie beyond all words. -/
theorem drop_offset {all : List α} (fits : all.length ≤ maxInt64) (request : PageRequest) :
    all.drop request.offset = all.drop ((request.number - 1) * request.size) := by
  unfold maxInt64 at fits
  rw [PageRequest.offset]
  rcases Nat.le_total ((request.number - 1) * request.size) maxWord64 with within | beyond
  · rw [Nat.min_eq_left within]
  · rw [Nat.min_eq_right beyond, List.drop_eq_nil_of_le (by unfold maxWord64; omega),
      List.drop_eq_nil_of_le (by unfold maxWord64 at beyond; omega)]

/-- The answers for the pages of one size: together they show the list, the last one says how many there
are, and those behind it are empty. -/
structure Cut (all : List α) (size : Nat) (answers : Nat → Page α → Prop) (count : Nat)
    (contents : Nat → List α) : Prop where
  answer (number : Nat) : 0 < number → number ≤ maxWord64 →
    answers number ⟨contents number, all.length, count, number, size⟩
  word : count ≤ maxWord64
  together : (List.range count).flatMap (fun i => contents (i + 1)) = all
  behind (number : Nat) : count < number → contents number = []

/-- Whatever size up to the greatest one is asked for, the pages of this size show the list. -/
def Shows (all : List α) (most : Nat) (answers : Nat → Nat → Page α → Prop) : Prop :=
  ∀ size, 0 < size → size ≤ most →
    ∃ count contents, Cut all size (fun number => answers number size) count contents

theorem ofAll_of_word (all : List α) {request : PageRequest} (filled : 0 < request.size)
    (word : all.length + request.size ≤ maxWord64) :
    ofAll all request = .ok ⟨(all.drop request.offset).take request.size, all.length,
      (all.length + request.size - 1) / request.size, request.number, request.size⟩ := by
  rw [ofAll, pageCount?_of_word filled word]

theorem mem_of_mem_content {all : List α} {request : PageRequest} {page : Page α}
    (answer : ofAll all request = .ok page) {a : α} (ha : a ∈ page.content) : a ∈ all := by
  unfold ofAll at answer
  split at answer
  · cases answer
  · cases answer
    exact List.mem_of_mem_drop (List.mem_of_mem_take ha)

theorem ofAll_of_beyond (all : List α) {request : PageRequest}
    (beyond : maxWord64 < all.length + request.size) (filled : 0 < request.size) :
    ofAll all request = .error (.panic .overflow) := by
  rw [ofAll, pageCount?_of_beyond filled beyond]

theorem cut_ofAll {all : List α} (sort : List SortKey) {size : Nat} (filled : 0 < size)
    (fits : all.length ≤ maxInt64) (word : all.length + size ≤ maxWord64) :
    ∃ count contents,
      Cut all size (fun number page => ofAll all ⟨number, size, sort⟩ = .ok page) count contents := by
  obtain ⟨enough, bounded⟩ := ceil_bounds all.length filled
  refine ⟨(all.length + size - 1) / size, fun number => (all.drop ((number - 1) * size)).take size,
    fun number first _ => ?_, by omega, ?_, fun number later => ?_⟩
  · rw [ofAll_of_word all filled word, drop_offset fits]
  · simp only [Nat.add_sub_cancel]
    rw [flatMap_slices, List.take_of_length_le enough]
  · have past : all.length ≤ (number - 1) * size :=
      Nat.le_trans enough (Nat.mul_le_mul_right size (by omega))
    rw [List.drop_eq_nil_of_le past, List.take_nil]

theorem shows_ofAll {all : List α} {most : Nat} {answers : Nat → Nat → Page α → Prop}
    (sort : List SortKey) (narrow : most ≤ maxWord32) (fits : all.length ≤ maxInt64)
    (h : ∀ number size page, 0 < number → number ≤ maxWord64 → 0 < size → size ≤ most →
      ofAll all ⟨number, size, sort⟩ = .ok page → answers number size page) :
    Shows all most answers := by
  intro size filled allowed
  obtain ⟨count, contents, cut⟩ := cut_ofAll sort filled fits (by
    unfold maxInt64 at fits
    unfold maxWord32 at narrow
    unfold maxWord64
    omega)
  refine ⟨count, contents, fun number first word => ?_, cut.word, cut.together, cut.behind⟩
  exact h number size _ first word filled allowed (cut.answer number first word)

end Page
end Registrar
