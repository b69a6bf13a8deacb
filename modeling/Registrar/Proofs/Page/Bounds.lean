import Mathlib.Algebra.Order.Floor.Div
import Registrar.Proofs.Page.Slices
import Registrar.Settings

/-!
The bounds of pages. A request has a number above zero, a size between one and the configured greatest one,
and a start that is a word. Main statement: there is a page just if the numbers of rows and of rows on a
page have a word as sum, and then the number of pages is their quotient, rounded up.
-/

namespace Registrar

open Number

/-- Both page sizes of the settings are words. -/
structure Settings.HasWords (s : Settings) : Prop where
  default : s.defaultPageSize ≤ maxWord64
  most : s.mostPageSize ≤ maxWord64

theorem Settings.HasWords.limits {s : Settings} (words : s.HasWords) :
    s.pageLimits.default ≤ maxWord64 ∧ s.pageLimits.most ≤ maxWord64 := by
  obtain ⟨default, most⟩ := words
  have one : 1 ≤ maxWord64 := by decide
  simp [pageLimits, default, most, one]

theorem PageRequest.ofParams_size_pos (params : Params) {limits : PageLimits}
    (least : 0 < limits.default) (within : limits.default ≤ limits.most)
    (word : limits.default ≤ maxWord64) : 0 < (ofParams params limits).size :=
  Nat.lt_min.2 ⟨(positive?_getD_bounds _ least word).1, Nat.lt_of_lt_of_le least within⟩

/-- A request has a number above zero, a size between one and the greatest, and a start that is a word. It
gets a page, with the number of pages rounded up, just if rows and size are a word together; otherwise the
sum ends the request. -/
theorem pages_counted_iff {s : Settings} (words : s.HasWords) (params : Params) {α : Type}
    (all : List α) :
    let request := PageRequest.ofParams params s.pageLimits
    (1 ≤ request.number ∧ request.number ≤ maxWord64) ∧
      (1 ≤ request.size ∧ request.size ≤ s.pageLimits.most ∧ s.pageLimits.most ≤ maxWord64) ∧
      request.offset ≤ maxWord64 ∧
      ((∃ page, Page.ofAll all request = .ok page) ↔ all.length + request.size ≤ maxWord64) ∧
      (∀ page, Page.ofAll all request = .ok page → page.number = request.number ∧
        page.size = request.size ∧ page.totalElements = all.length ∧
        page.totalPages = all.length ⌈/⌉ request.size) ∧
      (maxWord64 < all.length + request.size →
        Page.ofAll all request = .error (.panic .overflow)) := by
  intro request
  obtain ⟨default, most⟩ := words.limits
  have filled : 0 < request.size :=
    PageRequest.ofParams_size_pos params s.pageLimits_pos s.pageLimits_le default
  have bounded : request.size ≤ s.pageLimits.most := PageRequest.ofParams_size_le params s.pageLimits
  have within {page : Page α} (answer : Page.ofAll all request = .ok page) :
      all.length + request.size ≤ maxWord64 := by
    by_contra beyond
    rw [Page.ofAll_of_beyond all (by omega) filled] at answer
    cases answer
  refine ⟨⟨PageRequest.ofParams_number_pos params s.pageLimits,
      PageRequest.ofParams_number_le params s.pageLimits⟩,
    ⟨filled, bounded, most⟩, Nat.min_le_right _ _,
    ⟨fun ⟨page, answer⟩ => within answer, fun word => ⟨_, Page.ofAll_of_word all filled word⟩⟩,
    fun page answer => ?_, fun beyond => Page.ofAll_of_beyond all beyond filled⟩
  rw [Page.ofAll_of_word all filled (within answer)] at answer
  cases answer
  exact ⟨rfl, rfl, rfl, (Nat.ceilDiv_eq_add_pred_div _ _).symm⟩

/-- Three pages for five rows, two on a page, where pages may have as many rows as a word can count. -/
theorem five_rows_on_three_pages :
    let s : Settings := { mostPageSize := maxWord64 }
    s.HasWords ∧ ∃ page, Page.ofAll ["a", "b", "c", "d", "e"]
      (PageRequest.ofParams ⟨.read, [("rows", "2")]⟩ s.pageLimits) = .ok page ∧
        page.totalPages = 3 := by
  have words : Settings.HasWords { mostPageSize := maxWord64 } := ⟨by decide, by decide⟩
  obtain ⟨_, _, _, answered, counted, _⟩ :=
    pages_counted_iff words ⟨.read, [("rows", "2")]⟩ ["a", "b", "c", "d", "e"]
  obtain ⟨page, answer⟩ := answered.2 (by decide)
  exact ⟨words, page, answer, (counted page answer).2.2.2.trans (by decide)⟩

/-- Two rows have no page, where a page may have as many rows as a word can count. -/
theorem two_rows_on_no_page :
    let s : Settings := { defaultPageSize := maxWord64, mostPageSize := maxWord64 }
    let request := PageRequest.ofParams ⟨.read, []⟩ s.pageLimits
    s.HasWords ∧ request.size = maxWord64 ∧ 2 ⌈/⌉ request.size = 1 ∧
      Page.ofAll ["a", "b"] request = .error (.panic .overflow) := by
  intro s request
  have room : request.size = maxWord64 := by decide
  refine ⟨⟨by decide, by decide⟩, room, ?_, Page.ofAll_of_beyond _ ?_ ?_⟩
  · rw [room, Nat.ceilDiv_eq_add_pred_div]
    decide
  · rw [room]
    decide
  · rw [room]
    decide

end Registrar
