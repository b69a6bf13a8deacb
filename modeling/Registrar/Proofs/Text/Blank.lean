import Mathlib.Data.List.TakeWhile
import Registrar.Text.Blank

/-!
What trimming does. Main statements: a text is its trimmed form between blanks, blanks at its ends make no
difference to that form, and nothing is left just of a text of blanks.
-/

namespace Registrar.Text

variable {blanks s : List Char}

theorem trimmed_blanks_append (h : ∀ c ∈ blanks, isBlank c) (s : List Char) :
    trimmed (blanks ++ s) = trimmed s := by
  rw [trimmed, trimStart, List.dropWhile_append_of_pos h, trimmed, trimStart]

theorem trimEnd_append_blanks (h : ∀ c ∈ blanks, isBlank c) (s : List Char) :
    trimEnd (s ++ blanks) = trimEnd s := by
  have back : ∀ c ∈ blanks.reverse, isBlank c := by simpa using h
  rw [trimEnd, List.reverse_append, List.dropWhile_append_of_pos back, trimEnd]

theorem trimmed_append_blanks (h : ∀ c ∈ blanks, isBlank c) (s : List Char) :
    trimmed (s ++ blanks) = trimmed s := by
  rw [trimmed, trimmed, trimStart, trimStart, List.dropWhile_append]
  split
  · next none =>
    rw [List.dropWhile_eq_nil_iff.2 h, List.isEmpty_iff.1 none]
  · exact trimEnd_append_blanks h _

theorem exists_blanks (s : List Char) :
    ∃ front back, (∀ c ∈ front, isBlank c) ∧ (∀ c ∈ back, isBlank c) ∧
      s = front ++ trimmed s ++ back := by
  refine ⟨s.takeWhile isBlank, ((trimStart s).reverse.takeWhile isBlank).reverse,
    fun c hc => List.mem_takeWhile_imp hc, fun c hc => List.mem_takeWhile_imp (List.mem_reverse.1 hc), ?_⟩
  rw [List.append_assoc, trimmed, trimEnd, ← List.reverse_append, List.takeWhile_append_dropWhile,
    List.reverse_reverse, trimStart, List.takeWhile_append_dropWhile]

theorem trimmed_trimmed (s : List Char) : trimmed (trimmed s) = trimmed s := by
  obtain ⟨front, back, before, after, parts⟩ := exists_blanks s
  calc trimmed (trimmed s)
      = trimmed (front ++ trimmed s ++ back) := by
        rw [trimmed_append_blanks after, trimmed_blanks_append before]
    _ = trimmed s := by rw [← parts]

theorem mem_of_mem_trimmed {c : Char} (h : c ∈ trimmed s) : c ∈ s := by
  obtain ⟨front, back, _, _, parts⟩ := exists_blanks s
  rw [parts]
  simp [h]

theorem mem_trimmed_of_mem {c : Char} (h : c ∈ s) (filled : isBlank c = false) : c ∈ trimmed s := by
  obtain ⟨front, back, before, after, parts⟩ := exists_blanks s
  rw [parts] at h
  simp only [List.mem_append] at h
  rcases h with (h | h) | h
  · exact absurd (before c h) (by simp [filled])
  · exact h
  · exact absurd (after c h) (by simp [filled])

theorem trimmed_eq_nil_iff : trimmed s = [] ↔ ∀ c ∈ s, isBlank c := by
  constructor
  · intro none c hc
    by_contra filled
    have kept := mem_trimmed_of_mem hc (by simpa using filled)
    simp [none] at kept
  · intro all
    have rest := trimmed_append_blanks all []
    simpa [trimmed, trimStart, trimEnd] using rest

theorem trimmed_of_allBlank {s : String} (h : allBlank s) : trimmed s.toList = [] :=
  trimmed_eq_nil_iff.2 (List.all_eq_true.1 h)

theorem trim_eq_empty_of_allBlank {s : String} (h : allBlank s) : trim s = "" := by
  rw [trim, trimmed_of_allBlank h, String.ofList_nil]

/-- Filled, with no blanks at the ends. -/
structure IsTrimmed (s : String) : Prop where
  filled : s ≠ ""
  trim_eq : trim s = s

instance (s : String) : Decidable (IsTrimmed s) :=
  decidable_of_iff (s ≠ "" ∧ trim s = s) ⟨fun ⟨filled, same⟩ => ⟨filled, same⟩,
    fun h => ⟨h.filled, h.trim_eq⟩⟩

theorem trim_trim (s : String) : trim (trim s) = trim s := by
  rw [trim, toList_trim, trimmed_trimmed, ← trim]

theorem isTrimmed_trim {s : String} (h : trim s ≠ "") : IsTrimmed (trim s) := ⟨h, trim_trim s⟩

theorem IsTrimmed.exists_filled {s : String} (h : IsTrimmed s) :
    ∃ c ∈ s.toList, isBlank c = false := by
  by_contra none
  have all : allBlank s := List.all_eq_true.2 fun c hc => by
    by_contra filled
    exact none ⟨c, hc, by simpa using filled⟩
  exact h.filled (h.trim_eq.symm.trans (trim_eq_empty_of_allBlank all))

theorem trim_ne_empty {s : String} {c : Char} (h : c ∈ s.toList) (filled : isBlank c = false) :
    trim s ≠ "" := by
  intro empty
  have kept := mem_trimmed_of_mem h filled
  rw [← toList_trim, empty] at kept
  cases kept

theorem trim_of_no_blanks {s : String} (h : ∀ c ∈ s.toList, isBlank c = false) : trim s = s := by
  obtain ⟨front, back, before, after, parts⟩ := exists_blanks s.toList
  have ends : front = [] ∧ back = [] := by
    constructor <;> refine List.eq_nil_iff_forall_not_mem.2 fun c hc => ?_
    · exact absurd (h c (by rw [parts]; simp [hc])) (by simp [before c hc])
    · exact absurd (h c (by rw [parts]; simp [hc])) (by simp [after c hc])
  rw [ends.1, ends.2, List.nil_append, List.append_nil] at parts
  rw [trim, ← parts, String.ofList_toList]

end Registrar.Text
