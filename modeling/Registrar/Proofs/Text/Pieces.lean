import Mathlib.Data.List.Basic
import Registrar.Proofs.Text.Blank
import Registrar.Text.Pieces

/-!
The pieces of a text between separators. Main statements: the pieces are the parts of the text that hold
no separator and stand between two of them or the ends; and blanks at the ends of a text are of no account
for its trimmed pieces.
-/

namespace Registrar.Text

variable {sep : Char} {p s : List Char}

theorem pieces_eq_splitOn (sep : Char) (s : List Char) : pieces sep s = s.splitOn sep := by
  induction s with
  | nil => rfl
  | cons c r ih =>
    have head : consHead c (pieces sep r) = (pieces sep r).modifyHead (List.cons c) := by
      cases shown : pieces sep r with
      | nil => exact absurd shown (pieces_ne_nil sep r)
      | cons p ps => simp [consHead]
    rw [pieces, head, List.splitOn, List.splitOnP_cons_eq_if_modifyHead, ih]
    simp [List.splitOn]

theorem pieces_append_cons (sep : Char) (a b : List Char) :
    pieces sep (a ++ sep :: b) = pieces sep a ++ pieces sep b := by
  simp only [pieces_eq_splitOn]
  exact List.splitOnP_append_cons a b (by simp)

theorem pieces_of_not_mem (h : sep ∉ s) : pieces sep s = [s] := by
  rw [pieces_eq_splitOn]
  refine List.splitOnP_eq_singleton fun c hc => beq_eq_false_iff_ne.2 ?_
  rintro rfl
  exact h hc

theorem pieces_induction (sep : Char) {motive : List Char → Prop}
    (whole : ∀ s, sep ∉ s → motive s)
    (cut : ∀ a b, sep ∉ a → motive b → motive (a ++ sep :: b)) (s : List Char) : motive s := by
  by_cases there : sep ∈ s
  · obtain ⟨a, b, parts, first⟩ := List.eq_append_cons_of_mem there
    have shorter : b.length < s.length := by simp [parts]; omega
    rw [parts]
    exact cut a b first (pieces_induction sep whole cut b)
  · exact whole s there
termination_by s.length

/-- A part of a text without separator, between two of them or the ends of the text. -/
def IsPart (sep : Char) (p s : List Char) : Prop :=
  sep ∉ p ∧ ∃ front back, s = front ++ p ++ back ∧ (front = [] ∨ ∃ f, front = f ++ [sep]) ∧
    (back = [] ∨ ∃ b, back = sep :: b)

theorem isPart_of_mem_pieces (h : p ∈ pieces sep s) : IsPart sep p s := by
  induction s using pieces_induction sep with
  | whole s none =>
    rw [pieces_of_not_mem none, List.mem_singleton] at h
    subst h
    exact ⟨none, [], [], by simp, .inl rfl, .inl rfl⟩
  | cut a b none ih =>
    rw [pieces_append_cons, pieces_of_not_mem none, List.singleton_append, List.mem_cons] at h
    rcases h with rfl | later
    · exact ⟨none, [], sep :: b, by simp, .inl rfl, .inr ⟨b, rfl⟩⟩
    · obtain ⟨clean, front, back, rfl, before, after⟩ := ih later
      refine ⟨clean, a ++ sep :: front, back, by simp, .inr ?_, after⟩
      rcases before with rfl | ⟨f, rfl⟩
      · exact ⟨a, rfl⟩
      · exact ⟨a ++ sep :: f, by simp⟩

theorem mem_pieces_iff : p ∈ pieces sep s ↔ IsPart sep p s := by
  refine ⟨isPart_of_mem_pieces, ?_⟩
  rintro ⟨clean, front, back, rfl, before, after⟩
  have own : p ∈ pieces sep (front ++ p) := by
    rcases before with rfl | ⟨f, rfl⟩
    · simp [pieces_of_not_mem clean]
    · simp [pieces_append_cons, pieces_of_not_mem clean]
  rcases after with rfl | ⟨b, rfl⟩
  · simpa using own
  · rw [pieces_append_cons]
    exact List.mem_append_left _ own

theorem exists_piece_of_mem {c : Char} (h : c ∈ s) (other : c ≠ sep) :
    ∃ p ∈ pieces sep s, c ∈ p := by
  induction s using pieces_induction sep with
  | whole s none => exact ⟨s, by simp [pieces_of_not_mem none], h⟩
  | cut a b none ih =>
    rw [pieces_append_cons, pieces_of_not_mem none]
    rcases List.mem_append.1 h with front | back
    · exact ⟨a, by simp, front⟩
    · obtain ⟨p, hp, hc⟩ := ih (List.mem_of_ne_of_mem other back)
      exact ⟨p, by simp [hp], hc⟩

theorem cut?_append_cons (h : sep ∉ s) (rest : List Char) :
    cut? sep (s ++ sep :: rest) = some (s, rest) := by
  induction s with
  | nil => simp [cut?]
  | cons c r ih =>
    have other : c ≠ sep := fun same => h (by simp [same])
    have later : sep ∉ r := fun there => h (by simp [there])
    simp [cut?, other, ih later]

section Between

variable {t : List Char}

theorem piecesBetween_skip (sep a b : List Char) :
    piecesBetween a.length sep (a ++ b) = piecesBetween 0 sep b := by
  induction a with
  | nil => rfl
  | cons c r ih => simpa [piecesBetween] using ih

theorem piecesBetween_of_not_mem (h : sep ∉ s) : piecesBetween 0 (sep :: t) s = [s] := by
  induction s with
  | nil => rfl
  | cons c r ih =>
    have other : sep ≠ c := fun same => h (by simp [same])
    have later : sep ∉ r := fun there => h (by simp [there])
    simp [piecesBetween, other, ih later, consHead]

theorem piecesBetween_append (h : sep ∉ s) (rest : List Char) :
    piecesBetween 0 (sep :: t) (s ++ sep :: (t ++ rest)) =
      s :: piecesBetween 0 (sep :: t) rest := by
  induction s with
  | nil => simp [piecesBetween, piecesBetween_skip]
  | cons c r ih =>
    have other : sep ≠ c := fun same => h (by simp [same])
    have later : sep ∉ r := fun there => h (by simp [there])
    simp [piecesBetween, other, ih later, consHead]

theorem piecesBetween_intercalate {ps : List (List Char)} (filled : ps ≠ [])
    (clean : ∀ p ∈ ps, sep ∉ p) :
    piecesBetween 0 (sep :: t) ((sep :: t).intercalate ps) = ps := by
  induction ps with
  | nil => exact absurd rfl filled
  | cons p r ih =>
    cases r with
    | nil => rw [List.intercalate_singleton, piecesBetween_of_not_mem (clean p (by simp))]
    | cons q r =>
      rw [List.intercalate_cons_cons, List.append_assoc, List.cons_append,
        piecesBetween_append (clean p (by simp)),
        ih (by simp) fun p hp => clean p (List.mem_cons_of_mem _ hp)]

end Between

theorem map_trimmed_pieces_blanks_append {blanks : List Char} (h : ∀ c ∈ blanks, isBlank c)
    (filled : isBlank sep = false) (s : List Char) :
    (pieces sep (blanks ++ s)).map trimmed = (pieces sep s).map trimmed := by
  have clean : sep ∉ blanks := fun there => by simp [h sep there] at filled
  induction s using pieces_induction sep with
  | whole s none =>
    have all : sep ∉ blanks ++ s := by simp [clean, none]
    simp [pieces_of_not_mem all, pieces_of_not_mem none, trimmed_blanks_append h]
  | cut a b none _ =>
    have all : sep ∉ blanks ++ a := by simp [clean, none]
    rw [← List.append_assoc, pieces_append_cons, pieces_append_cons]
    simp [pieces_of_not_mem all, pieces_of_not_mem none, trimmed_blanks_append h]

theorem map_trimmed_pieces_append_blanks {blanks : List Char} (h : ∀ c ∈ blanks, isBlank c)
    (filled : isBlank sep = false) (s : List Char) :
    (pieces sep (s ++ blanks)).map trimmed = (pieces sep s).map trimmed := by
  have clean : sep ∉ blanks := fun there => by simp [h sep there] at filled
  induction s using pieces_induction sep with
  | whole s none =>
    have all : sep ∉ s ++ blanks := by simp [clean, none]
    simp [pieces_of_not_mem all, pieces_of_not_mem none, trimmed_append_blanks h]
  | cut a b none ih =>
    rw [List.append_assoc, List.cons_append, pieces_append_cons, pieces_append_cons]
    simp [ih]

theorem map_trimmed_pieces_trimmed (filled : isBlank sep = false) (s : List Char) :
    (pieces sep (trimmed s)).map trimmed = (pieces sep s).map trimmed := by
  obtain ⟨front, back, before, after, parts⟩ := exists_blanks s
  calc (pieces sep (trimmed s)).map trimmed
      = (pieces sep (front ++ trimmed s ++ back)).map trimmed := by
        rw [map_trimmed_pieces_append_blanks after filled,
          map_trimmed_pieces_blanks_append before filled]
    _ = (pieces sep s).map trimmed := by rw [← parts]

/-- The parts of a text between separators, trimmed, without the blank ones. -/
def filledParts (sep : Char) (s : String) : List String :=
  ((split sep s).map trim).filter fun part => part ≠ ""

theorem filledParts_eq (sep : Char) (s : String) : filledParts sep s =
    (((pieces sep s.toList).map trimmed).map String.ofList).filter (· ≠ "") := by
  simp [filledParts, split, trim, Function.comp_def]

theorem mem_filledParts_iff {part s : String} : part ∈ filledParts sep s ↔
    ∃ p, IsPart sep p s.toList ∧ (∃ c ∈ p, isBlank c = false) ∧ part = String.ofList (trimmed p) := by
  have filled_iff (p : List Char) :
      String.ofList (trimmed p) ≠ "" ↔ ∃ c ∈ p, isBlank c = false := by
    rw [Ne, String.ofList_eq_empty_iff, trimmed_eq_nil_iff]
    simp
  rw [filledParts_eq, List.mem_filter, List.map_map, List.mem_map]
  constructor
  · rintro ⟨⟨p, piece, rfl⟩, filled⟩
    exact ⟨p, mem_pieces_iff.1 piece, (filled_iff p).1 (by simpa using filled), rfl⟩
  · rintro ⟨p, piece, filled, rfl⟩
    exact ⟨⟨p, mem_pieces_iff.2 piece, rfl⟩, by simpa using (filled_iff p).2 filled⟩

theorem isTrimmed_of_mem_filledParts {part s : String} (h : part ∈ filledParts sep s) :
    IsTrimmed part := by
  simp only [filledParts, List.mem_filter, List.mem_map, decide_eq_true_eq] at h
  obtain ⟨⟨piece, _, rfl⟩, filled⟩ := h
  exact isTrimmed_trim filled

theorem not_mem_of_mem_filledParts {part s : String} (h : part ∈ filledParts sep s) :
    sep ∉ part.toList := by
  obtain ⟨p, isPart, _, rfl⟩ := mem_filledParts_iff.1 h
  rw [String.toList_ofList]
  exact fun there => isPart.1 (mem_of_mem_trimmed there)

theorem filledParts_trim (filled : isBlank sep = false) (s : String) :
    filledParts sep (trim s) = filledParts sep s := by
  rw [filledParts_eq, filledParts_eq, toList_trim, map_trimmed_pieces_trimmed filled]

theorem filledParts_join {a b s : String} (h : s.toList = a.toList ++ sep :: b.toList) :
    filledParts sep s = filledParts sep a ++ filledParts sep b := by
  simp only [filledParts_eq, h, pieces_append_cons, List.map_append, List.filter_append]

theorem filledParts_of_isTrimmed {s : String} (trimmed : IsTrimmed s) (whole : sep ∉ s.toList) :
    filledParts sep s = [s] := by
  have cut : split sep s = [s] := by
    rw [split, pieces_of_not_mem whole, List.map_singleton, String.ofList_toList]
  simp [filledParts, cut, trimmed.trim_eq, trimmed.filled]

theorem filledParts_intercalate {s : String} {parts : List String}
    (h : s.toList = [sep].intercalate (parts.map String.toList))
    (clean : ∀ part ∈ parts, IsTrimmed part ∧ sep ∉ part.toList) : filledParts sep s = parts := by
  induction parts generalizing s with
  | nil =>
    obtain rfl : s = "" := String.toList_eq_nil_iff.1 h
    rfl
  | cons part r ih =>
    obtain ⟨trimmed, whole⟩ := clean part List.mem_cons_self
    cases r with
    | nil =>
      obtain rfl : s = part := String.toList_inj.1 (by simpa using h)
      exact filledParts_of_isTrimmed trimmed whole
    | cons next r =>
      obtain ⟨tail, shown⟩ : ∃ tail : String,
          tail.toList = [sep].intercalate ((next :: r).map String.toList) :=
        ⟨.ofList _, String.toList_ofList⟩
      have rest := ih shown fun p hp => clean p (List.mem_cons_of_mem _ hp)
      have joined : s.toList = part.toList ++ sep :: tail.toList := by
        rw [h, shown, List.map_cons, List.intercalate_cons_of_ne_nil (by simp)]
        simp
      rw [filledParts_join joined, rest, filledParts_of_isTrimmed trimmed whole,
        List.singleton_append]

end Registrar.Text
