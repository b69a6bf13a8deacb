import Mathlib.Data.List.Forall2
import Mathlib.Data.List.Infix
import Mathlib.Data.List.TakeWhile
import Registrar.Text.Lower
import Registrar.Text.Pieces

/-!
The small form of a part of a text. Only a capital sigma looks at what stands around it, so the small
form of a part differs from that of the part alone in sigmas at most. Main statements: the two are the
same just if each capital sigma of the part ends a word in the text if it does so in the part alone; and
where they differ in some text, they do so in one that has a single further letter.
-/

namespace Registrar.Text

/-- A capital sigma with these characters in front of it and behind it ends a word. -/
def endsWord (before after : List Char) : Bool := meetsCased before.reverse && !meetsCased after

/-- Each capital sigma of the part in the middle ends a word there just if it does so in the part alone. -/
def Settled (front part back : List Char) : Prop :=
  ∀ p q, part = p ++ 'Σ' :: q → endsWord (front ++ p) (q ++ back) = endsWord p q

/-- The small form of a part of a text, with what stands before it, nearest character first, and after
it. -/
def lowerIn (before after : List Char) : List Char → List Char
  | [] => []
  | c :: r => lowerAt before c (r ++ after) ++ lowerIn (c :: before) after r

theorem lowerIn_nil (before part : List Char) : lowerIn before [] part = lowerFrom before part := by
  induction part generalizing before with
  | nil => rfl
  | cons c r ih => simp [lowerIn, lowerFrom, ih]

theorem lowerFrom_append (before s t : List Char) :
    lowerFrom before (s ++ t) = lowerIn before t s ++ lowerFrom (s.reverse ++ before) t := by
  induction s generalizing before with
  | nil => rfl
  | cons c r ih => simp [lowerIn, lowerFrom, ih]

theorem lowerFrom_around (front part back : List Char) :
    lowerFrom [] (front ++ part ++ back) =
      lowerIn [] (part ++ back) front ++ lowerIn front.reverse back part ++
        lowerFrom ((front ++ part).reverse) back := by
  simp [lowerFrom_append]

def isSmallSigma (c : Char) : Bool := c == 'σ' || c == 'ς'

/-- The same character, or two small sigmas. -/
def AlikeButSigma (c d : Char) : Prop := c = d ∨ isSmallSigma c ∧ isSmallSigma d

theorem AlikeButSigma.refl (c : Char) : AlikeButSigma c c := .inl rfl

theorem lowerAt_alike (before after before' after' : List Char) (c : Char) :
    List.Forall₂ AlikeButSigma (lowerAt before c after) (lowerAt before' c after') := by
  unfold lowerAt
  split
  · refine .cons ?_ .nil
    split <;> split <;> simp [AlikeButSigma, isSmallSigma]
  · exact List.forall₂_same.2 fun d _ => .refl d

theorem lowerIn_alike (before after before' after' part : List Char) :
    List.Forall₂ AlikeButSigma (lowerIn before after part) (lowerIn before' after' part) := by
  induction part generalizing before before' with
  | nil => exact .nil
  | cons c r ih => exact List.rel_append (lowerAt_alike ..) (ih ..)

theorem lowerAt_eq_iff (before after before' after' : List Char) (c : Char) :
    lowerAt before c after = lowerAt before' c after' ↔
      (c = 'Σ' → endsWord before.reverse after = endsWord before'.reverse after') := by
  unfold lowerAt endsWord
  rw [List.reverse_reverse, List.reverse_reverse]
  by_cases sigma : c = 'Σ'
  · cases meetsCased before && !meetsCased after <;>
      cases meetsCased before' && !meetsCased after' <;> simp [sigma]
  · simp [sigma]

theorem lowerIn_eq_iff (before after before' after' part : List Char) :
    lowerIn before after part = lowerIn before' after' part ↔
      ∀ p q, part = p ++ 'Σ' :: q →
        endsWord (before.reverse ++ p) (q ++ after) = endsWord (before'.reverse ++ p) (q ++ after') := by
  induction part generalizing before before' with
  | nil => simp [lowerIn]
  | cons c r ih =>
    have same := (lowerAt_alike before (r ++ after) before' (r ++ after') c).length_eq
    have cut : lowerIn before after (c :: r) = lowerIn before' after' (c :: r) ↔
        lowerAt before c (r ++ after) = lowerAt before' c (r ++ after') ∧
          lowerIn (c :: before) after r = lowerIn (c :: before') after' r :=
      ⟨fun h => List.append_inj h same, fun ⟨first, rest⟩ => congrArg₂ (· ++ ·) first rest⟩
    rw [cut, lowerAt_eq_iff, ih]
    constructor
    · rintro ⟨first, rest⟩ p q parts
      rcases List.cons_eq_append_iff.1 parts with ⟨rfl, parts⟩ | ⟨p, rfl, rfl⟩
      · obtain ⟨rfl, rfl⟩ := List.cons.inj parts
        simpa using first rfl
      · simpa using rest p q rfl
    · refine fun h => ⟨?_, fun p q parts => ?_⟩
      · rintro rfl
        simpa using h [] r rfl
      · subst parts
        simpa using h (c :: p) q rfl

theorem lowerIn_eq_lowerFrom_iff (front part back : List Char) :
    lowerIn front.reverse back part = lowerFrom [] part ↔ Settled front part back := by
  rw [← lowerIn_nil, lowerIn_eq_iff]
  simp [Settled]

theorem meetsCased_of_ignorable {s : List Char} (h : ∀ c ∈ s, isCaseIgnorable c) (t : List Char) :
    meetsCased (s ++ t) = meetsCased t := by
  simp [meetsCased, List.dropWhile_append, List.dropWhile_eq_nil_iff.2 h]

theorem not_meetsCased_of_ignorable {s : List Char} (h : ∀ c ∈ s, isCaseIgnorable c) :
    meetsCased s = false := by
  simp [meetsCased, List.dropWhile_eq_nil_iff.2 h]

theorem meetsCased_of_not_ignorable {s : List Char} (h : ¬∀ c ∈ s, isCaseIgnorable c)
    (t : List Char) : meetsCased (s ++ t) = meetsCased s := by
  cases dropped : s.dropWhile isCaseIgnorable with
  | nil => exact absurd (List.dropWhile_eq_nil_iff.1 dropped) h
  | cons c r => simp [meetsCased, List.dropWhile_append, dropped]

theorem meetsCased_letter (t : List Char) : meetsCased ('A' :: t) := by
  have kept : isCaseIgnorable 'A' = false := by decide +kernel
  have cased : isCased 'A' := by decide +kernel
  simp [meetsCased, kept, cased]

/-- What unsettles a part does so already as one further letter, in front of the part or behind it. -/
theorem unsettled_by_letter {front part back : List Char} (h : ¬Settled front part back) :
    ¬Settled ['A'] part [] ∨ ¬Settled [] part ['A'] := by
  simp only [Settled, not_forall] at h
  obtain ⟨p, q, parts, differs⟩ := h
  by_cases before : ∀ c ∈ p.reverse, isCaseIgnorable c
  · -- Alone, the sigma ends no word, so in the text it does and no letter follows in the part.
    have first := not_meetsCased_of_ignorable before
    have last : meetsCased q = false := by
      by_cases after : ∀ c ∈ q, isCaseIgnorable c
      · exact not_meetsCased_of_ignorable after
      · have met : meetsCased (p.reverse ++ front.reverse) ∧ meetsCased q = false := by
          simpa [endsWord, first, meetsCased_of_not_ignorable after] using differs
        exact met.2
    refine .inl fun settled => ?_
    have same := settled p q parts
    simp [endsWord, first, last, meetsCased_of_ignorable before, meetsCased_letter] at same
  · by_cases after : ∀ c ∈ q, isCaseIgnorable c
    · have last := not_meetsCased_of_ignorable after
      have first : meetsCased p.reverse := by
        by_contra none
        rw [Bool.not_eq_true] at none
        simp [endsWord, meetsCased_of_not_ignorable before, none] at differs
      refine .inr fun settled => ?_
      have same := settled p q parts
      simp [endsWord, first, last, meetsCased_of_ignorable after, meetsCased_letter] at same
    · simp [endsWord, meetsCased_of_not_ignorable before, meetsCased_of_not_ignorable after] at differs

theorem eq_of_prefix_letter {s t : List Char} {c : Char} (letter : isSmallSigma c = false)
    (alike : List.Forall₂ AlikeButSigma s t) (h : s <+: c :: t) : s = t := by
  induction alike with
  | nil => rfl
  | cons first _ ih =>
    obtain ⟨rfl, rest⟩ := List.cons_prefix_cons.1 h
    rcases first with rfl | ⟨sigma, _⟩
    · rw [ih rest]
    · simp [letter] at sigma

theorem length_lowerIn (before after part : List Char) :
    (lowerIn before after part).length = (lowerFrom [] part).length := by
  rw [← lowerIn_nil]
  exact (lowerIn_alike ..).length_eq

theorem lower_prefix_iff (part back : List Char) :
    lowerFrom [] part <+: lowerFrom [] (part ++ back) ↔ Settled [] part back := by
  have length := length_lowerIn [] back part
  rw [← lowerIn_eq_lowerFrom_iff, lowerFrom_append]
  constructor
  · intro h
    have both := List.prefix_of_prefix_length_le (List.prefix_append _ _) h (by simp [length])
    exact both.eq_of_length length
  · intro same
    exact ⟨_, congrArg (· ++ _) same.symm⟩

theorem lower_suffix_iff (front part : List Char) :
    lowerFrom [] part <:+ lowerFrom [] (front ++ part) ↔ Settled front part [] := by
  have length := length_lowerIn front.reverse [] part
  have cut := lowerFrom_around front part []
  simp only [List.append_nil, lowerFrom] at cut
  rw [← lowerIn_eq_lowerFrom_iff, cut]
  constructor
  · intro h
    have both := List.suffix_of_suffix_length_le (List.suffix_append _ _) h (by simp [length])
    exact both.eq_of_length length
  · intro same
    exact ⟨_, congrArg (_ ++ ·) same.symm⟩

theorem lower_infix_of_settled {front part back : List Char} (h : Settled front part back) :
    lowerFrom [] part <:+: lowerFrom [] (front ++ part ++ back) := by
  rw [lowerFrom_around, (lowerIn_eq_lowerFrom_iff front part back).2 h]
  exact List.infix_append _ _ _

theorem lowerAt_letter (before after : List Char) : lowerAt before 'A' after = ['a'] := by
  have small : smallLetter 'A' = 'a' := by decide +kernel
  simp [lowerAt, small]

/-- A text whose sigmas are not settled in another is missing from the small form of some text that
contains it. -/
theorem settled_of_lower_infix {part : List Char}
    (h : ∀ front back, lowerFrom [] part <:+: lowerFrom [] (front ++ part ++ back))
    (front back : List Char) : Settled front part back := by
  by_contra unsettled
  rcases unsettled_by_letter unsettled with before | after
  · have within : lowerFrom [] part <:+: 'a' :: lowerFrom ['A'] part := by
      simpa [lowerFrom, lowerAt_letter] using h ['A'] []
    have alike := lowerIn_alike [] [] ['A'] [] part
    rw [lowerIn_nil, lowerIn_nil] at alike
    refine before ((lowerIn_eq_lowerFrom_iff _ _ _).1 ?_)
    rw [lowerIn_nil]
    rcases List.infix_cons_iff.1 within with first | later
    · exact (eq_of_prefix_letter (by decide) alike first).symm
    · exact (later.eq_of_length alike.length_eq).symm
  · have within : lowerFrom [] part <:+: lowerIn [] ['A'] part ++ ['a'] := by
      simpa [lowerFrom_append, lowerFrom, lowerAt_letter] using h [] ['A']
    have alike := lowerIn_alike [] [] [] ['A'] part
    rw [lowerIn_nil] at alike
    refine after ((lowerIn_eq_lowerFrom_iff _ _ _).1 ?_)
    rcases List.infix_concat_iff.1 within with last | earlier
    · -- Read backwards, the letter stands in front.
      have first := List.reverse_prefix.2 last
      rw [List.reverse_append] at first
      have same := eq_of_prefix_letter (by decide) (List.forall₂_reverse_iff.2 alike) first
      exact (List.reverse_injective same).symm
    · exact (earlier.eq_of_length alike.length_eq).symm

end Registrar.Text
