import Mathlib.Data.List.Basic
import Registrar.Number.Digits
import Registrar.Text.Blank

/-!
Decimal texts of whole numbers. Main statements: the readers of numbers accept digits behind an optional
sign whose value is within the limit, however many zeros lead them, and nothing else; and a number is what
its own text is read as.
-/

namespace Registrar.Number

variable {limit n value : Nat} {overflow : IntFault} {c : Char} {ds r s : List Char}

theorem not_isBlank_of_isDigit {c : Char} (h : c.isDigit) : Text.isBlank c = false := by
  obtain ⟨low, high⟩ := Char.isDigit_iff_toNat.1 h
  have low : 48 ≤ c.toNat := low
  have high : c.toNat ≤ 57 := high
  simp only [Text.isBlank, Bool.or_eq_false_iff, Bool.and_eq_false_iff, decide_eq_false_iff_not,
    beq_eq_false_iff_ne]
  omega

theorem ne_plus_of_isDigit (h : c.isDigit) : c ≠ '+' := by
  rintro rfl
  exact absurd h (by decide)

theorem ne_minus_of_isDigit (h : c.isDigit) : c ≠ '-' := by
  rintro rfl
  exact absurd h (by decide)

theorem le_ofDigitChars (ds : List Char) (value : Nat) : value ≤ Nat.ofDigitChars 10 ds value := by
  induction ds generalizing value with
  | nil => exact Nat.le_refl _
  | cons c r ih =>
    have further := ih (10 * value + (c.toNat - '0'.toNat))
    rw [Nat.ofDigitChars_cons]
    omega

theorem eq_zeros_of_ofDigitChars (digits : ∀ c ∈ ds, c.isDigit)
    (zero : Nat.ofDigitChars 10 ds 0 = 0) : ds = List.replicate ds.length '0' := by
  induction ds with
  | nil => rfl
  | cons c r ih =>
    obtain ⟨low, _⟩ := Char.isDigit_iff_toNat.1 (digits c List.mem_cons_self)
    have rest := le_ofDigitChars r (10 * 0 + (c.toNat - '0'.toNat))
    rw [Nat.ofDigitChars_cons] at zero
    obtain rfl : c = '0' := Char.toNat_inj.1 (by omega)
    rw [List.length_cons, List.replicate_succ, ← ih (fun d hd => digits d (by simp [hd])) zero]

theorem digitsValue_eq_ofDigitChars {ds : List Char} (digits : ∀ c ∈ ds, c.isDigit) :
    digitsValue ds = Nat.ofDigitChars 10 ds 0 := by
  -- From any value that is read so far.
  have all (value : Nat) : ds.foldl (fun value c => 10 * value + (digit? c).getD 0) value =
      Nat.ofDigitChars 10 ds value := by
    unfold Nat.ofDigitChars
    induction ds generalizing value with
    | nil => rfl
    | cons c r ih =>
      have first : (digit? c).getD 0 = c.toNat - '0'.toNat := by
        simp [digit?, digits c List.mem_cons_self]
      rw [List.foldl_cons, List.foldl_cons, first]
      exact ih (fun c hc => digits c (List.mem_cons_of_mem _ hc)) _
  exact all 0

theorem digitsValue_zeros (n : Nat) (ds : List Char) :
    digitsValue (List.replicate n '0' ++ ds) = digitsValue ds := by
  induction n with
  | zero => rfl
  | succ n ih => exact ih

theorem digit?_le (c : Char) : (digit? c).getD 0 ≤ 9 := by
  unfold digit?
  split
  · next digit =>
    obtain ⟨_, high⟩ := Char.isDigit_iff_toNat.1 digit
    exact Nat.sub_le_of_le_add high
  · exact Nat.zero_le 9

theorem digitsValue_lt (ds : List Char) : digitsValue ds < Nat.pow 10 ds.length := by
  -- From any value that is read so far.
  have all (value : Nat) : ds.foldl (fun value c => 10 * value + (digit? c).getD 0) value <
      (value + 1) * Nat.pow 10 ds.length := by
    induction ds generalizing value with
    | nil => simp
    | cons c r ih =>
      have first := digit?_le c
      have next : 10 * value + (digit? c).getD 0 + 1 ≤ (value + 1) * 10 := by omega
      have tens : Nat.pow 10 (c :: r).length = 10 * Nat.pow 10 r.length := Nat.pow_succ'
      rw [tens, ← Nat.mul_assoc]
      exact Nat.lt_of_lt_of_le (ih _) (Nat.mul_le_mul_right _ next)
  have whole := all 0
  rwa [Nat.zero_add, Nat.one_mul] at whole

/-- Digits, one at least, of the given value. -/
structure IsDecimal (ds : List Char) (n : Nat) : Prop where
  filled : ds ≠ []
  digits : ∀ c ∈ ds, c.isDigit
  value : Nat.ofDigitChars 10 ds 0 = n

/-- Digits of the given value, with a plus in front or not. -/
def IsNumeral (s : List Char) (n : Nat) : Prop := ∃ ds, (s = ds ∨ s = '+' :: ds) ∧ IsDecimal ds n

theorem isNumeral_plus_iff : IsNumeral ('+' :: r) n ↔ IsDecimal r n := by
  constructor
  · rintro ⟨ds, rfl | same, decimal⟩
    · exact absurd rfl (ne_plus_of_isDigit (decimal.digits '+' List.mem_cons_self))
    · obtain rfl := List.tail_eq_of_cons_eq same
      exact decimal
  · exact fun decimal => ⟨r, .inr rfl, decimal⟩

theorem isNumeral_iff_of_unsigned (h : s.head? ≠ some '+') : IsNumeral s n ↔ IsDecimal s n := by
  constructor
  · rintro ⟨ds, rfl | rfl, decimal⟩
    · exact decimal
    · exact absurd rfl h
  · exact fun decimal => ⟨s, .inl rfl, decimal⟩

theorem IsNumeral.unsigned (h : IsNumeral s n) : s.head? ≠ some '-' := by
  obtain ⟨ds, rfl | rfl, decimal⟩ := h
  · intro minus
    exact ne_minus_of_isDigit (decimal.digits '-' (List.mem_of_mem_head? minus)) rfl
  · simp

theorem IsNumeral.value_unique {m : Nat} (hm : IsNumeral s m) (hn : IsNumeral s n) : m = n := by
  by_cases plus : s.head? = some '+'
  · obtain ⟨r, rfl⟩ := List.head?_eq_some_iff.1 plus
    exact (isNumeral_plus_iff.1 hm).value.symm.trans (isNumeral_plus_iff.1 hn).value
  · exact ((isNumeral_iff_of_unsigned plus).1 hm).value.symm.trans
      ((isNumeral_iff_of_unsigned plus).1 hn).value

theorem isNumeral_zero_iff : IsNumeral s 0 ↔
    ∃ k, 0 < k ∧ (s = List.replicate k '0' ∨ s = '+' :: List.replicate k '0') := by
  constructor
  · rintro ⟨ds, shown, filled, digits, value⟩
    refine ⟨ds.length, List.length_pos_iff.2 filled, ?_⟩
    rwa [← eq_zeros_of_ofDigitChars digits value]
  · rintro ⟨k, positive, shown⟩
    refine ⟨List.replicate k '0', shown, ?_, ?_, ?_⟩
    · simpa using Nat.ne_of_gt positive
    · intro c hc
      rw [List.eq_of_mem_replicate hc]
      rfl
    · simp

theorem readDigits_eq_ok_iff (start : value ≤ limit) :
    readDigits limit overflow value ds = .ok n ↔
      (∀ c ∈ ds, c.isDigit) ∧ Nat.ofDigitChars 10 ds value = n ∧ n ≤ limit := by
  induction ds generalizing value with
  | nil =>
    simp only [readDigits, Nat.ofDigitChars_nil]
    constructor
    · rintro ⟨⟩
      exact ⟨by simp, rfl, start⟩
    · rintro ⟨_, rfl, _⟩
      rfl
  | cons c r ih =>
    unfold readDigits
    by_cases digit : c.isDigit
    · have first : digit? c = some (c.toNat - '0'.toNat) := by simp [digit?, digit]
      have below := le_ofDigitChars r (10 * value + (c.toNat - '0'.toNat))
      rw [first, Nat.ofDigitChars_cons]
      dsimp only
      split
      · next beyond =>
        constructor
        · rintro ⟨⟩
        · rintro ⟨_, same, within⟩
          omega
      · next within =>
        rw [ih (Nat.not_lt.1 within), List.forall_mem_cons]
        simp [digit]
    · have first : digit? c = none := by simp [digit?, digit]
      rw [first]
      constructor
      · rintro ⟨⟩
      · rintro ⟨digits, _⟩
        exact absurd (digits c List.mem_cons_self) digit

theorem readDigits_eq_ok_iff_isDecimal (filled : ds ≠ []) :
    readDigits limit overflow 0 ds = .ok n ↔ IsDecimal ds n ∧ n ≤ limit := by
  rw [readDigits_eq_ok_iff (Nat.zero_le _)]
  exact ⟨fun ⟨digits, value, within⟩ => ⟨⟨filled, digits, value⟩, within⟩,
    fun ⟨decimal, within⟩ => ⟨decimal.digits, decimal.value, within⟩⟩

theorem readUnsigned_eq_ok_iff : readUnsigned limit s = .ok n ↔ IsNumeral s n ∧ n ≤ limit := by
  unfold readUnsigned
  split
  · rw [isNumeral_iff_of_unsigned (by simp)]
    exact ⟨nofun, fun ⟨decimal, _⟩ => absurd rfl decimal.filled⟩
  · rw [isNumeral_plus_iff]
    exact ⟨nofun, fun ⟨decimal, _⟩ => absurd rfl decimal.filled⟩
  · next r filled =>
    rw [isNumeral_plus_iff]
    exact readDigits_eq_ok_iff_isDecimal filled
  · next filled _ unsigned =>
    have plain : s.head? ≠ some '+' := fun plus => by
      obtain ⟨r, rfl⟩ := List.head?_eq_some_iff.1 plus
      exact unsigned r rfl
    rw [isNumeral_iff_of_unsigned plain]
    exact readDigits_eq_ok_iff_isDecimal filled

theorem readSigned_of_unsigned (h : s.head? ≠ some '-') :
    readSigned limit s = (readUnsigned limit s).map Int.ofNat := by
  unfold readSigned
  split
  · rfl
  · rfl
  · exact absurd rfl h
  · next r filled => rw [readUnsigned.eq_3 limit r filled]
  · exact absurd rfl h
  · next filled single _ unsigned _ =>
    rw [readUnsigned.eq_4 limit s filled single unsigned]

theorem readSigned_minus (filled : r ≠ []) : readSigned limit ('-' :: r) =
    (readDigits (limit + 1) .tooSmall 0 r).map fun n => -(n : Int) :=
  readSigned.eq_5 limit r filled

theorem readSigned_eq_ok_iff_of_unsigned {m : Int} (h : s.head? ≠ some '-') :
    readSigned limit s = .ok m ↔ ∃ n, IsNumeral s n ∧ n ≤ limit ∧ m = n := by
  rw [readSigned_of_unsigned h]
  constructor
  · intro read
    cases unsigned : readUnsigned limit s with
    | error fault => simp [unsigned, Except.map] at read
    | ok n =>
      obtain ⟨numeral, within⟩ := readUnsigned_eq_ok_iff.1 unsigned
      rw [unsigned] at read
      cases read
      exact ⟨n, numeral, within, rfl⟩
  · rintro ⟨n, numeral, within, rfl⟩
    rw [readUnsigned_eq_ok_iff.2 ⟨numeral, within⟩]
    rfl

theorem isDigit_of_mem_natText {n : Nat} {c : Char} (h : c ∈ (natText n).toList) : c.isDigit := by
  rw [natText, String.toList_ofList] at h
  exact Nat.isDigit_of_mem_toDigits (by decide) (by decide) h

theorem isDecimal_natText (k n : Nat) :
    IsDecimal (List.replicate k '0' ++ (natText n).toList) n where
  filled := by simp [natText, Nat.toDigits_ne_nil]
  digits c hc := by
    rcases List.mem_append.1 hc with zero | digit
    · rw [List.eq_of_mem_replicate zero]
      rfl
    · exact isDigit_of_mem_natText digit
  value := by simp [natText, Nat.ofDigitChars_append, Nat.ofDigitChars_ten_toDigits]

theorem isNumeral_natText (n : Nat) : IsNumeral (natText n).toList n :=
  ⟨_, .inl rfl, isDecimal_natText 0 n⟩

theorem readUnsigned_natText {limit n : Nat} (h : n ≤ limit) :
    readUnsigned limit (natText n).toList = .ok n :=
  readUnsigned_eq_ok_iff.2 ⟨isNumeral_natText n, h⟩

theorem readSigned_natText {limit n : Nat} (h : n ≤ limit) :
    readSigned limit (natText n).toList = .ok n :=
  (readSigned_eq_ok_iff_of_unsigned (isNumeral_natText n).unsigned).2
    ⟨n, isNumeral_natText n, h, rfl⟩

theorem fits_of_readSigned {s : List Char} {n : Int} (h : readSigned maxInt64 s = .ok n) :
    fitsInt64 n := by
  simp only [fitsInt64, Bool.and_eq_true, decide_eq_true_eq]
  by_cases minus : s.head? = some '-'
  · obtain ⟨r, rfl⟩ := List.head?_eq_some_iff.1 minus
    cases r with
    | nil => cases h
    | cons c r =>
      rw [readSigned_minus (List.cons_ne_nil c r)] at h
      cases read : readDigits (maxInt64 + 1) .tooSmall 0 (c :: r) with
      | error fault => simp [read, Except.map] at h
      | ok m =>
        rw [read] at h
        have below := readDigits_le read (Nat.zero_le _)
        obtain rfl : -(m : Int) = n := Except.ok.inj h
        omega
  · obtain ⟨m, _, within, rfl⟩ := (readSigned_eq_ok_iff_of_unsigned minus).1 h
    omega

end Registrar.Number
