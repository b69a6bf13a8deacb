import Registrar.Proofs.Instant.Clock
import Registrar.Proofs.Number.Whole

/-!
Whole numbers of any size as floating point numbers. Main statements: they keep their order but may
become equal, those below `2 ^ 53` never do, and the text of a number is read as what the number becomes.
-/

namespace Registrar.Number

variable {m n d : Nat}

theorem div_le_roundDiv (m d : Nat) : m / d ≤ roundDiv m d := by
  unfold roundDiv
  dsimp only
  split <;> omega

theorem roundDiv_le (m d : Nat) : roundDiv m d ≤ m / d + 1 := by
  unfold roundDiv
  dsimp only
  split <;> omega

theorem roundDiv_mono (h : m ≤ n) : roundDiv m d ≤ roundDiv n d := by
  rcases Nat.lt_or_eq_of_le (Nat.div_le_div_right (c := d) h) with below | same
  · exact (roundDiv_le m d).trans (Nat.le_trans below (div_le_roundDiv n d))
  · have rest : m % d ≤ n % d := by
      have first := Nat.div_add_mod m d
      have second := Nat.div_add_mod n d
      rw [same] at first
      omega
    unfold roundDiv
    dsimp only
    rw [same]
    split <;> split <;> omega

/-- The nearest whole number with at most 53 binary digits before its zeros; of two as near the one whose
last digit is even. -/
def nearest (m : Nat) : Nat := roundDiv m (2 ^ (m.log2 - 52)) * 2 ^ (m.log2 - 52)

theorem nearest_of_short (h : m.log2 < 53) : nearest m = m := by
  have none : m.log2 - 52 = 0 := by omega
  rw [nearest, none, Nat.pow_zero, roundDiv_one, Nat.mul_one]

/-- A number of 53 digits or more is rounded to 53 digits, or up to the power of two behind them. -/
theorem roundDiv_bounds (long : 52 ≤ m.log2) :
    2 ^ 52 ≤ roundDiv m (2 ^ (m.log2 - 52)) ∧ roundDiv m (2 ^ (m.log2 - 52)) ≤ 2 ^ 53 := by
  have positive : m ≠ 0 := by
    rintro rfl
    simp at long
  have width : 2 ^ 52 * 2 ^ (m.log2 - 52) = 2 ^ m.log2 := by
    rw [← Nat.pow_add]
    congr 1
    omega
  have low : 2 ^ 52 * 2 ^ (m.log2 - 52) ≤ m := by
    rw [width]
    exact Nat.log2_self_le positive
  have high : m < 2 ^ 53 * 2 ^ (m.log2 - 52) := by
    have next : m < 2 ^ (m.log2 + 1) := Nat.lt_log2_self
    omega
  have unit : 0 < 2 ^ (m.log2 - 52) := Nat.two_pow_pos _
  constructor
  · exact ((Nat.le_div_iff_mul_le unit).2 low).trans (div_le_roundDiv _ _)
  · exact (roundDiv_le _ _).trans ((Nat.div_lt_iff_lt_mul unit).2 high)

theorem nearest_le (m : Nat) : nearest m ≤ 2 ^ (m.log2 + 1) := by
  by_cases long : 52 ≤ m.log2
  · have width : 2 ^ 53 * 2 ^ (m.log2 - 52) = 2 ^ (m.log2 + 1) := by
      rw [← Nat.pow_add]
      congr 1
      omega
    rw [← width]
    exact Nat.mul_le_mul_right _ (roundDiv_bounds long).2
  · rw [nearest_of_short (by omega)]
    exact Nat.lt_log2_self.le

theorem le_nearest (h : m ≠ 0) : 2 ^ m.log2 ≤ nearest m := by
  by_cases long : 52 ≤ m.log2
  · have width : 2 ^ 52 * 2 ^ (m.log2 - 52) = 2 ^ m.log2 := by
      rw [← Nat.pow_add]
      congr 1
      omega
    rw [← width]
    exact Nat.mul_le_mul_right _ (roundDiv_bounds long).1
  · rw [nearest_of_short (by omega)]
    exact Nat.log2_self_le h

theorem nearest_mono (h : m ≤ n) : nearest m ≤ nearest n := by
  by_cases zero : m = 0
  · rw [zero]
    exact (nearest_of_short (by decide)).trans_le (Nat.zero_le _)
  have positive : n ≠ 0 := by omega
  have digits : m.log2 ≤ n.log2 := (Nat.le_log2 positive).2 ((Nat.log2_self_le zero).trans h)
  rcases Nat.lt_or_eq_of_le digits with fewer | same
  · calc nearest m
      _ ≤ 2 ^ (m.log2 + 1) := nearest_le m
      _ ≤ 2 ^ n.log2 := Nat.pow_le_pow_right (by decide) fewer
      _ ≤ nearest n := le_nearest positive
  · rw [nearest, nearest, same]
    exact Nat.mul_le_mul_right _ (roundDiv_mono h)

/-- What a whole number becomes; infinity stands at the first power of two that is out of range. -/
def held (n : Int) : Int :=
  if n < 0 then -(min (nearest n.natAbs) (1 <<< 1024) : Nat) else (min (nearest n.natAbs) (1 <<< 1024) : Nat)

theorem held_mono {m n : Int} (h : m ≤ n) : held m ≤ held n := by
  unfold held
  generalize 1 <<< 1024 = top
  by_cases negative : n < 0
  · have larger : nearest n.natAbs ≤ nearest m.natAbs := nearest_mono (by omega)
    rw [if_pos (by omega), if_pos negative]
    omega
  · by_cases below : m < 0
    · rw [if_pos below, if_neg negative]
      omega
    · have larger : nearest m.natAbs ≤ nearest n.natAbs := nearest_mono (by omega)
      rw [if_neg below, if_neg negative]
      omega

theorem held_of_short {n : Int} (h : n.natAbs.log2 < 53) : held n = n := by
  have small : n.natAbs ≤ 1 <<< 1024 := by
    have digits : 2 ^ (n.natAbs.log2 + 1) ≤ 2 ^ 53 := Nat.pow_le_pow_right (by decide) (by omega)
    exact Nat.lt_log2_self.le.trans (digits.trans (by decide))
  rw [held, nearest_of_short h, Nat.min_eq_left small]
  split <;> omega

/-- A number below `2 ^ 53` is the only one that becomes what it becomes. -/
theorem eq_of_held_eq {m n : Int} (small : n.natAbs < 2 ^ 53) (same : held m = held n) : m = n := by
  have short {k : Nat} (h : k < 2 ^ 53) : k.log2 < 53 := by
    by_cases zero : k = 0
    · rw [zero]
      decide
    · exact (Nat.log2_lt zero).2 h
  have edge : held (2 ^ 53) = 2 ^ 53 ∧ held (-2 ^ 53) = -2 ^ 53 := by decide +kernel
  rw [held_of_short (short small)] at same
  by_cases low : m.natAbs < 2 ^ 53
  · rwa [held_of_short (short low)] at same
  · rcases Int.le_total 0 m with positive | negative
    · have above := held_mono (show (2 ^ 53 : Int) ≤ m by omega)
      omega
    · have below := held_mono (show m ≤ (-2 ^ 53 : Int) by omega)
      omega

namespace Double

theorem one_shiftLeft_le {a b q k : Nat} (low : 2 ^ a ≤ q) (more : b ≤ k) :
    1 <<< (a + b) ≤ q * 2 ^ k := by
  rw [Nat.one_shiftLeft, Nat.pow_add]
  exact Nat.mul_le_mul low (Nat.pow_le_pow_right (by decide) more)

theorem le_one_shiftLeft {a b q k : Nat} (high : q ≤ 2 ^ a) (fewer : k ≤ b) :
    q * 2 ^ k ≤ 1 <<< (a + b) := by
  rw [Nat.one_shiftLeft, Nat.pow_add]
  exact Nat.mul_le_mul high (Nat.pow_le_pow_right (by decide) fewer)

theorem shiftLeft_add_eq_mul (q k b : Nat) : q <<< (k + b) = q * 2 ^ k * (1 <<< b) := by
  rw [Nat.shiftLeft_eq, Nat.one_shiftLeft, Nat.pow_add, Nat.mul_assoc]

theorem units?_inRange (negative : Bool) {q k : Nat} (low : 2 ^ 52 ≤ q) (high : q ≤ 2 ^ 53) :
    (inRange negative q k).units? =
      let size : Int := (min (q * 2 ^ k) (1 <<< 1024) * (1 <<< 1074) : Nat)
      some (if negative then -size else size) := by
  unfold inRange
  split
  · next out =>
    have above : 972 ≤ k := by omega
    have top : 1 <<< 1024 ≤ q * 2 ^ k := @one_shiftLeft_le 52 972 q k low above
    have unit : 1 <<< 2098 = (1 <<< 1024) * (1 <<< 1074) := by decide +kernel
    rw [units?, Nat.min_eq_right top, unit]
  · next inside =>
    have below : k ≤ 971 := by omega
    have top : q * 2 ^ k ≤ 1 <<< 1024 := @le_one_shiftLeft 53 971 q k high below
    have shift : ((k : Int) + 1074).toNat = k + 1074 := by omega
    rw [units?, Nat.min_eq_left top, shift, shiftLeft_add_eq_mul]

theorem ofRatio_of_long (negative : Bool) (long : 52 ≤ m.log2) :
    ∃ q k, 2 ^ 52 ≤ q ∧ q ≤ 2 ^ 53 ∧ q * 2 ^ k = nearest m ∧
      ofRatio negative m 1 = inRange negative q (k : Nat) := by
  have positive : m ≠ 0 := by
    rintro rfl
    simp at long
  have exponent : max ((m.log2 : Int) - 52) (-1074) = (m.log2 - 52 : Nat) := by omega
  have down : (-((m.log2 - 52 : Nat) : Int)).toNat = 0 := by omega
  have rounded : ofRatio negative m 1 =
      if roundDiv m (2 ^ (m.log2 - 52)) = 1 <<< 53 then
        inRange negative (1 <<< 52) ((m.log2 - 52 : Nat) + 1)
      else inRange negative (roundDiv m (2 ^ (m.log2 - 52))) (m.log2 - 52 : Nat) := by
    unfold ofRatio
    rw [if_neg positive, floorLog2_one positive]
    dsimp only
    rw [exponent, down, Int.toNat_natCast, Nat.shiftLeft_zero, Nat.one_shiftLeft]
  obtain ⟨low, high⟩ := roundDiv_bounds long
  rw [rounded]
  split
  · next carry =>
    refine ⟨1 <<< 52, m.log2 - 52 + 1, by decide, by decide, ?_, rfl⟩
    rw [nearest, carry, Nat.pow_succ']
    exact (Nat.mul_assoc _ 2 _).symm
  · exact ⟨_, _, low, high, rfl, rfl⟩

theorem units?_eq_held (n : Int) : (ofInt n).units? = some (held n * (1 <<< 1074 : Nat)) := by
  by_cases short : n.natAbs.log2 < 53
  · rw [units?_ofInt short, held_of_short short]
  · obtain ⟨q, k, low, high, value, same⟩ :=
      ofRatio_of_long (n < 0) (show 52 ≤ n.natAbs.log2 by omega)
    rw [ofInt, same, units?_inRange _ low high, value, held]
    generalize 1 <<< 1024 = top, 1 <<< 1074 = unit
    by_cases negative : n < 0
    · simp only [negative, decide_true, if_true, Int.neg_mul, Int.natCast_mul]
    · simp only [negative, decide_false, Bool.false_eq_true, if_false, Int.natCast_mul]

theorem compare?_ofInt_eq (m n : Int) :
    (ofInt m).compare? (ofInt n) = some (compare (held m) (held n)) := by
  have unit : (0 : Int) < (1 <<< 1074 : Nat) := Int.natCast_pos.2 (one_shiftLeft_pos 1074)
  rw [compare?, units?_eq_held, units?_eq_held]
  generalize ((1 <<< 1074 : Nat) : Int) = unit' at unit
  exact congrArg some (compare_mul_right unit _ _)

theorem ofRatio_of_huge (negative : Bool) (huge : 1024 ≤ m.log2) :
    ofRatio negative m 1 = .infinite negative := by
  have positive : m ≠ 0 := by
    rintro rfl
    simp at huge
  have exponent : max ((m.log2 : Int) - 52) (-1074) = m.log2 - 52 := by omega
  unfold ofRatio
  rw [if_neg positive, floorLog2_one positive]
  dsimp only
  rw [exponent]
  split
  · exact if_pos (by omega)
  · exact if_pos (by omega)

theorem log2_of_long_text (long : 310 < (Nat.toDigits 10 m).length) : 1024 ≤ m.log2 := by
  have size : 1 <<< 1024 ≤ 10 ^ 310 := by decide +kernel
  have huge : 10 ^ 310 ≤ m := by
    refine Nat.le_of_not_lt fun short => ?_
    exact Nat.not_lt.2 ((Nat.length_toDigits_le_iff (by decide) (by decide)).2 short) long
  rw [Nat.one_shiftLeft] at size
  have positive : m ≠ 0 := by
    rintro rfl
    exact absurd long (by decide)
  exact (Nat.le_log2 positive).2 (size.trans huge)

theorem ofDecimal_zero_exponent (negative : Bool) (m : Nat) :
    ofDecimal negative m 0 = ofRatio negative m 1 := by
  unfold ofDecimal
  dsimp only
  by_cases zero : m = 0
  · rw [if_pos (.inl zero), ofRatio, if_pos zero]
  · rw [if_neg (by omega)]
    split
    · next long => exact (ofRatio_of_huge negative (log2_of_long_text (by omega))).symm
    · rw [Int.toNat_zero, Int.neg_zero, Int.toNat_zero]
      exact congrArg (ofRatio negative · 1) (Nat.mul_one m)

end Double

theorem toLower_of_isDigit {c : Char} (h : c.isDigit) : c.toLower = c := by
  simp only [Char.isDigit, Bool.and_eq_true, decide_eq_true_eq, ge_iff_le, UInt32.le_iff_toNat_le] at h
  have high : c.toNat ≤ 57 := h.2
  have notUpper : ¬(65 ≤ c.toNat ∧ c.toNat ≤ 90) := by omega
  exact dif_neg notUpper

theorem readDouble?_of_sign {s r : List Char} {negative : Bool} (signed : sign s = (negative, r))
    (digits : ∀ c ∈ r, c.isDigit) (filled : r ≠ []) :
    readDouble? s = some (.ofDecimal negative (digitsValue r) 0) := by
  have small : r.map Char.toLower = r := by
    rw [List.map_congr_left fun c hc => toLower_of_isDigit (digits c hc), List.map_id']
  have noWord (word : List Char) (letter : ¬word.all Char.isDigit) : r ≠ word := by
    rintro rfl
    exact letter (List.all_eq_true.2 digits)
  have whole : spanDigits r = (r, []) := by
    rw [← List.append_nil r, spanDigits, List.takeWhile_append_of_pos digits,
      List.dropWhile_append_of_pos digits]
    rfl
  unfold readDouble?
  rw [signed]
  dsimp only
  rw [small, if_neg (not_or.2 ⟨noWord _ (by decide), noWord _ (by decide)⟩),
    if_neg (noWord _ (by decide)), decimal?, whole]
  simp [filled, exponent?]

theorem readDouble?_intText (n : Int) : readDouble? (intText n).toList = some (.ofInt n) := by
  have digits (m : Nat) : ∀ c ∈ Nat.toDigits 10 m, c.isDigit := fun c hc =>
    Nat.isDigit_of_mem_toDigits (by decide) (by decide) hc
  have value (m : Nat) : digitsValue (Nat.toDigits 10 m) = m := by
    rw [digitsValue_eq_ofDigitChars (digits m), Nat.ofDigitChars_ten_toDigits]
  cases n with
  | ofNat m =>
    have signed : sign (Nat.toDigits 10 m) = (false, Nat.toDigits 10 m) := by
      have digits := digits m
      cases shown : Nat.toDigits 10 m with
      | nil => exact absurd shown Nat.toDigits_ne_nil
      | cons c r =>
        have digit := digits c (shown ▸ List.mem_cons_self)
        unfold sign
        split
        · next eq =>
          cases eq
          exact absurd digit (by decide)
        · next eq =>
          cases eq
          exact absurd digit (by decide)
        · rfl
    rw [intText, natText, String.toList_ofList,
      readDouble?_of_sign signed (digits m) Nat.toDigits_ne_nil, value,
      Double.ofDecimal_zero_exponent]
    rfl
  | negSucc m =>
    have signed : sign ('-' :: Nat.toDigits 10 (m + 1)) = (true, Nat.toDigits 10 (m + 1)) := rfl
    have text : (intText (.negSucc m)).toList = '-' :: Nat.toDigits 10 (m + 1) := by
      simp [intText, natText]
    rw [text, readDouble?_of_sign signed (digits (m + 1)) Nat.toDigits_ne_nil, value,
      Double.ofDecimal_zero_exponent, Double.ofInt, decide_eq_true (Int.negSucc_lt_zero m),
      Int.natAbs_negSucc]

end Registrar.Number
