import Registrar.Number.Digits
import Registrar.Number.Double

/-!
Whole numbers as floating point numbers. Main statement: numbers of 32 bits keep their order.
-/

namespace Registrar.Number

theorem floorLog2_one {m : Nat} (h : m ≠ 0) : floorLog2 m 1 = m.log2 := by
  have unit : Nat.log2 1 = 0 := by decide
  have below : 1 <<< m.log2 ≤ m := by
    rw [Nat.one_shiftLeft]
    exact Nat.log2_self_le h
  simp [floorLog2, unit, below]

theorem roundDiv_one (n : Nat) : roundDiv n 1 = n := by simp [roundDiv, Nat.mod_one]

theorem one_shiftLeft_pos (n : Nat) : 0 < 1 <<< n := by
  rw [Nat.one_shiftLeft]
  exact Nat.two_pow_pos n

theorem compare_mul_right {unit : Int} (positive : 0 < unit) (m n : Int) :
    compare (m * unit) (n * unit) = compare m n := by
  rcases Int.lt_trichotomy m n with lt | rfl | gt
  · rw [Int.compare_eq_lt.2 lt, Int.compare_eq_lt.2 (Int.mul_lt_mul_of_pos_right lt positive)]
  · rw [Int.compare_eq_eq.2 rfl, Int.compare_eq_eq.2 rfl]
  · rw [Int.compare_eq_gt.2 gt, Int.compare_eq_gt.2 (Int.mul_lt_mul_of_pos_right gt positive)]

namespace Double

theorem ofRatio_one (negative : Bool) {m : Nat} (h : m ≠ 0) (digits : m.log2 < 53) :
    ofRatio negative m 1 = .finite negative (m <<< (52 - m.log2)) (m.log2 - 52) := by
  have exponent : max ((m.log2 : Int) - 52) (-1074) = m.log2 - 52 := by omega
  have up : (-((m.log2 : Int) - 52)).toNat = 52 - m.log2 := by omega
  have down : ((m.log2 : Int) - 52).toNat = 0 := by omega
  have room : m <<< (52 - m.log2) ≠ 1 <<< 53 := by
    have next : m < 2 ^ (m.log2 + 1) := Nat.lt_log2_self
    have width : 2 ^ (m.log2 + 1) * 2 ^ (52 - m.log2) = 2 ^ 53 := by
      rw [← Nat.pow_add]
      congr 1
      omega
    have := Nat.mul_lt_mul_of_pos_right next (Nat.two_pow_pos (52 - m.log2))
    rw [Nat.shiftLeft_eq, Nat.one_shiftLeft]
    omega
  have inside : ¬971 < (m.log2 : Int) - 52 := by omega
  unfold ofRatio
  rw [if_neg h, floorLog2_one h]
  dsimp only
  rw [exponent, up, down, Nat.shiftLeft_zero, roundDiv_one, if_neg room, inRange, if_neg inside]

theorem units?_ofInt {n : Int} (digits : n.natAbs.log2 < 53) :
    (ofInt n).units? = some (n * (1 <<< 1074 : Nat)) := by
  by_cases h : n.natAbs = 0
  · obtain rfl := Int.natAbs_eq_zero.1 h
    simp [ofInt, ofRatio, Double.zero, units?]
  · have shift : ((n.natAbs.log2 : Int) - 52 + 1074).toNat = 1022 + n.natAbs.log2 := by omega
    have whole : n.natAbs <<< (52 - n.natAbs.log2) <<< (1022 + n.natAbs.log2) =
        n.natAbs * (1 <<< 1074) := by
      rw [← Nat.shiftLeft_add, Nat.shiftLeft_eq, Nat.one_shiftLeft]
      congr 2
      omega
    rw [ofInt, ofRatio_one _ h digits, units?, shift, whole]
    generalize 1 <<< 1074 = unit
    rw [Int.natCast_mul]
    congr 1
    by_cases negative : n < 0
    · simp only [negative, decide_true, if_true]
      rw [Int.ofNat_natAbs_of_nonpos (by omega), Int.neg_mul, Int.neg_neg]
    · simp only [negative, decide_false, Bool.false_eq_true, if_false]
      rw [Int.natAbs_of_nonneg (by omega)]

theorem compare?_ofInt {m n : Int} (hm : fitsInt32 m) (hn : fitsInt32 n) :
    (ofInt m).compare? (ofInt n) = some (compare m n) := by
  have digits {n : Int} (h : fitsInt32 n) : n.natAbs.log2 < 53 := by
    obtain ⟨low, high⟩ := (Bool.and_eq_true _ _).mp h
    have low := of_decide_eq_true low
    have high := of_decide_eq_true high
    simp only [maxInt32] at low high
    by_cases zero : n.natAbs = 0
    · rw [zero]
      decide
    · exact (Nat.log2_lt zero).2 (by omega)
  have unit : (0 : Int) < (1 <<< 1074 : Nat) := Int.natCast_pos.2 (one_shiftLeft_pos 1074)
  rw [compare?, units?_ofInt (digits hm), units?_ofInt (digits hn)]
  generalize ((1 <<< 1074 : Nat) : Int) = unit' at unit
  exact congrArg some (compare_mul_right unit m n)

end Double
end Registrar.Number
