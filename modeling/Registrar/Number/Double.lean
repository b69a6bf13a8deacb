/-!
Binary floating point numbers of 64 bits, as a sign, a mantissa below `2 ^ 53` and an exponent of at
least `-1074`. All arithmetic is exact on natural numbers and rounded once, to the nearest number
with a tie going to the even mantissa. Main statement: a comparison in the other direction is the
reverse.
-/

namespace Registrar.Number

inductive Double where
  | nan
  | infinite (negative : Bool)
  /-- The value `± mantissa * 2 ^ exponent`. -/
  | finite (negative : Bool) (mantissa : Nat) (exponent : Int)
deriving DecidableEq, Repr, Inhabited

/-- The nearest natural number to `num / den`; a half goes to the even neighbour. -/
def roundDiv (num den : Nat) : Nat :=
  let q := num / den
  let r := num % den
  if 2 * r < den ∨ (2 * r = den ∧ q % 2 = 0) then q else q + 1

/-- The integer part of the binary logarithm of `num / den`, both positive. -/
def floorLog2 (num den : Nat) : Int :=
  let k : Int := (num.log2 : Int) - den.log2
  if den <<< k.toNat ≤ num <<< (-k).toNat then k else k - 1

namespace Double

def zero (negative : Bool) : Double := .finite negative 0 (-1074)

/-- Numbers with an exponent above 971 are out of range. -/
def inRange (negative : Bool) (mantissa : Nat) (exponent : Int) : Double :=
  if 971 < exponent then .infinite negative else .finite negative mantissa exponent

/-- The nearest number to `± num / den`. -/
def ofRatio (negative : Bool) (num den : Nat) : Double :=
  if num = 0 then zero negative
  else
    let e := max (floorLog2 num den - 52) (-1074)
    let q := roundDiv (num <<< (-e).toNat) (den <<< e.toNat)
    if q = 1 <<< 53 then inRange negative (1 <<< 52) (e + 1) else inRange negative q e

def ofInt (n : Int) : Double := ofRatio (n < 0) n.natAbs 1

/-- The nearest number to `± digits * 10 ^ exponent`. Magnitudes that certainly round to infinity or
to zero are settled before any power is computed. -/
def ofDecimal (negative : Bool) (digits : Nat) (exponent : Int) : Double :=
  let magnitude := ((Nat.toDigits 10 digits).length : Int) + exponent
  if digits = 0 ∨ magnitude < -330 then zero negative
  else if 310 < magnitude then .infinite negative
  else ofRatio negative (digits * Nat.pow 10 exponent.toNat) (Nat.pow 10 (-exponent).toNat)

def isFinite : Double → Bool
  | .finite .. => true
  | _ => false

/-- The value in units of the least positive number. Infinity stands at the first power of two that
is out of range; what is not a number has no value. -/
def units? : Double → Option Int
  | .nan => none
  | .infinite negative =>
    let n : Int := (1 <<< 2098 : Nat)
    some (if negative then -n else n)
  | .finite negative mantissa exponent =>
    let n : Int := (mantissa <<< (exponent + 1074).toNat : Nat)
    some (if negative then -n else n)

/-- The order of two numbers; nothing when one is not a number. -/
def compare? (x y : Double) : Option Ordering :=
  match x.units?, y.units? with
  | some a, some b => some (compare a b)
  | _, _ => none

/-- Numeric equality: the two zeros are equal. -/
def same (x y : Double) : Bool := compare? x y == some .eq

def times (x : Double) (num den : Nat) : Double :=
  match x with
  | .finite negative mantissa exponent =>
    ofRatio negative (mantissa <<< exponent.toNat * num) (den <<< (-exponent).toNat)
  | x => x

theorem compare?_swap (x y : Double) : compare? y x = (compare? x y).map Ordering.swap := by
  unfold compare?
  cases x.units? <;> cases y.units? <;> simp [Int.compare_swap]

end Double
end Registrar.Number
