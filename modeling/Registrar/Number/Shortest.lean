import Registrar.Number.Double

/-!
The shortest decimal that reads back as a given number: among the multiples of the coarsest power of
ten that has one inside the number's rounding interval, the nearest to the number.
-/

namespace Registrar.Number

structure Decimal where
  digits : Nat
  exponent : Int
deriving DecidableEq, Repr

/-- The reals that round to `mantissa * 2 ^ exponent`, in quarters of its last binary place. The
ends belong to the interval exactly when the mantissa is even. -/
structure RoundingInterval where
  low : Nat
  centre : Nat
  high : Nat
  closed : Bool

def RoundingInterval.ofNumber (mantissa : Nat) (exponent : Int) : RoundingInterval where
  low := 4 * mantissa - if mantissa = 1 <<< 52 ∧ -1074 < exponent then 1 else 2
  centre := 4 * mantissa
  high := 4 * mantissa + 2
  closed := mantissa % 2 = 0

/-- `n * step` lies in the interval stretched by `unit`. -/
def RoundingInterval.holds (i : RoundingInterval) (unit step n : Nat) : Bool :=
  if i.closed then i.low * unit ≤ n * step && n * step ≤ i.high * unit
  else i.low * unit < n * step && n * step < i.high * unit

/-- The multiple of `step` in the interval that is nearest to its centre. -/
def RoundingInterval.nearest? (i : RoundingInterval) (unit step : Nat) : Option Nat :=
  let below := i.centre * unit / step
  let above := below + 1
  match i.holds unit step below, i.holds unit step above with
  | true, true =>
    let left := i.centre * unit - below * step
    let right := above * step - i.centre * unit
    some (if left < right ∨ (left = right ∧ below % 2 = 0) then below else above)
  | true, false => some below
  | false, true => some above
  | false, false => none

/-- Tries the powers of ten from `10 ^ power` downwards. -/
def shortestFrom (i : RoundingInterval) (exponent : Int) : Nat → Int → Decimal
  | 0, power => ⟨0, power⟩
  | fuel + 1, power =>
    let unit := Nat.pow 10 (-power).toNat <<< (exponent - 2).toNat
    let step := Nat.pow 10 power.toNat <<< (2 - exponent).toNat
    match i.nearest? unit step with
    | some n => ⟨n, power⟩
    | none => shortestFrom i exponent fuel (power - 1)

/-- The shortest decimal of a positive number. Powers above 308 have no multiple in range, and every
number is itself a multiple of `10 ^ -1074`. -/
def shortest (mantissa : Nat) (exponent : Int) : Decimal :=
  shortestFrom (.ofNumber mantissa exponent) exponent 1400 308

end Registrar.Number
