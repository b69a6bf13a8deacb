import Registrar.Number.Digits
import Registrar.Number.Shortest

/-!
Writing floating point numbers: which magnitudes are written with all their places, and how the
others show their exponent.
-/

namespace Registrar.Number

/-- Numbers whose leading digit stands for `10 ^ k` are written with all their places when
`least ≤ k ≤ most`; whole ones then end in `.0` if `wholePoint` says so. -/
structure Layout where
  least : Int
  most : Int
  wholePoint : Bool

/-- The text of a data value: a float always looks like one. -/
def Layout.data : Layout := ⟨-5, 15, true⟩

/-- All places, without an exponent. -/
def Layout.places : Layout := ⟨-1100, 1100, false⟩

def zeros (n : Nat) : List Char := List.replicate n '0'

/-- `digits * 10 ^ exponent` with all its places. -/
def placed (wholePoint : Bool) (digits : List Char) (exponent : Int) : List Char :=
  let whole := (digits.length : Int) + exponent
  if 0 ≤ exponent then
    digits ++ zeros exponent.toNat ++ if wholePoint then ['.', '0'] else []
  else if 0 < whole then digits.take whole.toNat ++ '.' :: digits.drop whole.toNat
  else '0' :: '.' :: zeros (-whole).toNat ++ digits

/-- One digit before the point, and the exponent with its sign. -/
def scientific (digits : List Char) (power : Int) : List Char :=
  let mantissa :=
    match digits with
    | d :: e :: r => d :: '.' :: e :: r
    | r => r
  let sign := if power < 0 then '-' else '+'
  mantissa ++ 'e' :: sign :: Nat.toDigits 10 power.natAbs

def Layout.write (layout : Layout) (d : Decimal) : List Char :=
  let digits := Nat.toDigits 10 d.digits
  let power := (digits.length : Int) + d.exponent - 1
  if layout.least ≤ power && power ≤ layout.most then
    placed layout.wholePoint digits d.exponent
  else scientific digits power

def Double.write (layout : Layout) : Double → String
  | .nan => "NaN"
  | .infinite negative => if negative then "-inf" else "inf"
  | .finite negative mantissa exponent =>
    let sign := if negative then ['-'] else []
    let d := if mantissa = 0 then ⟨0, 0⟩ else shortest mantissa exponent
    String.ofList (sign ++ layout.write d)

def Double.text (x : Double) : String := x.write .data

end Registrar.Number
