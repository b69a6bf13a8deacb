import Registrar.Text.Pieces
import Registrar.Number.Digits
import Registrar.Number.Double

/-!
Reading a floating point number from text: an optional sign, digits with an optional point among or
around them, an optional exponent; or, in any case, `inf`, `infinity` and `nan`.
-/

namespace Registrar.Number

/-- A leading minus, and the text behind the sign. -/
def sign : List Char → Bool × List Char
  | '-' :: r => (true, r)
  | '+' :: r => (false, r)
  | r => (false, r)

def spanDigits (s : List Char) : List Char × List Char :=
  (s.takeWhile Char.isDigit, s.dropWhile Char.isDigit)

/-- The exponent part that ends a numeral; none counts as zero. -/
def exponent? : List Char → Option Int
  | [] => some 0
  | c :: r =>
    if c = 'e' ∨ c = 'E' then
      let (negative, r) := sign r
      match spanDigits r with
      | ([], _) => none
      | (digits, []) =>
        let n : Int := digitsValue digits
        some (if negative then -n else n)
      | _ => none
    else none

/-- Digits with a point and an exponent, without a sign. -/
def decimal? (negative : Bool) (s : List Char) : Option Double :=
  let (whole, r) := spanDigits s
  let (fraction, r) :=
    match r with
    | '.' :: r => spanDigits r
    | r => ([], r)
  if whole.isEmpty && fraction.isEmpty then none
  else
    (exponent? r).map fun e =>
      .ofDecimal negative (digitsValue (whole ++ fraction)) (e - fraction.length)

def readDouble? (s : List Char) : Option Double :=
  let (negative, r) := sign s
  let word := r.map Char.toLower
  if word = "inf".toList ∨ word = "infinity".toList then some (.infinite negative)
  else if word = "nan".toList then some .nan
  else decimal? negative r

end Registrar.Number
