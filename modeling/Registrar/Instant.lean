import Registrar.Text.Blank
import Registrar.Number.Digits

/-!
Points in time on the proleptic Gregorian calendar, in UTC. A leap second is the last second of its
minute with a fraction of at least one whole second.
-/

namespace Registrar

/-- Whole seconds since the start of 1970, and a fraction in nanoseconds. -/
structure Instant where
  seconds : Int
  nanos : Nat
deriving DecidableEq, Repr, Inhabited

namespace Instant

/-- The day number of a civil date; day 0 is the first of January 1970. -/
def dayNumber (year : Int) (month day : Nat) : Int :=
  let y := if month ≤ 2 then year - 1 else year
  let era := y.fdiv 400
  let yearOfEra := y - era * 400
  let shifted : Int := if month > 2 then month - 3 else month + 9
  let dayOfYear := (153 * shifted + 2) / 5 + day - 1
  let dayOfEra := yearOfEra * 365 + yearOfEra / 4 - yearOfEra / 100 + dayOfYear
  era * 146097 + dayOfEra - 719468

def civilDate (number : Int) : Int × Nat × Nat :=
  let z := number + 719468
  let era := z.fdiv 146097
  let dayOfEra := (z - era * 146097).toNat
  let yearOfEra := (dayOfEra - dayOfEra / 1460 + dayOfEra / 36524 - dayOfEra / 146096) / 365
  let dayOfYear := dayOfEra - (365 * yearOfEra + yearOfEra / 4 - yearOfEra / 100)
  let shifted := (5 * dayOfYear + 2) / 153
  let day := dayOfYear - (153 * shifted + 2) / 5 + 1
  let month := if shifted < 10 then shifted + 3 else shifted - 9
  let year : Int := yearOfEra + era * 400
  (if month ≤ 2 then year + 1 else year, month, day)

def isLeapYear (year : Int) : Bool :=
  year % 4 == 0 && (year % 100 != 0 || year % 400 == 0)

def daysIn (year : Int) (month : Nat) : Nat :=
  match month with
  | 2 => if isLeapYear year then 29 else 28
  | 4 | 6 | 9 | 11 => 30
  | _ => 31

def yearInRange (year : Int) : Bool := -262143 ≤ year && year ≤ 262142

/-! ### Writing -/

/-- A number with leading zeros up to the given width. -/
def padded (width n : Nat) : List Char :=
  let digits := Nat.toDigits 10 n
  List.replicate (width - digits.length) '0' ++ digits

/-- Years outside four digits carry a sign. -/
def yearText (year : Int) : List Char :=
  if 0 ≤ year ∧ year ≤ 9999 then padded 4 year.toNat
  else (if year < 0 then '-' else '+') :: padded 4 year.natAbs

/-- The fewest of 0, 3, 6 or 9 places that hold the fraction. -/
def fractionText (nanos : Nat) : List Char :=
  if nanos = 0 then []
  else if nanos % 1000000 = 0 then '.' :: padded 3 (nanos / 1000000)
  else if nanos % 1000 = 0 then '.' :: padded 6 (nanos / 1000)
  else '.' :: padded 9 nanos

def clockText (t : Instant) : List Char :=
  let day := t.seconds.fdiv 86400
  let time := (t.seconds - day * 86400).toNat
  let (year, month, dayOfMonth) := civilDate day
  let leap := t.nanos / 1000000000
  yearText year ++ '-' :: padded 2 month ++ '-' :: padded 2 dayOfMonth ++
    'T' :: padded 2 (time / 3600) ++ ':' :: padded 2 (time / 60 % 60) ++
    ':' :: padded 2 (time % 60 + leap) ++ fractionText (t.nanos % 1000000000)

/-- The text of an instant in a record: in UTC, marked by `Z`. -/
def text (t : Instant) : String := String.ofList (t.clockText ++ ['Z'])

def offsetText (t : Instant) : String := String.ofList (t.clockText ++ "+00:00".toList)

/-! ### Reading -/

/-- At least one and at most `most` digits. -/
def number? (most : Nat) (s : List Char) : Option (Nat × List Char) :=
  let digits := (s.takeWhile Char.isDigit).take most
  if digits.isEmpty then none
  else some (Number.digitsValue digits, s.drop digits.length)

def item? (most : Nat) (s : List Char) : Option (Nat × List Char) := number? most (Text.trimStart s)

/-- A year: four digits, or any number of them behind a sign. -/
def year? (s : List Char) : Option (Int × List Char) :=
  match Text.trimStart s with
  | '-' :: r => (number? r.length r).map fun (n, r) => (-(n : Int), r)
  | '+' :: r => (number? r.length r).map fun (n, r) => ((n : Int), r)
  | r => (number? 4 r).map fun (n, r) => ((n : Int), r)

def mark? (c : Char) (s : List Char) : Option (List Char) :=
  match Text.trimStart s with
  | d :: r => if d = c then some r else none
  | [] => none

/-- A fraction of a second: nine places count, further ones are dropped. -/
def fraction? : List Char → Option (Nat × List Char)
  | '.' :: r =>
    match number? 9 r with
    | some (n, rest) =>
      let places := r.length - rest.length
      some (n * Nat.pow 10 (9 - places), rest.dropWhile Char.isDigit)
    | none => none
  | r => some (0, r)

/-- An offset from UTC in seconds: `Z`, or hours and minutes behind a sign. -/
def offset? : List Char → Option (Int × List Char)
  | 'Z' :: r => some (0, r)
  | 'z' :: r => some (0, r)
  | c :: h :: i :: r =>
    if (c = '+' ∨ c = '-' ∨ c = '−') ∧ h.isDigit ∧ i.isDigit then
      match r.dropWhile fun c => c == ':' || Text.isBlank c with
      | m :: n :: r =>
        if m.isDigit ∧ m ≤ '5' ∧ n.isDigit then
          let size : Int := Number.digitsValue [h, i] * 3600 + Number.digitsValue [m, n] * 60
          some (if c = '+' then size else -size, r)
        else none
      | _ => none
    else none
  | _ => none

/-- The offset at the end of a time; `UTC`, in any case, stands for none. -/
def zone? (s : List Char) : Option (Int × List Char) :=
  let s := Text.trimStart s
  if (s.take 3).map Char.toUpper = ['U', 'T', 'C'] then some (0, s.drop 3) else offset? s

/-- The instant of a date and time with an offset, when there is one. -/
def ofParts? (year : Int) (month day hour minute second nanos : Nat) (offset : Int) :
    Option Instant :=
  if yearInRange year ∧ 1 ≤ month ∧ month ≤ 12 ∧ 1 ≤ day ∧ day ≤ daysIn year month
      ∧ hour ≤ 23 ∧ minute ≤ 59 ∧ second ≤ 60 ∧ offset.natAbs < 86400 then
    let leap := if second = 60 then 1 else 0
    let time : Int := hour * 3600 + minute * 60 + (second - leap : Nat)
    let seconds := dayNumber year month day * 86400 + time - offset
    if yearInRange (civilDate (seconds.fdiv 86400)).1 then
      some ⟨seconds, nanos + leap * 1000000000⟩
    else none
  else none

/-- Reads a date, one of `T`, `t` and a blank, a time of day and an offset, and passes over blanks
behind it. -/
def read? (s : String) : Option Instant := do
  let (year, r) ← year? s.toList
  let r ← mark? '-' r
  let (month, r) ← item? 2 r
  let r ← mark? '-' r
  let (day, r) ← item? 2 r
  let r ←
    match r with
    | c :: r => if c = 'T' ∨ c = 't' ∨ c = ' ' then some r else none
    | [] => none
  let (hour, r) ← item? 2 r
  let r ← mark? ':' r
  let (minute, r) ← item? 2 r
  let r ← mark? ':' r
  let (second, r) ← item? 2 r
  let (nanos, r) ← fraction? r
  let (offset, r) ← zone? r
  if (Text.trimStart r).isEmpty then ofParts? year month day hour minute second nanos offset
  else none

end Instant
end Registrar
