/-!
Whole numbers in decimal text. Digits are the ten ASCII ones; a reader stops at the first character
that is no digit or that takes the value over its limit.
-/

namespace Registrar.Number

def maxInt32 : Nat := 2147483647
def maxInt64 : Nat := 9223372036854775807
def maxWord32 : Nat := 4294967295
def maxWord64 : Nat := 18446744073709551615

/-- Why a text is no whole number of the wanted range. -/
inductive IntFault where
  | empty
  | invalidDigit
  | tooLarge
  | tooSmall
deriving DecidableEq, Repr

def IntFault.message : IntFault → String
  | .empty => "cannot parse integer from empty string"
  | .invalidDigit => "invalid digit found in string"
  | .tooLarge => "number too large to fit in target type"
  | .tooSmall => "number too small to fit in target type"

def digit? (c : Char) : Option Nat :=
  if c.isDigit then some (c.toNat - '0'.toNat) else none

/-- Appends digits to `value`, which may not pass `limit`. -/
def readDigits (limit : Nat) (overflow : IntFault) (value : Nat) : List Char → Except IntFault Nat
  | [] => .ok value
  | c :: r =>
    match digit? c with
    | none => .error .invalidDigit
    | some d =>
      if limit < 10 * value + d then .error overflow
      else readDigits limit overflow (10 * value + d) r

/-- A number from 0 to `limit`, with an optional plus sign. -/
def readUnsigned (limit : Nat) : List Char → Except IntFault Nat
  | [] => .error .empty
  | ['+'] => .error .invalidDigit
  | '+' :: r => readDigits limit .tooLarge 0 r
  | r => readDigits limit .tooLarge 0 r

/-- A number from `-limit - 1` to `limit`, with an optional sign. -/
def readSigned (limit : Nat) : List Char → Except IntFault Int
  | [] => .error .empty
  | ['+'] => .error .invalidDigit
  | ['-'] => .error .invalidDigit
  | '+' :: r => (readDigits limit .tooLarge 0 r).map Int.ofNat
  | '-' :: r => (readDigits (limit + 1) .tooSmall 0 r).map fun n => -(n : Int)
  | r => (readDigits limit .tooLarge 0 r).map Int.ofNat

/-- The value of a digit string, whatever its length; characters that are no digits count as 0. -/
def digitsValue (s : List Char) : Nat :=
  s.foldl (fun value c => 10 * value + (digit? c).getD 0) 0

def natText (n : Nat) : String := String.ofList (Nat.toDigits 10 n)

def intText : Int → String
  | .ofNat n => natText n
  | .negSucc n => "-" ++ natText (n + 1)

/-- `n` lies in the range of 64-bit integers with a sign. -/
def fitsInt64 (n : Int) : Bool := -(maxInt64 : Int) - 1 ≤ n && n ≤ maxInt64

def fitsInt32 (n : Int) : Bool := -(maxInt32 : Int) - 1 ≤ n && n ≤ maxInt32

theorem readDigits_le {limit : Nat} {overflow : IntFault} {value n : Nat} {s : List Char}
    (h : readDigits limit overflow value s = .ok n) (hv : value ≤ limit) : n ≤ limit := by
  induction s generalizing value with
  | nil => simp [readDigits] at h; omega
  | cons c r ih =>
    unfold readDigits at h
    split at h
    · cases h
    · split at h
      · cases h
      · exact ih h (by omega)

theorem readUnsigned_le {limit n : Nat} {s : List Char} (h : readUnsigned limit s = .ok n) :
    n ≤ limit := by
  unfold readUnsigned at h
  split at h
  · cases h
  · cases h
  · exact readDigits_le h (Nat.zero_le _)
  · exact readDigits_le h (Nat.zero_le _)

end Registrar.Number
