import Registrar.Json.Value
import Registrar.Number.Numeral

/-!
Reading a data value from its text. Nothing but blanks may follow the value, lists and objects may
be nested 127 deep, of two entries with one key the later counts, and escaped surrogates come in
pairs.
-/

namespace Registrar.Json

open Number

def isGap (c : Char) : Bool := c == ' ' || c == '\t' || c == '\n' || c == '\r'

def skipGaps (s : List Char) : List Char := s.dropWhile isGap

/-! ### Texts -/

def hexValue? (c : Char) : Option Nat :=
  if c.isDigit then some (c.toNat - '0'.toNat)
  else if 'a' ≤ c ∧ c ≤ 'f' then some (c.toNat - 'a'.toNat + 10)
  else if 'A' ≤ c ∧ c ≤ 'F' then some (c.toNat - 'A'.toNat + 10)
  else none

def unit? : List Char → Option (Nat × List Char)
  | a :: b :: c :: d :: r => do
    let a ← hexValue? a
    let b ← hexValue? b
    let c ← hexValue? c
    let d ← hexValue? d
    return (4096 * a + 256 * b + 16 * c + d, r)
  | _ => none

/-- The character of an escape, from behind its backslash. -/
def escaped? : List Char → Option (Char × List Char)
  | '"' :: r => some ('"', r)
  | '\\' :: r => some ('\\', r)
  | '/' :: r => some ('/', r)
  | 'b' :: r => some ('\x08', r)
  | 'f' :: r => some ('\x0c', r)
  | 'n' :: r => some ('\n', r)
  | 'r' :: r => some ('\r', r)
  | 't' :: r => some ('\t', r)
  | 'u' :: r =>
    match unit? r with
    | some (high, r) =>
      if 0xD800 ≤ high ∧ high < 0xDC00 then
        match r with
        | '\\' :: 'u' :: r =>
          match unit? r with
          | some (low, r) =>
            if 0xDC00 ≤ low ∧ low < 0xE000 then
              some (Char.ofNat (0x10000 + (high - 0xD800) * 0x400 + (low - 0xDC00)), r)
            else none
          | none => none
        | _ => none
      else if 0xDC00 ≤ high ∧ high < 0xE000 then none
      else some (Char.ofNat high, r)
    | none => none
  | _ => none

/-- The characters up to the closing quote, one unit of fuel for each. -/
def chars? : Nat → List Char → Option (List Char × List Char)
  | 0, _ => none
  | _, [] => none
  | _, '"' :: r => some ([], r)
  | fuel + 1, '\\' :: r => do
    let (c, r) ← escaped? r
    let (cs, r) ← chars? fuel r
    return (c :: cs, r)
  | fuel + 1, c :: r =>
    if c.toNat < 0x20 then none
    else do
      let (cs, r) ← chars? fuel r
      return (c :: cs, r)

def string? (fuel : Nat) (s : List Char) : Option (String × List Char) := do
  let (cs, r) ← chars? fuel s
  return (String.ofList cs, r)

/-! ### Numbers -/

/-- Appends digits to a significand of 64 bits as long as it does not overflow, and tells how many
digits were used. -/
def gather (value : Nat) : List Char → Nat × Nat
  | [] => (value, 0)
  | c :: r =>
    let next := 10 * value + (digit? c).getD 0
    if maxWord64 < next then (value, 0)
    else
      let (value, used) := gather next r
      (value, used + 1)

/-- `significand * 10 ^ exponent`: the significand and the power of ten are rounded first, then
their product or quotient; `fuel` bounds the steps of `10 ^ 308` taken by a small exponent. -/
def scaled? (x : Double) (exponent : Int) : Nat → Option Double
  | 0 => some x
  | fuel + 1 =>
    if exponent.natAbs ≤ 308 then
      match Double.ofRatio false (Nat.pow 10 exponent.natAbs) 1 with
      | .finite _ mantissa e =>
        let up := mantissa <<< e.toNat
        let down := 1 <<< (-e).toNat
        let y := if 0 ≤ exponent then x.times up down else x.times down up
        if y.isFinite then some y else none
      | _ => none
    else if x.same (.zero false) then some x
    else if 0 < exponent then none
    else
      match Double.ofRatio false (Nat.pow 10 308) 1 with
      | .finite _ mantissa e => scaled? (x.times 1 (mantissa <<< e.toNat)) (exponent + 308) fuel
      | _ => none

/-- The float with the given digits before and behind the point and the given exponent. Digits that
no longer fit 64 bits are left out, those before the point with their weight. -/
def float? (negative : Bool) (whole fraction : List Char) (exponent : Int) : Option Double :=
  let (significand, used) := gather 0 whole
  let weight := whole.length - used
  let (significand, used) := gather significand fraction
  let exponent := exponent + weight - used
  if significand ≠ 0 ∧ (maxInt32 : Int) < exponent then none
  else
    let x := scaled? (.ofInt significand) (max exponent (-2000)) 10
    match x with
    | some (.finite _ mantissa e) => some (.finite negative mantissa e)
    | _ => none

/-- Digits behind a point: at least one. -/
def fraction? : List Char → Option (List Char × List Char)
  | '.' :: r =>
    match spanDigits r with
    | ([], _) => none
    | found => some found
  | r => some ([], r)

/-- An exponent with its sign: at least one digit behind the letter. -/
def power? : List Char → Option (Option Int × List Char)
  | c :: r =>
    if c = 'e' ∨ c = 'E' then
      let (negative, r) := sign r
      match spanDigits r with
      | ([], _) => none
      | (digits, r) =>
        let n : Int := digitsValue digits
        some (some (if negative then -n else n), r)
    else some (none, c :: r)
  | [] => some (none, [])

def number? (s : List Char) : Option (Value × List Char) := do
  let (negative, s) :=
    match s with
    | '-' :: r => (true, r)
    | r => (false, r)
  let (whole, r) := spanDigits s
  if whole.isEmpty || (whole.head? == some '0' && 1 < whole.length) then none
  let (fraction, r) ← fraction? r
  let (power, r) ← power? r
  let n : Int := digitsValue whole
  let n := if negative then -n else n
  if fraction.isEmpty && power.isNone && (n != 0 || !negative)
      && -(maxInt64 : Int) - 1 ≤ n && n ≤ maxWord64 then
    return (.int n, r)
  let x ← float? negative whole fraction (power.getD 0)
  return (.float x, r)

/-! ### Values -/

def word? (word : String) (s : List Char) : Option (List Char) :=
  if word.toList.isPrefixOf s then some (s.drop word.length) else none

mutual

/-- Each step of the mutual readers costs one unit of fuel; `depth` counts the levels still open. -/
def value? : Nat → Nat → List Char → Option (Value × List Char)
  | 0, _, _ => none
  | fuel + 1, depth, s =>
    match skipGaps s with
    | 'n' :: r => (word? "ull" r).map fun r => (.null, r)
    | 't' :: r => (word? "rue" r).map fun r => (.bool true, r)
    | 'f' :: r => (word? "alse" r).map fun r => (.bool false, r)
    | '"' :: r => (string? fuel r).map fun (s, r) => (.text s, r)
    | '[' :: r =>
      if depth ≤ 1 then none
      else
        match skipGaps r with
        | ']' :: r => some (.list [], r)
        | r => (items? fuel (depth - 1) r).map fun (items, r) => (.list items, r)
    | '\x7b' :: r =>
      if depth ≤ 1 then none
      else
        match skipGaps r with
        | '\x7d' :: r => some (.object [], r)
        | r => (entries? fuel (depth - 1) r).map fun (pairs, r) => (.ofPairs pairs, r)
    | r => number? r

def items? : Nat → Nat → List Char → Option (List Value × List Char)
  | 0, _, _ => none
  | fuel + 1, depth, s => do
    let (v, r) ← value? fuel depth s
    match skipGaps r with
    | ',' :: r =>
      let (vs, r) ← items? fuel depth r
      return (v :: vs, r)
    | ']' :: r => return ([v], r)
    | _ => none

def entries? : Nat → Nat → List Char → Option (List (String × Value) × List Char)
  | 0, _, _ => none
  | fuel + 1, depth, s => do
    match skipGaps s with
    | '"' :: r =>
      let (k, r) ← string? fuel r
      match skipGaps r with
      | ':' :: r =>
        let (v, r) ← value? fuel depth r
        match skipGaps r with
        | ',' :: r =>
          let (es, r) ← entries? fuel depth r
          return ((k, v) :: es, r)
        | '\x7d' :: r => return ([(k, v)], r)
        | _ => none
      | _ => none
    | _ => none

end

/-- The value a text stands for. Two steps of the readers use up at least one character, so the fuel
is never below the number of characters left. -/
def read? (s : String) : Option Value := do
  let chars := s.toList
  let (v, r) ← value? (2 * chars.length + 2) 128 chars
  if (skipGaps r).isEmpty then return v else none

end Registrar.Json
