/-!
Texts as bytes, and back. A sequence of bytes that is cut short or out of place reads as one
replacement character; the byte that breaks it off is read anew.
-/

namespace Registrar.Text.Utf8

def encode (s : List Char) : List Nat :=
  s.flatMap fun c => (String.utf8EncodeChar c).map UInt8.toNat

def replacement : Char := '\uFFFD'

/-- A character under way: its value so far, the bytes that come after the next one, and the range
of the next one. -/
structure Pending where
  value : Nat
  left : Nat
  low : Nat := 0x80
  high : Nat := 0xBF
deriving DecidableEq, Repr

/-- Reads a byte that begins a character. -/
def start (b : Nat) : List Char × Option Pending :=
  if b < 0x80 then ([Char.ofNat b], none)
  else if b < 0xC2 then ([replacement], none)
  else if b < 0xE0 then ([], some { value := b - 0xC0, left := 0 })
  else if b < 0xF0 then
    let low := if b = 0xE0 then 0xA0 else 0x80
    let high := if b = 0xED then 0x9F else 0xBF
    ([], some { value := b - 0xE0, left := 1, low, high })
  else if b < 0xF5 then
    let low := if b = 0xF0 then 0x90 else 0x80
    let high := if b = 0xF4 then 0x8F else 0xBF
    ([], some { value := b - 0xF0, left := 2, low, high })
  else ([replacement], none)

/-- Reads one more byte. -/
def step (pending : Option Pending) (b : Nat) : List Char × Option Pending :=
  match pending with
  | none => start b
  | some p =>
    if p.low ≤ b ∧ b ≤ p.high then
      let value := p.value * 64 + (b - 0x80)
      match p.left with
      | 0 => ([Char.ofNat value], none)
      | left + 1 => ([], some { value, left })
    else
      let (chars, pending) := start b
      (replacement :: chars, pending)

def decodeFrom (pending : Option Pending) : List Nat → List Char
  | [] => if pending.isSome then [replacement] else []
  | b :: r =>
    let (chars, pending) := step pending b
    chars ++ decodeFrom pending r

def decode (bytes : List Nat) : List Char := decodeFrom none bytes

end Registrar.Text.Utf8
