import Registrar.Pattern.Shape

/-!
The size of an automaton that reads the bytes of a text, in states and in the memory of the ways out
of them, and how it grows by the states that read one character of a set. Read forwards, states with
the same ways out are one. Read backwards, states are looked up in a table with few places, so that
a state may be forgotten and be added again.
-/

namespace Registrar.Pattern

open Text

/-- The memory of a state. -/
def stateSize : Nat := 32

/-- The memory of one of several ways out of a state that reads a byte. -/
def transitionSize : Nat := 8

/-- The memory of one of several ways out of a state that reads nothing. -/
def branchSize : Nat := 4

/-- The most memory that an automaton may take. -/
def maxMemory : Nat := 10 <<< 20

structure Draft where
  states : Nat := 0
  /-- The memory of the ways out of its states. -/
  ways : Nat := 0

namespace Draft

def add (d : Draft) (states ways : Nat) : Draft := ⟨d.states + states, d.ways + ways⟩

def memory (d : Draft) : Nat := stateSize * d.states + d.ways

def isTooLarge (d : Draft) : Bool := maxMemory < d.memory

end Draft

/-! ### Bytes of sets -/

/-- Where to cut a range of characters so that the bytes of the characters in each piece vary
independently: at a change of length first, then at the ends of full blocks. -/
def splitPoint? (low high : Nat) : Option Nat :=
  let atLength := [0x7F, 0x7FF, 0xFFFF].find? fun most => low ≤ most && most < high
  let atBlock := [0x40, 0x1000, 0x40000].findSome? fun size =>
    if low / size = high / size then none
    else if low % size ≠ 0 then some (low - low % size + size - 1)
    else if high % size ≠ size - 1 then some (high - high % size - 1)
    else none
  match atLength with
  | some cut => some cut
  | none => if high ≤ 0x7F then none else atBlock

def bytesOf (n : Nat) : List Nat := (String.utf8EncodeChar (Char.ofNat n)).map UInt8.toNat

/-- A range of characters as sequences of ranges of bytes. -/
def byteRanges : Nat → Nat → Nat → List Ranges
  | 0, _, _ => []
  | fuel + 1, low, high =>
    match splitPoint? low high with
    | some cut => byteRanges fuel low cut ++ byteRanges fuel (cut + 1) high
    | none => [(bytesOf low).zip (bytesOf high)]

/-- The sequences of a set; far fewer than 32 cuts in a row are ever needed. -/
def setBytes (s : Ranges) : List Ranges := s.flatMap fun (low, high) => byteRanges 32 low high

/-! ### Forwards -/

/-- The ways out of a state: each with a range of bytes and the number of the next state. -/
abbrev Exits := List (Nat × Nat × Nat)

/-- The number of the state with the given ways out, which is new if no state has them. Number 0 is
the state behind the character. -/
def numberOf (states : List Exits) (exits : Exits) : Nat × List Exits :=
  match states.findIdx? (· == exits) with
  | some k => (k + 1, states)
  | none => (states.length + 1, states ++ [exits])

/-- Adds the states that read one of the sequences; equal states are one. -/
def install : Nat → List Exits → List Ranges → Nat × List Exits
  | 0, states, _ => (0, states)
  | depth + 1, states, sequences =>
    if sequences.all List.isEmpty then (0, states)
    else
      let groups := sequences.splitBy fun a b => a.head? == b.head?
      let (exits, states) := groups.foldl (fun (exits, states) group =>
        match group.head?.bind List.head? with
        | some (low, high) =>
          let (target, states) := install depth states (group.map List.tail)
          (exits ++ [(low, high, target)], states)
        | none => (exits, states)) ([], states)
      numberOf states exits

def addForwards (sequences : List Ranges) (d : Draft) : Draft :=
  let states := (install 5 [] sequences).2
  d.add (states.length + 1) (transitionSize * states.flatten.length)

/-! ### Backwards -/

/-- A state that reads a byte and leads to another state. -/
structure Reading where
  target : Nat
  low : Nat
  high : Nat
deriving DecidableEq

def tableSize : Nat := 1000

abbrev Table := Array (Option (Reading × Nat))

/-- The place of a state in the table: a 64-bit hash by the rule FNV-1a. -/
def Reading.place (r : Reading) : Nat :=
  let mix (hash : UInt64) (n : Nat) : UInt64 := (hash ^^^ n.toUInt64) * 1099511628211
  (mix (mix (mix 14695981039346656037 r.target) r.low) r.high).toNat % tableSize

/-- The next state of a sequence, which is new unless it is in the table. The numbers are those of
the state before and of the first state that is free. -/
def extend (table : Table) (target free : Nat) (range : Nat × Nat) : Table × Nat × Nat :=
  let r : Reading := ⟨target, range.1, range.2⟩
  let place := r.place
  match table[place]? with
  | some (some (known, number)) =>
    if known = r then (table, number, free)
    else (table.setIfInBounds place (some (r, free)), free, free + 1)
  | _ => (table.setIfInBounds place (some (r, free)), free, free + 1)

/-- The number of the first free state behind those that lead from the first byte to the state
behind the character, for each of the sequences. -/
def backwardStates (target : Nat) (table : Table) (free : Nat) : List Ranges → Nat
  | [] => free
  | s :: r =>
    let (table, _, free) :=
      s.foldl (fun (table, target, free) range => extend table target free range)
        (table, target, free)
    backwardStates target table free r

def addBackwards (sequences : List Ranges) (d : Draft) : Draft :=
  let d := d.add 2 (branchSize * sequences.length)
  { d with states := backwardStates (d.states - 1) (.replicate tableSize none) d.states sequences }

def Draft.addSet (back : Bool) (s : Ranges) (d : Draft) : Draft :=
  if s.all fun r => r.2 ≤ 0x7F then d.add 2 (transitionSize * s.length)
  else if back then addBackwards (setBytes s) d
  else addForwards (setBytes s) d

end Registrar.Pattern
