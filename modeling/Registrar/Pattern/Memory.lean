import Registrar.Pattern.Automaton

/-!
The memory of the automaton for a pattern. The automaton is built twice, for reading forwards and
backwards, and repetitions are written out in it. A pattern whose automaton is too large is refused.
-/

namespace Registrar.Pattern

open Text

/-! ### Alternatives of texts -/

/-- The words between the empty ones. -/
def segments : List (List Nat) → List (List (List Nat))
  | [] => [[]]
  | [] :: r => [] :: segments r
  | w :: r =>
    match segments r with
    | s :: ss => (w :: s) :: ss
    | [] => [[w]]

/-- Of the empty words in front only one counts. -/
def onceInFront (words : List (List Nat)) : List (List Nat) :=
  if words.head? == some [] then [] :: words.dropWhile List.isEmpty else words

/-- Adds the states that read one of the words. A word that ends where others go on parts those
before it from those behind it. -/
def addWords : Nat → List (List Nat) → Draft → Draft
  | 0, _, d => d
  | depth + 1, words, d =>
    if words.all List.isEmpty then d
    else
      let parted := segments (onceInFront words)
      let filled := parted.filter fun segment => !segment.isEmpty
      let d := d.add 1 (branchSize * (filled.length + (parted.length - 1)))
      filled.foldl (fun d segment =>
        let firsts := (segment.filterMap List.head?).eraseDups
        let d := d.add 1 (if firsts.length = 1 then 0 else transitionSize * firsts.length)
        firsts.foldl (fun d b =>
          addWords depth ((segment.filter fun w => w.head? == some b).map List.tail) d) d) d

/-! ### Patterns -/

/-- An automaton, and the memory of one more way out of its last state. -/
structure Built where
  draft : Draft
  exit : Nat := 0

namespace Built

def onward (b : Built) : Draft := b.draft.add 0 b.exit

/-- Repeats a part; what is too large does not grow on. -/
def further (part : Draft → Built) : Nat → Built → Built
  | 0, b => b
  | n + 1, b => if b.draft.isTooLarge then b else further part n (part b.onward)

/-- A part a number of times, or an empty state. -/
def copies (part : Draft → Built) (d : Draft) : Nat → Built
  | 0 => ⟨d.add 1 0, 0⟩
  | n + 1 => further part n (part d)

/-- A part that may be left out. -/
def optional (part : Draft → Built) (d : Draft) : Built := part (d.add 1 (2 * branchSize))

/-- A repetition of a part; `filled` says that no match of the part is empty. -/
def times (part : Draft → Built) (filled : Bool) (d : Draft) : Nat → Option Nat → Built
  | 0, none =>
    if filled then ⟨(part (d.add 1 branchSize)).onward, branchSize⟩
    else ⟨(part d).onward.add 3 (4 * branchSize), 0⟩
  | least, none => ⟨(copies part d least).onward.add 1 branchSize, branchSize⟩
  | 0, some 1 => ⟨(optional part d).onward.add 1 0, 0⟩
  | least, some most =>
    let row := copies part d least
    if most ≤ least then row
    else
      let row := { row with draft := row.draft.add 1 0 }
      ⟨(further (optional part) (most - least) row).onward, 0⟩

/-- One of several alternatives, with its number. The state that leads to all of them and the one
behind them are added with the second. -/
def branch (number : Nat) (b : Built) : Draft :=
  b.onward.add (if number = 1 then 2 else 0) branchSize

end Built

namespace Tree

def word? : Tree → Option (List Nat)
  | .text s => some (s.flatMap fun c => bytesOf c.toNat)
  | _ => none

/-- The states for alternatives of which all are texts. -/
def addWords? (back : Bool) (t : Tree) (d : Draft) : Option Draft :=
  (t.branches.mapM word?).map fun words =>
    let words := if back then words.map List.reverse else words
    (addWords (words.flatten.length + 1) words d).add 1 0

def isAlt : Tree → Bool
  | .alt .. => true
  | _ => false

/-- Adds the states for a pattern; of alternatives, `before` stand in front of it. -/
def build (back : Bool) (before : Nat) : Tree → Draft → Built
  | .empty, d => ⟨d.add 1 0, 0⟩
  | .text s, d => ⟨d.add (String.ofList s).utf8ByteSize 0, 0⟩
  | .one s, d => ⟨d.addSet back s, 0⟩
  | .anchor .., d => ⟨d.add 1 0, 0⟩
  | .group _ p, d =>
    if back then p.build back 0 d else ⟨(p.build back 0 (d.add 1 0)).onward.add 1 0, 0⟩
  | .cat p q, d =>
    if back then p.build back 0 (q.build back 0 d).onward
    else q.build back 0 (p.build back 0 d).onward
  | .alt p q, d =>
    match if before = 0 then addWords? back (.alt p q) d else none with
    | some d => ⟨d, 0⟩
    | none =>
      let d := (p.build back 0 d).branch before
      if q.isAlt then q.build back (before + 1) d
      else ⟨(q.build back 0 d).branch (before + 1), 0⟩
  | .repeated p least most, d =>
    Built.times (p.build back 0) (p.leastLength?.any (0 < ·)) d least most

def isAnchoredAtStart : Tree → Bool
  | .anchor .textStart _ => true
  | .group _ p => p.isAnchoredAtStart
  | .cat p q => p.isAnchoredAtStart || (p.isWidthless && q.isAnchoredAtStart)
  | .alt p q => p.isAnchoredAtStart && q.isAnchoredAtStart
  | .repeated p least _ => 0 < least && p.isAnchoredAtStart
  | _ => false

def isAnchoredAtEnd : Tree → Bool
  | .anchor .textEnd _ => true
  | .group _ p => p.isAnchoredAtEnd
  | .cat p q => q.isAnchoredAtEnd || (q.isWidthless && p.isAnchoredAtEnd)
  | .alt p q => p.isAnchoredAtEnd && q.isAnchoredAtEnd
  | .repeated p least _ => 0 < least && p.isAnchoredAtEnd
  | _ => false

/-- The whole automaton. Unless a match can begin at one end of the text only, the automaton first
passes over any bytes; forwards, the whole match counts as a group. -/
def automaton (back : Bool) (t : Tree) : Draft :=
  let anchored := if back then t.isAnchoredAtEnd else t.isAnchoredAtStart
  let start : Draft := if anchored then ⟨1, 0⟩ else ⟨3, 2 * branchSize + transitionSize⟩
  let whole := if back then t.build back 0 start else (Tree.group 0 t).build back 0 start
  whole.onward.add 1 0

def fits (t : Tree) : Bool := !(t.automaton false).isTooLarge && !(t.automaton true).isTooLarge

end Tree
end Registrar.Pattern
