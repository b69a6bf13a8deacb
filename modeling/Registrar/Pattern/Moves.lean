import Registrar.Pattern.Places

/-!
What a pattern does with places of a text: from each place at which it may start it leads to those
at which it can end then. What the parts of a pattern say about single characters and places is
looked up once for the text.
-/

namespace Registrar.Pattern

/-- A pattern with the places of one text that its parts allow. -/
inductive Moves where
  | stay
  /-- Stays at these places. -/
  | keep (among : Places)
  /-- Passes over the next character at these places. -/
  | pass (among : Places)
  | next (p q : Moves)
  | either (p q : Moves)
  /-- At least `least` times and, if bounded, at most `most` times. -/
  | again (p : Moves) (least : Nat) (most : Option Nat)

namespace Moves

/-- Applies a step a given number of times; a step that changes nothing is the last. -/
def iterate (f : Places → Places) : Nat → Places → Places
  | 0, places => places
  | n + 1, places =>
    let reached := f places
    if reached = places then places else iterate f n reached

/-- Collects the places reached by at most the given number of steps from the last new ones. -/
def collect (f : Places → Places) : Nat → Places → Places → Places
  | 0, seen, _ => seen
  | n + 1, seen, new =>
    let all := seen ||| f new
    if all = seen then seen else collect f n all (all ^^^ seen)

/-- The places at which the pattern can end when it starts at one of the given places, in a text of
the given length. -/
def ends (length : Nat) : Moves → Places → Places
  | stay, places => places
  | keep among, places => places &&& among
  | pass among, places => (places &&& among) <<< 1
  | next p q, places => q.ends length (p.ends length places)
  | either p q, places => p.ends length places ||| q.ends length places
  | again p least most, places =>
    let behind := iterate (p.ends length) least places
    match most with
    | some most => collect (p.ends length) (most - least) behind behind
    | none => collect (p.ends length) (length + 1) behind behind

theorem iterate_eq_self {f : Places → Places} {places : Places} (h : f places = places) (n : Nat) :
    iterate f n places = places := by
  cases n with
  | zero => rfl
  | succ n => simp [iterate, h]

end Moves

namespace Tree

/-- The moves of a pattern in a text with the given letters. -/
def moves (text : List Char) (letters : Letters) : Tree → Moves
  | empty => .stay
  | .text s => s.foldr (fun c rest => .next (.pass (letters.ahead (· == c))) rest) .stay
  | one s => .pass (letters.ahead fun c => s.contains c.toNat)
  | anchor a ascii => .keep (a.places ascii text)
  | group _ p => p.moves text letters
  | cat p q => .next (p.moves text letters) (q.moves text letters)
  | alt p q => .either (p.moves text letters) (q.moves text letters)
  | repeated p least most => .again (p.moves text letters) least most

def occursIn (p : Tree) (text : List Char) : Bool :=
  (p.moves text (.ofText text)).ends text.length (.all text.length) != 0

end Tree
end Registrar.Pattern
