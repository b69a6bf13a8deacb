import Registrar.Pattern.CharSet

/-!
Patterns, and the conditions in them on a place between two characters.
-/

namespace Registrar.Pattern

open Text

/-- Conditions on a place between two characters. -/
inductive Anchor where
  | textStart
  | textEnd
  | lineStart
  | lineEnd
  /-- Lines that end in a carriage return, a line feed or both. -/
  | lineStartEither
  | lineEndEither
  | boundary
  | noBoundary
  | wordStart
  | wordEnd
  | wordStartHalf
  | wordEndHalf
deriving DecidableEq, Repr

inductive Tree where
  | empty
  /-- These characters one after the other. -/
  | text (s : List Char)
  | one (s : Ranges)
  /-- The second argument says whether words are those of ASCII only. -/
  | anchor (a : Anchor) (ascii : Bool)
  /-- A group with its number. -/
  | group (number : Nat) (p : Tree)
  | cat (p q : Tree)
  | alt (p q : Tree)
  /-- At least `least` times and, if bounded, at most `most` times. -/
  | repeated (p : Tree) (least : Nat) (most : Option Nat)
deriving DecidableEq, Repr

def isWordChar (ascii : Bool) (c : Char) : Bool :=
  (if ascii then CharSet.wordAscii else CharSet.word).contains c.toNat

/-- The condition of an anchor between the characters before and behind a place; the text has none
there at its ends. -/
def Anchor.holds (a : Anchor) (ascii : Bool) (before behind : Option Char) : Bool :=
  let wordBefore := before.any (isWordChar ascii)
  let wordBehind := behind.any (isWordChar ascii)
  match a with
  | .textStart => before.isNone
  | .textEnd => behind.isNone
  | .lineStart => before.isNone || before == some '\n'
  | .lineEnd => behind.isNone || behind == some '\n'
  | .lineStartEither =>
    before.isNone || before == some '\n' || (before == some '\r' && behind != some '\n')
  | .lineEndEither =>
    behind.isNone || behind == some '\r' || (behind == some '\n' && before != some '\r')
  | .boundary => wordBefore != wordBehind
  | .noBoundary => wordBefore == wordBehind
  | .wordStart => !wordBefore && wordBehind
  | .wordEnd => wordBefore && !wordBehind
  | .wordStartHalf => !wordBefore
  | .wordEndHalf => !wordBehind

end Registrar.Pattern
