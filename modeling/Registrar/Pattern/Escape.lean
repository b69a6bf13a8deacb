import Registrar.Number.Digits
import Registrar.Pattern.Property
import Registrar.Pattern.Tree
import Registrar.Text.Blank
import Registrar.Text.Pieces

/-!
Escapes in patterns: a backslash and what it makes of the characters behind it.
-/

namespace Registrar.Pattern

open Text

/-- What the flags of a pattern say at one place of it. -/
structure Mode where
  ignoreCase : Bool := false
  multiLine : Bool := false
  dotAll : Bool := false
  verbose : Bool := false
  eitherLine : Bool := false
  unicode : Bool := true
deriving DecidableEq, Repr

namespace Mode

/-- The set without regard to case, if the mode asks for that. -/
def folded (mode : Mode) (s : Ranges) : Ranges :=
  if mode.ignoreCase then if mode.unicode then s.withVariants else s.withAsciiVariants else s

/-- The complement; without Unicode it would hold parts of characters. -/
def complement? (mode : Mode) (s : Ranges) : Option Ranges :=
  if mode.unicode then some s.compl else none

end Mode

/-- Drops blanks, and comments from `#` to the end of the line. -/
def skipComments (inComment : Bool) : List Char → List Char
  | [] => []
  | c :: r =>
    if inComment then skipComments (c ≠ '\n') r
    else if isBlank c then skipComments false r
    else if c = '#' then skipComments true r
    else c :: r

/-- In verbose mode blanks and comments mean nothing. -/
def skip (mode : Mode) (s : List Char) : List Char :=
  if mode.verbose then skipComments false s else s

theorem length_skipComments_le (inComment : Bool) (s : List Char) :
    (skipComments inComment s).length ≤ s.length := by
  induction s generalizing inComment with
  | nil => simp [skipComments]
  | cons c r ih =>
    unfold skipComments
    split
    · exact Nat.le_succ_of_le (ih _)
    · split
      · exact Nat.le_succ_of_le (ih _)
      · split
        · exact Nat.le_succ_of_le (ih _)
        · exact Nat.le_refl _

theorem length_skip_le (mode : Mode) (s : List Char) : (skip mode s).length ≤ s.length := by
  unfold skip
  split
  · exact length_skipComments_le _ _
  · exact Nat.le_refl _

/-- One piece of a pattern that an escape or a character gives. -/
inductive Atom where
  /-- The second argument says whether the character was given by a code of one byte. -/
  | char (c : Char) (byte : Bool)
  | set (s : Ranges)
  | anchor (a : Anchor)

def hexValue? (c : Char) : Option Nat :=
  if c.isDigit then some (c.toNat - '0'.toNat)
  else if 'a' ≤ c ∧ c ≤ 'f' then some (c.toNat - 'a'.toNat + 10)
  else if 'A' ≤ c ∧ c ≤ 'F' then some (c.toNat - 'A'.toNat + 10)
  else none

def scalar? (n : Nat) : Option Char := if n.isValidChar then some (Char.ofNat n) else none

def hexDigits? (mode : Mode) (value : Nat) : Nat → List Char → Option (Nat × List Char)
  | 0, s => some (value, s)
  | n + 1, s =>
    match skip mode s with
    | c :: r =>
      match hexValue? c with
      | some d => hexDigits? mode (16 * value + d) n r
      | none => none
    | [] => none

theorem length_lt_of_skip {mode : Mode} {s : List Char} {c : Char} {r : List Char}
    (h : skip mode s = c :: r) : r.length < s.length := by
  have bound := length_skip_le mode s
  rwa [h, List.length_cons] at bound

/-- The characters up to a closing brace, without what verbose mode skips. -/
def braced? (mode : Mode) (s : List Char) : Option (List Char × List Char) :=
  match _h : skip mode s with
  | [] => none
  | c :: r =>
    if c = '\x7d' then some ([], r)
    else (braced? mode r).map fun (inside, r) => (c :: inside, r)
termination_by s.length
decreasing_by exact length_lt_of_skip ‹_›

theorem braced?_of_nil {mode : Mode} {s : List Char} (start : skip mode s = []) :
    braced? mode s = none := by
  unfold braced?
  split
  · rfl
  · next other => cases start.symm.trans other

theorem braced?_of_cons {mode : Mode} {s r : List Char} {c : Char} (start : skip mode s = c :: r) :
    braced? mode s = if c = '\x7d' then some ([], r)
      else (braced? mode r).map fun (inside, r) => (c :: inside, r) := by
  rw [braced?]
  split
  · next other => cases start.symm.trans other
  · next other =>
    cases start.symm.trans other
    rfl

/-- The code that hexadecimal digits stand for. -/
def hexValues? (digits : List Char) : Option Nat :=
  match digits.mapM hexValue? with
  | some [] | none => none
  | some values => some (values.foldl (fun value d => 16 * value + d) 0)

def bracedCode? (mode : Mode) (s : List Char) : Option (Atom × List Char) :=
  match braced? mode s with
  | some (inside, r) => ((hexValues? inside).bind scalar?).map fun c => (.char c false, r)
  | none => none

def digitsCode? (mode : Mode) (digits : Nat) (s : List Char) : Option (Atom × List Char) :=
  match hexDigits? mode 0 digits s with
  | some (n, r) => (scalar? n).map fun c => (.char c (digits == 2), r)
  | none => none

/-- A character by its code: digits in braces, or as many as the letter of the escape asks for. -/
def codePoint? (mode : Mode) (digits : Nat) (s : List Char) : Option (Atom × List Char) :=
  match skip mode s with
  | '\x7b' :: r => bracedCode? mode r
  | r => digitsCode? mode digits r

/-- The texts before and after the first occurrence of a separator. -/
def halves? (separator inside : List Char) : Option (String × String) :=
  match piecesBetween 0 separator inside with
  | a :: b :: rest => some (.ofList a, .ofList (separator.intercalate (b :: rest)))
  | _ => none

/-- A set as it is or its complement. -/
def Atom.ofSet (mode : Mode) (negated : Bool) (set : Ranges) : Atom :=
  .set (if negated then (mode.folded set).compl else mode.folded set)

/-- The set of a property by what stands in its braces: a name, or a property and its value. -/
def propertyIn? (mode : Mode) (negated : Bool) (inside : List Char) : Option Atom :=
  match halves? ['!', '='] inside, halves? [':'] inside, halves? ['='] inside with
  | some (property, value), _, _ =>
    (Property.valued? property value).map (Atom.ofSet mode !negated)
  | none, some (property, value), _ => (Property.valued? property value).map (Atom.ofSet mode negated)
  | none, none, some (property, value) =>
    (Property.valued? property value).map (Atom.ofSet mode negated)
  | none, none, none => (Property.named? (.ofList inside)).map (Atom.ofSet mode negated)

def bracedProperty? (mode : Mode) (negated : Bool) (s : List Char) : Option (Atom × List Char) :=
  match braced? mode s with
  | some (inside, r) => (propertyIn? mode negated inside).map fun atom => (atom, r)
  | none => none

/-- The set of a property, by one letter or in braces. -/
def propertyFrom? (mode : Mode) (negated : Bool) : List Char → Option (Atom × List Char)
  | '\x7b' :: r => bracedProperty? mode negated r
  | c :: r =>
    if c = '\\' then none
    else (Property.named? (String.singleton c)).map fun set => (.ofSet mode negated set, r)
  | [] => none

def property? (mode : Mode) (negated : Bool) (s : List Char) : Option (Atom × List Char) :=
  if mode.unicode then propertyFrom? mode negated (skip mode s) else none

def isBoundaryChar (c : Char) : Bool := c.isAlpha || c == '-'

/-- The name of a word boundary, up to the first character that is in no such name. -/
def boundaryName (mode : Mode) (s : List Char) : List Char × List Char :=
  match _h : skip mode s with
  | c :: r =>
    if isBoundaryChar c then
      let (name, r) := boundaryName mode r
      (c :: name, r)
    else ([], c :: r)
  | [] => ([], [])
termination_by s.length
decreasing_by exact length_lt_of_skip ‹_›

theorem boundaryName_of_nil {mode : Mode} {s : List Char} (start : skip mode s = []) :
    boundaryName mode s = ([], []) := by
  unfold boundaryName
  split
  · next other => cases start.symm.trans other
  · rfl

theorem boundaryName_of_cons {mode : Mode} {s r : List Char} {c : Char}
    (start : skip mode s = c :: r) :
    boundaryName mode s = if isBoundaryChar c then
      (c :: (boundaryName mode r).1, (boundaryName mode r).2) else ([], c :: r) := by
  rw [boundaryName]
  split
  · next other =>
    cases start.symm.trans other
    rfl
  · next other => cases start.symm.trans other

def boundaryKind? : String → Option Anchor
  | "start" => some .wordStart
  | "end" => some .wordEnd
  | "start-half" => some .wordStartHalf
  | "end-half" => some .wordEndHalf
  | _ => none

/-- The named kinds of word boundary in braces. A brace that holds no name is left alone. -/
def bracedBoundary? (mode : Mode) (s : List Char) : Option (Atom × List Char) :=
  match boundaryName mode s with
  | ([], _) => some (.anchor .boundary, '\x7b' :: s)
  | (name, '\x7d' :: r) => (boundaryKind? (.ofList name)).map fun a => (.anchor a, r)
  | _ => none

def boundary? (mode : Mode) : List Char → Option (Atom × List Char)
  | '\x7b' :: r => bracedBoundary? mode r
  | s => some (.anchor .boundary, s)

/-- The sets with a letter of their own; a capital letter stands for the complement. -/
def classLetter? (mode : Mode) (c : Char) : Option (Option Ranges) :=
  let pick (wide ascii : Ranges) : Ranges := if mode.unicode then wide else ascii
  match c with
  | 'd' => some (some (pick CharSet.digit CharSet.digitAscii))
  | 's' => some (some (pick CharSet.space CharSet.spaceAscii))
  | 'w' => some (some (pick CharSet.word CharSet.wordAscii))
  | 'D' => some (mode.complement? CharSet.digit)
  | 'S' => some (mode.complement? CharSet.space)
  | 'W' => some (mode.complement? CharSet.word)
  | _ => none

/-- ASCII characters that are neither letters nor digits stand for themselves, except angle
brackets. -/
def standsForItself (c : Char) : Bool :=
  c.toNat < 0x80 && !c.isAlphanum && c ≠ '<' && c ≠ '>'

/-- What a letter or a sign behind a backslash stands for. -/
def signAtom? : Char → Option Atom
  | 'a' => some (.char '\x07' false)
  | 'f' => some (.char '\x0c' false)
  | 't' => some (.char '\t' false)
  | 'n' => some (.char '\n' false)
  | 'r' => some (.char '\r' false)
  | 'v' => some (.char '\x0b' false)
  | 'A' => some (.anchor .textStart)
  | 'z' => some (.anchor .textEnd)
  | 'B' => some (.anchor .noBoundary)
  | '<' => some (.anchor .wordStart)
  | '>' => some (.anchor .wordEnd)
  | c => if standsForItself c then some (.char c false) else none

def escape? (mode : Mode) : List Char → Option (Atom × List Char)
  | [] => none
  | c :: r =>
    match classLetter? mode c with
    | some found => found.map fun s => (.set s, r)
    | none =>
      match c with
      | 'x' => codePoint? mode 2 r
      | 'u' => codePoint? mode 4 r
      | 'U' => codePoint? mode 8 r
      | 'p' => property? mode false r
      | 'P' => property? mode true r
      | 'b' => boundary? mode r
      | c => (signAtom? c).map fun atom => (atom, r)

end Registrar.Pattern
