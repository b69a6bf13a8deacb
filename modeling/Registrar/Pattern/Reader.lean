import Registrar.Pattern.Bracket
import Registrar.Pattern.Memory
import Registrar.Text.Letter

/-!
Reading a pattern: alternatives of sequences of repeated atoms. Groups may be named, set flags for
themselves or for what follows in the group around them; there is no looking around and no reference
back to a group. A pattern that nests too deep or takes too much memory is refused.
-/

namespace Registrar.Pattern

open Number Text

/-! ### Repetition counts -/

/-- Decimal digits; verbose mode skips what stands between and behind them. -/
def digits (mode : Mode) : List Char → List Char × List Char
  | c :: r =>
    if c.isDigit then
      let (ds, r) := digits mode (skip mode r)
      (c :: ds, r)
    else ([], c :: r)
  | [] => ([], [])
termination_by s => s.length
decreasing_by exact Nat.lt_succ_of_le (length_skip_le mode r)

def count? (mode : Mode) (s : List Char) : Option (Nat × List Char) :=
  let (ds, r) := digits mode (trimStart s)
  let n := digitsValue ds
  if ds.isEmpty || maxWord32 < n then none else some (n, trimStart r)

/-- The greatest number of a counted repetition, and the brace that closes it. -/
def most? (mode : Mode) (least : Nat) (s : List Char) : Option ((Nat × Option Nat) × List Char) :=
  match count? mode s with
  | some (most, '\x7d' :: r) => if least ≤ most then some ((least, some most), r) else none
  | _ => none

/-- What stands behind the comma of a counted repetition. -/
def upward? (mode : Mode) (least : Nat) (s : List Char) : Option ((Nat × Option Nat) × List Char) :=
  match skip mode s with
  | '\x7d' :: r => some ((least, none), r)
  | r => most? mode least r

/-- The bounds of a counted repetition, from behind the opening brace. -/
def bounds? (mode : Mode) (s : List Char) : Option ((Nat × Option Nat) × List Char) :=
  match count? mode (skip mode s) with
  | some (least, '\x7d' :: r) => some ((least, some least), r)
  | some (least, ',' :: r) => upward? mode least r
  | _ => none

/-- A question mark behind a repetition changes which match is found, not whether there is one. -/
def dropLazy : List Char → List Char
  | '?' :: r => r
  | r => r

/-! ### Groups -/

/-- Sets or clears the flag with the given letter. -/
def Mode.set? (mode : Mode) (value : Bool) : Char → Option Mode
  | 'i' => some { mode with ignoreCase := value }
  | 'm' => some { mode with multiLine := value }
  | 's' => some { mode with dotAll := value }
  | 'x' => some { mode with verbose := value }
  | 'R' => some { mode with eitherLine := value }
  | 'u' => some { mode with unicode := value }
  | 'U' => some mode
  | _ => none

/-- Flags up to a colon or a closing parenthesis, which is kept. No flag may be named twice, and a
hyphen needs a flag behind it. -/
def flags? (mode : Mode) (value : Bool) (seen : List Char) : List Char → Option (Mode × List Char)
  | [] => none
  | c :: r =>
    if c = ':' ∨ c = ')' then
      if seen.head? = some '-' then none else some (mode, c :: r)
    else if seen.contains c then none
    else if c = '-' then flags? mode false (c :: seen) r
    else
      match mode.set? value c with
      | some mode => flags? mode value (c :: seen) r
      | none => none

inductive Opening where
  /-- A group with a number, and a name if it has one. -/
  | numbered (name : Option String)
  /-- A group without a number, and with a mode of its own. -/
  | plain (mode : Mode)
  /-- Flags for the rest of the group around. -/
  | flags (mode : Mode)

def isNameStart (c : Char) : Bool := c == '_' || isAlphabetic c

def isNamePart (c : Char) : Bool :=
  c == '_' || c == '.' || c == '[' || c == ']' || isAlphanumeric c

/-- A group name up to the closing angle bracket. -/
def name? (s : List Char) : Option (String × List Char) :=
  match cut? '>' s with
  | some (c :: name, r) =>
    if isNameStart c && name.all isNamePart then some (String.ofList (c :: name), r) else none
  | _ => none

/-- What flags are for: the group if a colon ends them, and else what follows. -/
def flagsFor? (inner : Mode) : List Char → Option (Opening × List Char)
  | ':' :: r => some (.plain inner, r)
  | _ :: r => some (.flags inner, r)
  | [] => none

def flagged? (mode : Mode) (s : List Char) : Option (Opening × List Char) :=
  match flags? mode true [] s with
  | some (inner, r) => flagsFor? inner r
  | none => none

def named? (s : List Char) : Option (Opening × List Char) :=
  (name? s).map fun (name, r) => (.numbered (some name), r)

/-- What stands behind the question mark of a group. The signs for looking around begin no name and
are no flags. -/
def marked? (mode : Mode) : List Char → Option (Opening × List Char)
  | 'P' :: '<' :: r => named? r
  | '<' :: r => named? r
  | ')' :: _ => none
  | r => flagged? mode r

/-- What stands behind an opening parenthesis. -/
def opening? (mode : Mode) (s : List Char) : Option (Opening × List Char) :=
  match skip mode s with
  | '?' :: r => marked? mode r
  | r => some (.numbered none, r)

/-! ### Sequences and alternatives -/

structure Piece where
  tree : Tree
  depth : Nat := 0
  /-- It only sets flags, so it cannot be repeated. -/
  isFlags : Bool := false

namespace Piece

/-- Several pieces together nest one level deeper than the deepest of them; one alone does not. -/
def nesting : List Piece → Nat
  | [] => 0
  | [p] => p.depth
  | ps => 1 + ps.foldl (fun depth p => max depth p.depth) 0

def sequence (ps : List Piece) : Piece := ⟨.sequence (ps.map tree), nesting ps, false⟩

def choice : List Piece → Piece
  | [p] => p
  | ps => ⟨.choice (ps.map tree), nesting ps, false⟩

def repeated? (p : Piece) (least : Nat) (most : Option Nat) : Option Piece :=
  if p.isFlags ∨ maxDepth ≤ p.depth then none
  else some ⟨p.tree.times least most, 1 + p.depth, false⟩

end Piece

structure Groups where
  count : Nat := 0
  names : List String := []

/-- Opens a group with the next number. No name may stand for two groups. -/
def Groups.open? (groups : Groups) (name : Option String) : Option Groups :=
  if name.any groups.names.contains then none
  else some ⟨groups.count + 1, name.toList ++ groups.names⟩

/-- The part of a group that has been read, the last pieces first. -/
structure Progress where
  groups : Groups := {}
  alternatives : List Piece := []
  pieces : List Piece := []

namespace Progress

def push (p : Progress) (piece : Piece) : Progress := { p with pieces := piece :: p.pieces }

def branch (p : Progress) : Progress :=
  { p with alternatives := .sequence p.pieces.reverse :: p.alternatives, pieces := [] }

def finish (p : Progress) : Piece := .choice p.branch.alternatives.reverse

def repeated? (p : Progress) (least : Nat) (most : Option Nat) : Option Progress :=
  match p.pieces with
  | [] => none
  | piece :: rest =>
    (piece.repeated? least most).map fun piece => { p with pieces := piece :: rest }

/-- Continues a group behind another one inside it. -/
def close (p : Progress) (inner : Progress) (wrap : Tree → Tree) : Progress :=
  let piece := inner.finish
  { p with groups := inner.groups, pieces := ⟨wrap piece.tree, 1 + piece.depth, false⟩ :: p.pieces }

end Progress

def literal (mode : Mode) (c : Char) : Tree :=
  if mode.ignoreCase then .ofSet (mode.folded (CharSet.single c)) else .text [c]

/-- What an escape stands for. A code of one byte above 127 is no character without Unicode. -/
def Atom.tree? (mode : Mode) : Atom → Option Tree
  | .char c byte =>
    if byte && !mode.unicode && 0x7F < c.toNat then none else some (literal mode c)
  | .set s => some (.ofSet s)
  | .anchor a => some (.anchor a !mode.unicode)

def dot? (mode : Mode) : Option Tree :=
  if !mode.unicode then none
  else if mode.dotAll then some (.ofSet CharSet.any)
  else if mode.eitherLine then some (.ofSet (.compl [(0x0A, 0x0A), (0x0D, 0x0D)]))
  else some (.ofSet (.compl [(0x0A, 0x0A)]))

def lineStart (mode : Mode) : Tree :=
  .anchor (if mode.multiLine then if mode.eitherLine then .lineStartEither else .lineStart
    else .textStart) false

def lineEnd (mode : Mode) : Tree :=
  .anchor (if mode.multiLine then if mode.eitherLine then .lineEndEither else .lineEnd
    else .textEnd) false

/-- What comes next in a group. -/
inductive Part where
  /-- The end of the text, or a closing parenthesis, which is left. -/
  | stop
  /-- Something that leads to this mode and this progress. -/
  | onward (mode : Mode) (p : Progress)
  /-- A group inside with a mode of its own, the groups so far and what it makes of its pattern. -/
  | inward (mode : Mode) (groups : Groups) (wrap : Tree → Tree)

/-- What a character stands for in a group, together with what stands behind it. -/
def partFrom? (mode : Mode) (p : Progress) (c : Char) (r : List Char) : Option (Part × List Char) :=
  let pushed (piece : Piece) : Part := .onward mode (p.push piece)
  let again (least : Nat) (most : Option Nat) (r : List Char) : Option (Part × List Char) :=
    (p.repeated? least most).map fun p => (.onward mode p, dropLazy r)
  match c with
  | '|' => some (.onward mode p.branch, r)
  | '?' => again 0 (some 1) r
  | '*' => again 0 none r
  | '+' => again 1 none r
  | '\x7b' =>
    match bounds? mode r with
    | some ((least, most), r) => again least most (skip mode r)
    | none => none
  | '(' =>
    match opening? mode r with
    | some (.flags inner, r) => some (.onward inner (p.push ⟨.empty, 0, true⟩), r)
    | some (.plain inner, r) => some (.inward inner p.groups id, r)
    | some (.numbered name, r) =>
      (p.groups.open? name).map fun groups => (.inward mode groups (.group groups.count), r)
    | none => none
  | '[' =>
    match bracket? mode r with
    | some (s, r) => some (pushed ⟨.ofSet s.set, s.depth, false⟩, r)
    | none => none
  | '\\' =>
    match escape? mode r with
    | some (atom, r) => (atom.tree? mode).map fun tree => (pushed ⟨tree, 0, false⟩, r)
    | none => none
  | '.' => (dot? mode).map fun tree => (pushed ⟨tree, 0, false⟩, r)
  | '^' => some (pushed ⟨lineStart mode, 0, false⟩, r)
  | '$' => some (pushed ⟨lineEnd mode, 0, false⟩, r)
  | c => some (pushed ⟨literal mode c, 0, false⟩, r)

def part? (mode : Mode) (p : Progress) (s : List Char) : Option (Part × List Char) :=
  match skip mode s with
  | [] => some (.stop, [])
  | c :: r => if c = ')' then some (.stop, ')' :: r) else partFrom? mode p c r

/-- What stands behind a closing parenthesis. -/
def groupEnd? : List Char → Option (List Char)
  | ')' :: r => some r
  | _ => none

/-- Reads up to the end of the text or to the parenthesis that closes the group around; `level`
groups are open. -/
def group? : Nat → Nat → Mode → Progress → List Char → Option (Progress × List Char)
  | 0, _, _, _, _ => none
  | fuel + 1, level, mode, p, s =>
    match part? mode p s with
    | none => none
    | some (.stop, r) => some (p, r)
    | some (.onward mode p, r) => group? fuel level mode p r
    | some (.inward inner groups wrap, r) =>
      if maxDepth ≤ level then none
      else
        match group? fuel (level + 1) inner { groups } r with
        | none => none
        | some (q, r) =>
          match groupEnd? r with
          | some r => group? fuel level mode (p.close q wrap) r
          | none => none

/-- The piece that a whole pattern gives. -/
def reading? (s : List Char) : Option Piece :=
  match group? (s.length + 1) 0 {} {} s with
  | some (p, []) => some p.finish
  | _ => none

/-- What a pattern may need: so much nesting, and so much memory. -/
def Piece.isWithin (whole : Piece) : Bool := whole.depth ≤ maxDepth && whole.tree.fits

def read? (s : List Char) : Option Tree :=
  match reading? s with
  | some whole => if whole.isWithin then some whole.tree else none
  | none => none

end Registrar.Pattern
