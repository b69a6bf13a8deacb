import Registrar.Pattern.Escape

/-!
Sets in brackets: characters, ranges, escapes, ASCII classes and further brackets, combined by
`&&`, `--` and `~~` from left to right.
-/

namespace Registrar.Pattern

open Text

/-- The greatest depth to which the notation of a pattern may nest. -/
def maxDepth : Nat := 250

inductive SetOp where
  | inter
  | diff
  | symmDiff

def SetOp.apply : SetOp → Ranges → Ranges → Ranges
  | .inter, a, b => a.inter b
  | .diff, a, b => a.diff b
  | .symmDiff, a, b => a.symmDiff b

structure Bracketed where
  set : Ranges
  depth : Nat

structure Items where
  set : Ranges := []
  count : Nat := 0
  /-- The greatest depth among the items. -/
  depth : Nat := 0

namespace Items

def add (items : Items) (item : Bracketed) : Items :=
  ⟨items.set.union item.set, items.count + 1, max items.depth item.depth⟩

/-- The items as one set; several of them are one level deeper. -/
def whole (items : Items) : Bracketed :=
  ⟨items.set, if items.count ≤ 1 then items.depth else items.depth + 1⟩

end Items

/-- What has been read behind an operator, joined to what stands in front of it. -/
def settle (mode : Mode) (pending : Option (SetOp × Bracketed)) (items : Items) : Bracketed :=
  match pending with
  | some (op, left) =>
    ⟨op.apply (mode.folded left.set) (mode.folded items.set), 1 + max left.depth items.whole.depth⟩
  | none => items.whole

/-- The set without regard to case if the mode asks for that, and then its complement if it is
negated. -/
def Mode.signed? (mode : Mode) (negated : Bool) (s : Ranges) : Option Ranges :=
  if negated then mode.complement? (mode.folded s) else some (mode.folded s)

/-- The set of an ASCII class by its name, up to the bracket that closes it. -/
def asciiName? (mode : Mode) (negated : Bool) (s : List Char) : Option (Option Ranges × List Char) :=
  match Text.cut? ':' s with
  | some (name, ']' :: r) =>
    (CharSet.ofAsciiName? (String.ofList name)).map fun s => (mode.signed? negated s, r)
  | _ => none

def asciiClass? (mode : Mode) : List Char → Option (Option Ranges × List Char)
  | ':' :: '^' :: r => asciiName? mode true r
  | ':' :: r => asciiName? mode false r
  | _ => none

def setAtom? (mode : Mode) : List Char → Option (Atom × List Char)
  | [] => none
  | '\\' :: r => escape? mode r
  | c :: r => some (.char c false, r)

/-- Without Unicode a set holds ASCII characters only. -/
def allowed (mode : Mode) (c : Char) : Bool := mode.unicode || c.toNat < 0x80

def atomSet? (mode : Mode) : Atom → Option Ranges
  | .char c _ => if allowed mode c then some (CharSet.single c) else none
  | .set s => some s
  | .anchor _ => none

/-- The first character that is no blank, or that behind the first number sign if it is one. -/
def peeked (s : List Char) : Option Char :=
  match trimStart s with
  | '#' :: r => (trimStart r).head?
  | r => r.head?

/-- The character that tells whether a hyphen makes a range. Verbose mode looks for it behind
blanks, and also behind the first number sign among them. -/
def afterHyphen? (mode : Mode) (s : List Char) : Option Char :=
  if mode.verbose then (peeked s).or s.head? else s.head?

/-- The character ends a set or starts an operator. -/
def isStop (c : Char) : Bool := c == ']' || c == '-'

/-- A range from one character to another. -/
def rangeSet? (mode : Mode) : Atom → Atom → Option Ranges
  | .char a _, .char b _ =>
    if a ≤ b ∧ allowed mode a ∧ allowed mode b then some (CharSet.span a b) else none
  | _, _ => none

/-- What stands behind a hyphen: the end of a range, unless the hyphen ends the set or starts an
operator. -/
def rangeTo? (mode : Mode) (low : Atom) (s : List Char) : Option (Ranges × List Char) :=
  if (afterHyphen? mode s).any isStop then
    (atomSet? mode low).map fun set => (set, '-' :: s)
  else
    match setAtom? mode (skip mode s) with
    | some (high, r) => (rangeSet? mode low high).map fun set => (set, r)
    | none => none

/-- The item of a character or an escape, or a range from it. -/
def rangeFrom? (mode : Mode) (low : Atom) (s : List Char) : Option (Ranges × List Char) :=
  match skip mode s with
  | [] => none
  | '-' :: r => rangeTo? mode low r
  | r => (atomSet? mode low).map fun set => (set, r)

def setRange? (mode : Mode) (s : List Char) : Option (Ranges × List Char) :=
  match setAtom? mode s with
  | some (low, r) => rangeFrom? mode low r
  | none => none

/-- The hyphens that stand for themselves at the start of a set. -/
def leadingHyphens (mode : Mode) (items : Items) : List Char → Items × List Char
  | '-' :: r => leadingHyphens mode (items.add ⟨CharSet.single '-', 0⟩) (skip mode r)
  | r => (items, r)
termination_by s => s.length
decreasing_by exact Nat.lt_succ_of_le (length_skip_le mode r)

/-- The items that stand for themselves only at the start of a set. -/
def started (mode : Mode) (s : List Char) : Items × List Char :=
  match leadingHyphens mode {} s with
  | (start, ']' :: r) =>
    if start.count = 0 then (start.add ⟨CharSet.single ']', 0⟩, r) else (start, ']' :: r)
  | found => found

/-- Whether a set is negated, and the items at its start. -/
def opened (mode : Mode) (s : List Char) : (Bool × Items) × List Char :=
  match skip mode s with
  | '^' :: r =>
    let found := started mode (skip mode r)
    ((true, found.1), found.2)
  | r =>
    let found := started mode r
    ((false, found.1), found.2)

def SetOp.ofSign? : Char → Option SetOp
  | '&' => some .inter
  | '-' => some .diff
  | '~' => some .symmDiff
  | _ => none

/-- An operator, which is a sign written twice. -/
def setOp? : List Char → Option (SetOp × List Char)
  | c :: d :: r => if c = d then (SetOp.ofSign? c).map fun op => (op, r) else none
  | _ => none

/-- What comes next in a set. -/
inductive SetPart where
  /-- Something that leaves this behind the last operator, and these items behind that. -/
  | onward (pending : Option (SetOp × Bracketed)) (items : Items)
  /-- The opening bracket of a set inside. -/
  | inward

/-- What an opening bracket in a set is for: an ASCII class, or a set. -/
def bracketPart? (mode : Mode) (pending : Option (SetOp × Bracketed)) (items : Items) (s : List Char) :
    Option (SetPart × List Char) :=
  match asciiClass? mode s with
  | some (some inner, r) => some (.onward pending (items.add ⟨inner, 0⟩), r)
  | some (none, _) => none
  | none => some (.inward, s)

/-- An operator, or an item. -/
def plainPart? (mode : Mode) (pending : Option (SetOp × Bracketed)) (items : Items) (s : List Char) :
    Option (SetPart × List Char) :=
  match setOp? s with
  | some (op, r) => some (.onward (some (op, settle mode pending items)) {}, r)
  | none => (setRange? mode s).map fun (item, r) => (.onward pending (items.add ⟨item, 0⟩), r)

def setPart? (mode : Mode) (pending : Option (SetOp × Bracketed)) (items : Items) :
    List Char → Option (SetPart × List Char)
  | '[' :: r => bracketPart? mode pending items r
  | s => plainPart? mode pending items s

/-- A set with its sign, one level deeper than what it holds. -/
def Bracketed.closed? (inside : Bracketed) (mode : Mode) (negated : Bool) : Option Bracketed :=
  (mode.signed? negated inside.set).map fun set => ⟨set, 1 + inside.depth⟩

/-- What stands behind a closing bracket. -/
def setEnd? : List Char → Option (List Char)
  | ']' :: r => some r
  | _ => none

/-- A set up to its closing bracket; `level` brackets are open. -/
def inside? : Nat → Nat → Mode → Option (SetOp × Bracketed) → Items → List Char →
    Option (Bracketed × List Char)
  | 0, _, _, _, _, _ => none
  | fuel + 1, level, mode, pending, items, s =>
    match setEnd? (skip mode s) with
    | some r => some (settle mode pending items, r)
    | none =>
      match setPart? mode pending items (skip mode s) with
      | none => none
      | some (.onward pending items, r) => inside? fuel level mode pending items r
      | some (.inward, r) =>
        if maxDepth ≤ level then none
        else
          let start := opened mode r
          match inside? fuel (level + 1) mode none start.1.2 start.2 with
          | none => none
          | some (inner, r) =>
            match inner.closed? mode start.1.1 with
            | some inner => inside? fuel level mode pending (items.add inner) r
            | none => none

/-- A set from behind its opening bracket. -/
def bracket? (mode : Mode) (s : List Char) : Option (Bracketed × List Char) :=
  let start := opened mode s
  match inside? (s.length + 1) 1 mode none start.1.2 start.2 with
  | none => none
  | some (inner, r) => (inner.closed? mode start.1.1).map fun inner => (inner, r)

end Registrar.Pattern
