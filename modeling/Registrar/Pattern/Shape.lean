import Registrar.Pattern.Tree

/-!
Building patterns in normal form. Sequences and alternatives are chains to the right and never hold
one of their own kind on the left; neighbouring texts are one text; alternatives of single
characters or of sets are one set; what all alternatives begin with stands in front of them.
-/

namespace Registrar.Pattern

open Text

namespace Tree

/-! ### Measures -/

/-- The lowest number of bytes in a match; nothing if there is no match at all. -/
def leastLength? : Tree → Option Nat
  | .empty => some 0
  | .text s => some (String.ofList s).utf8ByteSize
  | .one s => s.head?.map fun (low, _) => (Char.ofNat low).utf8Size
  | .anchor .. => some 0
  | .group _ p => p.leastLength?
  | .cat p q =>
    match p.leastLength?, q.leastLength? with
    | some m, some n => some (m + n)
    | _, _ => none
  | .alt p q =>
    match p.leastLength?, q.leastLength? with
    | some m, some n => some (min m n)
    | _, _ => none
  | .repeated p least _ => p.leastLength?.map (· * least)

def isWidthless : Tree → Bool
  | .empty | .anchor .. => true
  | .text s => s.isEmpty
  | .one _ => false
  | .group _ p => p.isWidthless
  | .cat p q | .alt p q => p.isWidthless && q.isWidthless
  | .repeated p _ most => most.isSome && p.isWidthless

/-! ### Sets and repetitions -/

/-- A set as a pattern; a set of one character is a text. -/
def ofSet : Ranges → Tree
  | [(low, high)] => if low = high then .text [Char.ofNat low] else .one [(low, high)]
  | s => .one s

/-- A repetition. More than one empty match means nothing. -/
def times (p : Tree) (least : Nat) (most : Option Nat) : Tree :=
  let (least, most) :=
    if p.isWidthless then (min least 1, some (min (most.getD 1) 1)) else (least, most)
  if least = 0 ∧ most = some 0 then .empty
  else if least = 1 ∧ most = some 1 then p
  else .repeated p least most

/-! ### Sequences -/

def parts : Tree → List Tree
  | .empty => []
  | .cat p q => p :: q.parts
  | p => [p]

def prepend (p : Tree) (ps : List Tree) : List Tree :=
  match p, ps with
  | .text s, .text t :: ps => .text (s ++ t) :: ps
  | p, ps => p :: ps

def chain : List Tree → Tree
  | [] => .empty
  | [p] => p
  | p :: ps => .cat p (chain ps)

def sequence (ps : List Tree) : Tree := chain ((ps.flatMap parts).foldr prepend [])

/-! ### Alternatives -/

def branches : Tree → List Tree
  | .alt p q => p :: q.branches
  | p => [p]

def fork : List Tree → Tree
  | [] => .one []
  | [p] => p
  | p :: ps => .alt p (fork ps)

def char? : Tree → Option Nat
  | .text [c] => some c.toNat
  | _ => none

def set? : Tree → Option Ranges
  | .one s => some s
  | _ => none

/-- The set that stands for all alternatives, if they are characters only or sets only. -/
def commonSet? (ps : List Tree) : Option Ranges :=
  match ps.mapM char? with
  | some chars => some (.unions (chars.map Ranges.single))
  | none => (ps.mapM set?).map .unions

/-- Alternatives without regard to what they begin with. -/
def flatChoice (ps : List Tree) : Tree :=
  match ps.flatMap branches with
  | p :: q :: r =>
    match commonSet? (p :: q :: r) with
    | some s => ofSet s
    | none => fork (p :: q :: r)
  | ps => fork ps

def commonLength : List Tree → List Tree → Nat
  | p :: ps, q :: qs => if p = q then commonLength ps qs + 1 else 0
  | _, _ => 0

/-- The parts that all sequences begin with; none if one of them has fewer than two parts. -/
def commonParts : List (List Tree) → List Tree
  | [] => []
  | ps :: rest =>
    if ps.length < 2 ∨ rest.any fun qs => qs.length < 2 then []
    else rest.foldl (fun common qs => common.take (commonLength common qs)) ps

def choice (ps : List Tree) : Tree :=
  match flatChoice ps with
  | .alt p q =>
    let sequences := (branches (.alt p q)).map parts
    match commonParts sequences with
    | [] => .alt p q
    | common =>
      let rest := sequences.map fun ps => chain (ps.drop common.length)
      sequence (common ++ [flatChoice rest])
  | p => p

end Tree
end Registrar.Pattern
