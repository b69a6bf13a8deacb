/-!
Searching and cutting texts, on their characters: the pieces between separators, the first cut,
occurrence inside a text.
-/

namespace Registrar.Text

def consHead (c : Char) : List (List Char) → List (List Char)
  | [] => [[c]]
  | p :: ps => (c :: p) :: ps

/-- The pieces of a text between the occurrences of `sep`; without one, the text itself. -/
def pieces (sep : Char) : List Char → List (List Char)
  | [] => [[]]
  | c :: r => if c = sep then [] :: pieces sep r else consHead c (pieces sep r)

/-- The pieces of a text between the leftmost disjoint occurrences of the text `sep`. The first
argument counts the characters of an occurrence still to be passed over. -/
def piecesBetween (skip : Nat) (sep : List Char) : List Char → List (List Char)
  | [] => [[]]
  | c :: r =>
    match skip with
    | k + 1 => piecesBetween k sep r
    | 0 =>
      if sep.isPrefixOf (c :: r) then [] :: piecesBetween (sep.length - 1) sep r
      else consHead c (piecesBetween 0 sep r)

/-- What stands before and after the first occurrence of `sep`. -/
def cut? (sep : Char) : List Char → Option (List Char × List Char)
  | [] => none
  | c :: r => if c = sep then some ([], r) else (cut? sep r).map fun (a, b) => (c :: a, b)

/-- `sub` occurs in the text as consecutive characters. -/
def occursIn (sub : List Char) : List Char → Bool
  | [] => sub.isEmpty
  | c :: r => sub.isPrefixOf (c :: r) || occursIn sub r

def split (sep : Char) (s : String) : List String := (pieces sep s.toList).map String.ofList

/-- Capital ASCII letters as small ones, all else as it is. -/
def lowerAscii (s : String) : String := String.ofList (s.toList.map Char.toLower)

theorem pieces_ne_nil (sep : Char) (s : List Char) : pieces sep s ≠ [] := by
  induction s with
  | nil => simp [pieces]
  | cons c r ih =>
    unfold pieces
    split
    · simp
    · cases h : pieces sep r <;> simp [consHead]

end Registrar.Text
