/-!
Sorting short lists by a test that tells whether one element is less than another. Up to twenty elements are
inserted one by one. Somewhat longer lists are cut in two halves that are sorted and then merged from both
ends at once; a test that contradicts itself may keep the two ends from meeting, and then there is no result.
-/

namespace Registrar.Sorting

variable {α : Type} (less : α → α → Bool)

/-- Puts an element behind all that are not greater; the list runs from the last element to the first. -/
def place (x : α) : List α → List α
  | [] => [x]
  | y :: r => if less x y then y :: place x r else x :: y :: r

/-- Takes more elements one by one and moves each in front of the greater ones at the end. -/
def insertAll (sorted more : List α) : List α :=
  (more.foldl (fun back x => place less x back) sorted.reverse).reverse

def insertion (v : List α) : List α := insertAll less [] v

def pair (a b : α) : α × α := if less b a then (b, a) else (a, b)

/-- Joins two sorted pairs. The least and the greatest element are found by two tests, which leave two
elements in the middle to compare. -/
def joinPairs (a b c d : α) : List α :=
  let least := if less c a then c else a
  let greatest := if less d b then b else d
  let leftmost := if less c a then a else if less d b then c else b
  let rightmost := if less d b then d else if less c a then b else c
  let middle := pair less leftmost rightmost
  [least, middle.1, middle.2, greatest]

def four (a b c d : α) : List α :=
  let first := pair less a b
  let second := pair less c d
  joinPairs less first.1 first.2 second.1 second.2

/-- Sorts one half of a list; of a long list the first four elements are sorted at once. -/
def half (long : Bool) : List α → List α
  | a :: b :: c :: d :: r =>
    if long then insertAll less (four less a b c d) r else insertion less (a :: b :: c :: d :: r)
  | v => insertion less v

/-- What a merge has taken from the front of two lists, and what it has left of them. -/
structure Partial (α : Type) where
  taken : List α
  left : List α
  right : List α

/-- The first steps of a merge, with a test whether the left one of two elements is next. -/
def steps (leftFirst : α → α → Bool) : Nat → List α → List α → Partial α
  | n + 1, x :: l, y :: r =>
    if leftFirst x y then
      let p := steps leftFirst n l (y :: r)
      { p with taken := x :: p.taken }
    else
      let p := steps leftFirst n (x :: l) r
      { p with taken := y :: p.taken }
  | _, l, r => ⟨[], l, r⟩

/-- Gives an element that is left over in the middle to the list that has one to spare, if the lists
differ in length. -/
def middle (l r : List α) (front back : Partial α) : Partial α :=
  if l.length = r.length then { front with taken := [] }
  else if l.length < front.left.length + back.left.length then
    ⟨front.left.take 1, front.left.drop 1, front.right⟩
  else ⟨front.right.take 1, front.left, front.right.drop 1⟩

/-- Merges two sorted lists, the second one as long as the first or longer by one, from both ends. -/
def meet (l r : List α) : Option (List α) :=
  let front := steps (fun x y => !less y x) l.length l r
  let back := steps (fun x y => less y x) l.length l.reverse r.reverse
  let middle := middle l r front back
  if middle.left.length + back.left.length = l.length ∧
      middle.right.length + back.right.length = r.length then
    some (front.taken ++ middle.taken ++ back.taken.reverse)
  else none

/-- Sorts up to 32 elements. -/
def small (v : List α) : Option (List α) :=
  if v.length < 2 then some v
  else
    let long := 8 ≤ v.length
    meet less (half less long (v.take (v.length / 2))) (half less long (v.drop (v.length / 2)))

end Registrar.Sorting
