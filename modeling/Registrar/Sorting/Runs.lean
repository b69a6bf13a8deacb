import Registrar.Sorting.Small

/-!
Sorting lists of any length. A list is cut into runs: stretches that are sorted as they stand, and others,
which are sorted when they have to be merged with a sorted one. The merges follow a tree that keeps the runs
balanced. What is not sorted at all is divided at a pivot. A test that contradicts itself may leave a list
without a result; otherwise elements of which none is less than the other keep their order.
-/

namespace Registrar.Sorting

variable {α : Type} (less : α → α → Bool)

/-- Merges two sorted lists, beginning at the front if the first one is not longer, else at the back. -/
def merge (l r : List α) : List α :=
  if l.length ≤ r.length then List.merge l r fun x y => !less y x
  else (List.merge l.reverse r.reverse fun x y => less y x).reverse

/-- A stretch of the list, with its elements in order or as they came. -/
structure Run (α : Type) where
  items : List α
  sorted : Bool

/-- How many elements from the front are less than the one before them, or how many are not. -/
def streak (down : Bool) (previous : α) : List α → Nat
  | [] => 0
  | x :: r => if less x previous == down then streak down x r + 1 else 0

/-- How long the first stretch is that is in order as it stands or strictly in the opposite order, and
which of both. -/
def firstStretch : List α → Nat × Bool
  | a :: b :: r => (streak less (less b a) b r + 2, less b a)
  | v => (v.length, false)

/-- The run at the front and the elements behind it. A stretch in order has to be of good length; otherwise
an eager sort sorts some elements, and another one takes them as they are. -/
def nextRun (good : Nat) (eager : Bool) (v : List α) : Option (Run α × List α) :=
  let (n, down) := firstStretch less v
  if good ≤ n then
    some (⟨if down then (v.take n).reverse else v.take n, true⟩, v.drop n)
  else if eager then (small less (v.take 32)).map fun items => (⟨items, true⟩, v.drop 32)
  else some (⟨v.take good, false⟩, v.drop good)

/-- Cuts a list into runs, at most `n` of them and the rest. -/
def runs (good : Nat) (eager : Bool) : Nat → List α → Option (List (Run α))
  | _, [] => some []
  | 0, v => some [⟨v, false⟩]
  | n + 1, v => do
    let (run, rest) ← nextRun less good eager v
    return run :: (← runs good eager n rest)

/-- The length that a sorted stretch needs to be kept as a run. -/
def goodLength (n : Nat) : Nat :=
  if n ≤ 4096 then min (n - n / 2) 64
  else
    let shift := (n.log2 + 1) / 2
    (1 <<< shift + n >>> shift) / 2

/-- How deep in the tree of merges two neighbouring stretches of a list meet, in words of 64 bits. -/
def depth (length start middle stop : Nat) : Nat :=
  let scale := (1 <<< 62 + length - 1) / length
  let apart := scale * (start + middle) ^^^ scale * (middle + stop)
  if apart = 0 then 64 else 63 - apart.log2

section Merging

variable (quick : List α → Option (List α)) (capacity : Nat)

def Run.settle (run : Run α) : Option (List α) :=
  if run.sorted then some run.items else quick run.items

/-- Merges two neighbouring runs. As long as the memory has room for them, two that are not sorted become
one that is not. -/
def join (l r : Run α) : Option (Run α) :=
  if l.items.length + r.items.length ≤ capacity ∧ !l.sorted ∧ !r.sorted then
    some ⟨l.items ++ r.items, false⟩
  else do
    return ⟨merge less (← l.settle quick) (← r.settle quick), true⟩

/-- Merges the last run with those before it that are to be merged at the depth or deeper. The runs before
it stand in a stack with the depth of their merge, and the lowest of the stack stays. -/
def collapse (depth : Nat) (last : Run α) :
    List (Run α × Nat) → Option (Run α × List (Run α × Nat))
  | (run, d) :: below :: rest =>
    if depth ≤ d then do collapse depth (← join less quick capacity run last) (below :: rest)
    else some (last, (run, d) :: below :: rest)
  | stack => some (last, stack)

/-- Merges a last run that ends at a place, the runs before it and those that follow. -/
def mergeRuns (depth : Nat → Nat → Nat → Nat) (place : Nat) (last : Run α)
    (stack : List (Run α × Nat)) : List (Run α) → Option (List α)
  | [] => do
    let (whole, _) ← collapse less quick capacity 0 last stack
    whole.settle quick
  | next :: r => do
    let d := depth (place - last.items.length) place (place + next.items.length)
    let (merged, stack) ← collapse less quick capacity d last stack
    mergeRuns depth (place + next.items.length) next ((merged, d) :: stack) r

/-- Sorts a list by merging its runs, the first of which follows an empty one. -/
def drift (eager : Bool) (v : List α) : Option (List α) :=
  if v.length < 2 then some v
  else do
    let runs ← runs less (goodLength v.length) eager v.length v
    mergeRuns less quick capacity (depth v.length) 0 ⟨[], true⟩ [] runs

end Merging

/-- The place of the middle one of three elements. -/
def median (before : Nat → Nat → Bool) (a b c : Nat) : Nat :=
  if before a b == before a c then if before b c == before a b then b else c else a

/-- The place of an element about in the middle, found from three stretches of one length. -/
def medianOf (before : Nat → Nat → Bool) (n a b c : Nat) : Nat :=
  if 8 ≤ n then
    let m := n / 8
    median before (medianOf before m a (a + 4 * m) (a + 7 * m))
      (medianOf before m b (b + 4 * m) (b + 7 * m)) (medianOf before m c (c + 4 * m) (c + 7 * m))
  else median before a b c
termination_by n

def pivotAt (v : List α) : Nat :=
  let before (i j : Nat) : Bool :=
    match v[i]?, v[j]? with
    | some x, some y => less x y
    | _, _ => false
  let n := v.length / 8
  medianOf before n 0 (4 * n) (7 * n)

/-- The elements that pass a test and those that do not, in their order; the pivot is not tested. -/
def divide (test : α → Bool) (pivotPasses : Bool) (before : List α) (pivot : α) (after : List α) :
    List α × List α :=
  let own := if pivotPasses then ([pivot], []) else ([], [pivot])
  (before.filter test ++ own.1 ++ after.filter test,
    before.filter (fun x => !test x) ++ own.2 ++ after.filter fun x => !test x)

/-- Sorts a list by dividing it at a pivot, up to a limit. What is not less than a pivot may be as great as
the one that bounds it from below; then the elements level with it are put aside. -/
def quick (capacity : Nat) : Nat → Option α → List α → Option (List α)
  | 0, _, v =>
    if v.length ≤ 32 then small less v
    else drift less (fun v => some (insertion less v)) capacity true v
  | limit + 1, bound, v =>
    if v.length ≤ 32 then small less v
    else
      match v.drop (pivotAt less v) with
      -- The pivot always lies in the list.
      | [] => drift less (fun v => some (insertion less v)) capacity true v
      | pivot :: after =>
        let before := v.take (pivotAt less v)
        let (lower, upper) := divide (fun x => less x pivot) false before pivot after
        if (bound.any fun b => !less b pivot) || lower.isEmpty then
          let (level, upper) := divide (fun x => !less pivot x) true before pivot after
          (quick capacity limit none upper).map (level ++ ·)
        else do
          return (← quick capacity limit bound lower) ++ (← quick capacity limit (some pivot) upper)

/-- Sorts a list of elements of some bytes each, which decides how many of them the memory for sorting
holds. -/
def sort? (bytes : Nat) (v : List α) : Option (List α) :=
  if v.length ≤ 20 then some (insertion less v)
  else
    let wanted := max (v.length - v.length / 2) (min v.length (8000000 / bytes))
    let capacity := max (max wanted 48) (4096 / bytes)
    let unsorted (w : List α) := quick less capacity (2 * w.length.log2) none w
    drift less unsorted capacity (v.length ≤ 64) v

end Registrar.Sorting
