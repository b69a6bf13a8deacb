import Registrar.Row

/-!
Counting rows by the texts of some of their properties. Main statement: the counts sum to the number
of rows.
-/

namespace Registrar

open Json

/-- How often each list of texts occurred, the lists in ascending order. -/
abbrev Tally := List (List String × Nat)

namespace Tally

def count (key : List String) : Tally → Tally
  | [] => [(key, 1)]
  | (k, n) :: r =>
    if key < k then (key, 1) :: (k, n) :: r
    else if k = key then (k, n + 1) :: r
    else (k, n) :: count key r

def keyOf (properties : List String) (row : Value) : List String := properties.map (Row.textAt row)

def ofRows (properties : List String) (rows : List Value) : Tally :=
  rows.foldl (fun tally row => count (keyOf properties row) tally) []

/-- A counted list as a row: the properties with their texts, and the count. -/
def toRow (properties : List String) (entry : List String × Nat) : Value :=
  .ofPairs ((properties.zip entry.1).map (fun (name, text) => (name, .text text)) ++
    [("count", .int entry.2)])

def total (tally : Tally) : Nat := tally.foldr (fun e n => e.2 + n) 0

theorem total_count (key : List String) (tally : Tally) :
    (count key tally).total = tally.total + 1 := by
  induction tally with
  | nil => rfl
  | cons e r ih =>
    obtain ⟨k, n⟩ := e
    unfold count
    unfold total at ih ⊢
    split
    · simp only [List.foldr_cons]
      omega
    · split
      · simp only [List.foldr_cons]
        omega
      · simp only [List.foldr_cons, ih]
        omega

theorem total_ofRows (properties : List String) (rows : List Value) :
    (ofRows properties rows).total = rows.length := by
  have go : ∀ (rows : List Value) (tally : Tally),
      (rows.foldl (fun tally row => count (keyOf properties row) tally) tally).total =
        tally.total + rows.length := by
    intro rows
    induction rows with
    | nil => simp
    | cons row r ih =>
      intro tally
      simp only [List.foldl_cons, ih, total_count, List.length_cons]
      omega
  simpa [total, ofRows] using go rows []

end Tally
end Registrar
