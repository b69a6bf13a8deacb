import Registrar.Error
import Registrar.Params
import Registrar.Sorting

/-!
Pages of a list. Page numbers start at 1; sizes and numbers are words of 64 bits, and the start of a
page that lies beyond them is the greatest word. A sum of rows and size that lies beyond them ends the
request.
-/

namespace Registrar

open Number

/-- The page size without a wish of the client, and the greatest one a client can have. -/
structure PageLimits where
  default : Nat := 20
  most : Nat := 500
deriving DecidableEq, Repr

structure PageRequest where
  number : Nat
  size : Nat
  sort : List SortKey
deriving DecidableEq, Repr

structure Page (α : Type) where
  content : List α
  totalElements : Nat
  totalPages : Nat
  number : Nat
  size : Nat
deriving Repr

/-- A word above zero. -/
def positive? (raw : Option String) : Option Nat :=
  match raw with
  | none => none
  | some raw =>
    match readUnsigned maxWord64 raw.toList with
    | .ok n => if 0 < n then some n else none
    | .error _ => none

namespace PageRequest

def ofParams (params : Params) (limits : PageLimits) : PageRequest where
  number := (positive? (params.get? "page")).getD 1
  size := min ((positive? (params.get? "rows" <|> params.get? "size")).getD limits.default)
    limits.most
  sort := (params.getAll "sort").filterMap SortKey.read?

def offset (request : PageRequest) : Nat := min ((request.number - 1) * request.size) maxWord64

end PageRequest

/-- The word that a step of a computation results in, if the result is one. -/
def word? (n : Int) : Option Nat := if 0 ≤ n ∧ n ≤ maxWord64 then some n.toNat else none

/-- The number of pages, unless a step of the rounding up leaves the words. -/
def pageCount? (total size : Nat) : Option Nat :=
  if size = 0 then some 0
  else do
    let sum ← word? (total + size)
    let last ← word? (sum - 1)
    return last / size

/-- The page of a list that is asked for. -/
def Page.ofAll {α : Type} (all : List α) (request : PageRequest) : Except Error (Page α) :=
  match pageCount? all.length request.size with
  | none => .error (.panic .overflow)
  | some totalPages =>
    .ok {
      content := (all.drop request.offset).take request.size
      totalElements := all.length
      totalPages
      number := request.number
      size := request.size }

theorem positive?_bounds {raw : Option String} {n : Nat} (h : positive? raw = some n) :
    0 < n ∧ n ≤ maxWord64 := by
  unfold positive? at h
  split at h
  · cases h
  · next raw =>
    split at h
    · next m read =>
      split at h
      · next positive =>
        cases h
        exact ⟨positive, readUnsigned_le read⟩
      · cases h
    · cases h

theorem positive?_getD_bounds (raw : Option String) {default : Nat} (least : 0 < default)
    (word : default ≤ maxWord64) :
    0 < (positive? raw).getD default ∧ (positive? raw).getD default ≤ maxWord64 := by
  cases read : positive? raw with
  | none => exact ⟨least, word⟩
  | some n => exact positive?_bounds read

theorem PageRequest.ofParams_number_pos (params : Params) (limits : PageLimits) :
    0 < (ofParams params limits).number :=
  (positive?_getD_bounds _ Nat.one_pos (by decide)).1

theorem PageRequest.ofParams_number_le (params : Params) (limits : PageLimits) :
    (ofParams params limits).number ≤ maxWord64 :=
  (positive?_getD_bounds _ Nat.one_pos (by decide)).2

theorem PageRequest.ofParams_size_le (params : Params) (limits : PageLimits) :
    (ofParams params limits).size ≤ limits.most := Nat.min_le_right _ _

end Registrar
