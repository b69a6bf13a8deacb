import Registrar.Pattern.Tree

/-!
Sets of places of a text, as numbers: bit `k` says whether the place behind the first `k` characters
is in the set. Main statements: the places in front of a kind of character are those where the text
goes on with one, and the places of an anchor are those where it holds.
-/

namespace Registrar.Pattern

open Text

abbrev Places := Nat

namespace Places

def all (length : Nat) : Places := 1 <<< (length + 1) - 1

def ofList (bits : List Bool) : Places := bits.foldr (fun bit places => 2 * places + bit.toNat) 0

theorem testBit_ofList (bits : List Bool) (k : Nat) :
    (ofList bits).testBit k = bits.getD k false := by
  induction bits generalizing k with
  | nil => simp [ofList]
  | cons bit bits ih =>
    have parts : ofList (bit :: bits) = 2 * ofList bits + bit.toNat := rfl
    cases k with
    | zero => cases bit <;> simp [parts, Nat.testBit_zero]
    | succ k =>
      rw [Nat.testBit_succ, List.getD_cons_succ, ← ih, parts]
      exact congrArg (Nat.testBit · k) (by cases bit <;> simp; omega)

end Places

/-! ### Characters -/

/-- Each character of a text with the places in front of it. -/
abbrev Letters := List (Char × Places)

namespace Letters

def add (c : Char) (k : Nat) : Letters → Letters
  | [] => [(c, 1 <<< k)]
  | (d, places) :: r =>
    if c = d then (d, places ||| 1 <<< k) :: r else (d, places) :: add c k r

/-- The letters of a text that begins behind `k` characters. -/
def collect (letters : Letters) (k : Nat) : List Char → Letters
  | [] => letters
  | c :: r => collect (letters.add c k) (k + 1) r

def ofText (text : List Char) : Letters := collect [] 0 text

def ahead (test : Char → Bool) : Letters → Places
  | [] => 0
  | (c, places) :: r => (if test c then places else 0) ||| ahead test r

theorem testBit_ahead_add (test : Char → Bool) (c : Char) (n k : Nat) (letters : Letters) :
    ((letters.add c n).ahead test).testBit k =
      ((letters.ahead test).testBit k || (test c && decide (n = k))) := by
  induction letters with
  | nil => cases h : test c <;> simp [add, ahead, h, Nat.one_shiftLeft, Nat.testBit_two_pow]
  | cons letter r ih =>
    obtain ⟨d, places⟩ := letter
    unfold add
    split
    · next same =>
      subst same
      cases h : test c <;>
        simp [ahead, h, Nat.testBit_or, Nat.one_shiftLeft, Nat.testBit_two_pow, Bool.or_assoc,
          Bool.or_comm]
    · simp [ahead, Nat.testBit_or, ih, Bool.or_assoc]

theorem testBit_ahead_collect (test : Char → Bool) (text : List Char) (letters : Letters)
    (n k : Nat) :
    ((collect letters n text).ahead test).testBit k =
      ((letters.ahead test).testBit k || (decide (n ≤ k) && text[k - n]?.any test)) := by
  induction text generalizing letters n with
  | nil => simp [collect]
  | cons c r ih =>
    rw [collect, ih, testBit_ahead_add, Bool.or_assoc]
    congr 1
    rcases Nat.lt_trichotomy n k with h | h | h
    · obtain ⟨j, rfl⟩ : ∃ j, k = n + 1 + j := ⟨k - (n + 1), by omega⟩
      have behind : n + 1 + j - n = j + 1 := by omega
      simp [behind, show n ≠ n + 1 + j by omega, show n ≤ n + 1 + j by omega]
    · subst h
      simp [show ¬ n + 1 ≤ n by omega]
    · simp [show n ≠ k by omega, show ¬ n + 1 ≤ k by omega, show ¬ n ≤ k by omega]

theorem testBit_ahead (test : Char → Bool) (text : List Char) (k : Nat) :
    ((ofText text).ahead test).testBit k = text[k]?.any test := by
  simp [ofText, testBit_ahead_collect, ahead]

end Letters

/-! ### Anchors -/

def Anchor.places (a : Anchor) (ascii : Bool) (text : List Char) : Places :=
  .ofList ((none :: text.map some).zipWith (a.holds ascii) (text.map some ++ [none]))

theorem Anchor.testBit_places (a : Anchor) (ascii : Bool) (text : List Char) (k : Nat)
    (h : k ≤ text.length) :
    (a.places ascii text).testBit k =
      a.holds ascii (if k = 0 then none else text[k - 1]?) text[k]? := by
  rw [places, Places.testBit_ofList, List.getD_eq_getElem?_getD, List.getElem?_zipWith]
  have before : (none :: text.map some)[k]? = some (if k = 0 then none else text[k - 1]?) := by
    cases k with
    | zero => rfl
    | succ k => simp [show k < text.length by omega]
  have behind : (text.map some ++ [none])[k]? = some text[k]? := by
    rcases Nat.lt_or_eq_of_le h with h | h
    · simp [h, List.getElem?_append_left]
    · subst h
      simp
  rw [before, behind]
  rfl

end Registrar.Pattern
