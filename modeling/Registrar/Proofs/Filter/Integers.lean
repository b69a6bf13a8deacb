import Mathlib.Data.List.Forall2
import Registrar.Filter
import Registrar.Proofs.Desk.Naming
import Registrar.Proofs.Number.Rounding

/-!
Filters on whole numbers. Main statement: the tests that compare decide by the whole numbers themselves
just if no other number of the filter becomes the same floating point number as the one in the row, which
none does to a number below `2 ^ 53`.
-/

namespace Registrar

open Json Number

def Test.isRelation : Test → Bool
  | .equal | .notEqual | .less | .atMost | .greater | .atLeast | .oneOf | .between => true
  | _ => false

/-- What the test asks of a whole number next to those of the filter. -/
def Test.Meets (n : Int) (ms : List Int) : Test → Prop
  | .equal => ms.head? = some n
  | .notEqual => ms.head? ≠ some n
  | .less => ∃ m, ms.head? = some m ∧ n < m
  | .atMost => ∃ m, ms.head? = some m ∧ n ≤ m
  | .greater => ∃ m, ms.head? = some m ∧ m < n
  | .atLeast => ∃ m, ms.head? = some m ∧ m ≤ n
  | .oneOf => n ∈ ms
  | .between => ∃ low high rest, ms = low :: high :: rest ∧ low ≤ n ∧ n ≤ high
  | _ => False

/-- The value is the whole number, or its text. -/
def Spells (v : Value) (m : Int) : Prop := v = .int m ∨ v = .text (intText m)

variable {n m : Int} {v : Value} {vs : List Value} {ms : List Int}

theorem trim_intText (n : Int) : Text.trim (intText n) = intText n := by
  refine Text.trim_of_no_blanks fun c hc => ?_
  cases n with
  | ofNat m => exact not_isBlank_of_isDigit (isDigit_of_mem_natText hc)
  | negSucc m =>
    rw [intText, String.toList_append, List.mem_append] at hc
    rcases hc with sign | digit
    · cases List.mem_singleton.1 sign
      rfl
    · exact not_isBlank_of_isDigit (isDigit_of_mem_natText digit)

theorem Spells.number? (h : Spells v m) : Row.number? v = some (.ofInt m) := by
  rcases h with rfl | rfl
  · rfl
  · rw [Row.number?, ← Text.toList_trim, trim_intText, readDouble?_intText]

theorem Spells.compare? (h : Spells v m) (n : Int) :
    Row.compare? (.int n) v = some (compare (held n) (held m)) := by
  have here : Row.number? (.int n) = some (.ofInt n) := rfl
  rw [Row.compare?, here, h.number?]
  exact Double.compare?_ofInt_eq n m

theorem compare_held (apart : held m = held n → m = n) :
    compare (held n) (held m) = compare n m := by
  rcases Int.lt_trichotomy n m with lt | rfl | gt
  · have distinct : held n ≠ held m := fun same => lt.ne (apart same.symm).symm
    rw [Int.compare_eq_lt.2 lt, Int.compare_eq_lt.2 (lt_of_le_of_ne (held_mono lt.le) distinct)]
  · rw [Int.compare_eq_eq.2 rfl, Int.compare_eq_eq.2 rfl]
  · have distinct : held m ≠ held n := fun same => gt.ne (apart same)
    rw [Int.compare_eq_gt.2 gt, Int.compare_eq_gt.2 (lt_of_le_of_ne (held_mono gt.le) distinct)]

theorem Spells.order? (h : Spells v m) (apart : held m = held n → m = n) :
    Predicate.order? (some (.int n)) (some v) = some (compare n m) := by
  rw [Predicate.order?, h.compare?, compare_held apart]

theorem order?_head? (spelled : List.Forall₂ Spells vs ms)
    (apart : ∀ m ∈ ms, held m = held n → m = n) :
    Predicate.order? (some (.int n)) vs.head? = ms.head?.map (compare n) := by
  cases spelled with
  | nil => rfl
  | cons first _ => exact first.order? (apart _ List.mem_cons_self)

section Relations

variable {o : Option Int} {relation : Int → Prop}

theorem isEqual_compare : Predicate.isEqual (some (compare n m)) ↔ m = n := by
  rw [Predicate.isEqual, beq_iff_eq, Option.some_inj, Int.compare_eq_eq, eq_comm]

theorem isAtMost_compare : Predicate.isAtMost (some (compare n m)) ↔ n ≤ m := by
  rw [← Int.isLE_compare]
  cases compare n m <;> decide

theorem isAtLeast_compare : Predicate.isAtLeast (some (compare n m)) ↔ m ≤ n := by
  rw [← Int.isGE_compare]
  cases compare n m <;> decide

theorem map_compare_iff {answer : Option Ordering → Bool} (none : answer none = false)
    (one : ∀ m, answer (some (compare n m)) ↔ relation m) :
    answer (o.map (compare n)) ↔ ∃ m, o = some m ∧ relation m := by
  cases o with
  | none => exact iff_of_false (by simp [none]) (by simp)
  | some m => simp [one]

theorem isEqual_head : Predicate.isEqual (o.map (compare n)) ↔ o = some n := by
  rw [map_compare_iff rfl fun m => isEqual_compare]
  simp

end Relations

theorem any_isEqual (spelled : List.Forall₂ Spells vs ms)
    (apart : ∀ m ∈ ms, held m = held n → m = n) :
    (vs.any fun v => Predicate.isEqual (Predicate.order? (some (.int n)) (some v))) ↔ n ∈ ms := by
  induction spelled with
  | nil => simp
  | @cons v m vs ms here _ ih =>
    rw [List.any_cons, Bool.or_eq_true, here.order? (apart m List.mem_cons_self), isEqual_compare,
      ih fun k hk => apart k (List.mem_cons_of_mem _ hk), List.mem_cons, eq_comm]

/-- Where no other number of the filter becomes what the row's number becomes, the test is decided by the
numbers. -/
theorem holdsFor_iff {test : Test} (relation : test.isRelation) (spelled : List.Forall₂ Spells vs ms)
    (apart : ∀ m ∈ ms, held m = held n → m = n) (properties : List String) :
    (Predicate.mk test properties vs).holdsFor (some (.int n)) ↔ test.Meets n ms := by
  have first := order?_head? spelled apart
  cases test with
  | equal =>
    rw [Predicate.holdsFor, first]
    exact isEqual_head
  | notEqual =>
    rw [Predicate.holdsFor, first, Bool.not_eq_true', ← Bool.not_eq_true]
    exact not_congr isEqual_head
  | less =>
    rw [Predicate.holdsFor, first]
    exact @map_compare_iff n _ _ (· == some .lt) rfl fun m => by simp [Int.compare_eq_lt]
  | atMost =>
    rw [Predicate.holdsFor, first]
    exact map_compare_iff rfl fun m => isAtMost_compare
  | greater =>
    rw [Predicate.holdsFor, first]
    exact @map_compare_iff n _ _ (· == some .gt) rfl fun m => by simp [Int.compare_eq_gt]
  | atLeast =>
    rw [Predicate.holdsFor, first]
    exact map_compare_iff rfl fun m => isAtLeast_compare
  | oneOf => exact any_isEqual spelled apart
  | between =>
    cases spelled with
    | nil => exact iff_of_false Bool.false_ne_true (by simp [Test.Meets])
    | cons low rest =>
      cases rest with
      | nil => exact iff_of_false Bool.false_ne_true (by simp [Test.Meets])
      | cons high rest =>
        rw [Predicate.holdsFor]
        dsimp only
        rw [low.order? (apart _ List.mem_cons_self),
          high.order? (apart _ (List.mem_cons_of_mem _ List.mem_cons_self)), Bool.and_eq_true,
          isAtLeast_compare, isAtMost_compare]
        simp [Test.Meets]
  | contains => cases relation
  | beginsWith => cases relation
  | endsWith => cases relation
  | present => cases relation
  | missing => cases relation
  | inScope => cases relation

namespace Predicate

/-- The tests that compare decide by whole numbers as such just if no other number they may be given
becomes what the row's number becomes; below `2 ^ 53` none does. -/
theorem exact_iff_apart {row : Value} {property : String} {n : Int}
    (present : Row.extract row property = some (.int n)) (given : Int → Prop) :
    ((∀ test vs ms, test.isRelation → List.Forall₂ Spells vs ms → (∀ m ∈ ms, given m) →
        ((Predicate.mk test [property] vs).holds row ↔ test.Meets n ms)) ↔
      ∀ m, given m → held m = held n → m = n) ∧
    (n.natAbs < 2 ^ 53 → ∀ m, held m = held n → m = n) := by
  have single (test : Test) (vs : List Value) : (Predicate.mk test [property] vs).holds row =
      (Predicate.mk test [property] vs).holdsFor (some (.int n)) := by
    rw [holds, List.any_cons, List.any_nil, Bool.or_false, present]
  refine ⟨⟨fun decided m hm same => ?_, fun apart test vs ms relation spelled all => ?_⟩,
    fun small m => eq_of_held_eq small⟩
  · have spelled : List.Forall₂ Spells [.int m] [m] := .cons (.inl rfl) .nil
    have here := (Spells.compare? (.inl rfl) n : Row.compare? (.int n) (.int m) = _)
    have passes : (Predicate.mk .equal [property] [.int m]).holds row := by
      rw [single, holdsFor]
      dsimp only [List.head?_cons]
      rw [order?, here, same, Int.compare_eq_eq.2 rfl]
      rfl
    have met := (decided .equal _ _ rfl spelled (by simpa using hm)).1 passes
    exact Option.some_inj.1 met
  · rw [single]
    exact holdsFor_iff relation spelled (fun m hm => apart m (all m hm)) [property]

/-- An even number beyond `2 ^ 53` is told from the next one by its text. -/
theorem even_number_below_next :
    (Predicate.mk .less ["id"] [.text "9007199254740996"]).holds
      (.object [("id", .int 9007199254740994)]) := by
  have apart : ∀ m : Int, m = 9007199254740996 → held m = held 9007199254740994 →
      m = 9007199254740994 := by
    rintro m rfl same
    exact absurd same (by decide +kernel)
  have present : Row.extract (.object [("id", .int 9007199254740994)]) "id" =
      some (.int 9007199254740994) := rfl
  have text : intText 9007199254740996 = "9007199254740996" := by decide +kernel
  exact ((exact_iff_apart present (· = 9007199254740996)).1.2 apart .less _ [9007199254740996] rfl
    (.cons (.inr (congrArg Value.text text.symm)) .nil) (by simp)).2 ⟨_, rfl, by decide⟩

/-- The next number after `2 ^ 53` is taken for `2 ^ 53`. -/
theorem odd_number_equals_last :
    Row.extract (.object [("id", .int 9007199254740993)]) "id" = some (.int 9007199254740993) ∧
    (Predicate.mk .equal ["id"] [.int 9007199254740992]).holds
      (.object [("id", .int 9007199254740993)]) ∧
    ¬Test.equal.Meets 9007199254740993 [9007199254740992] := by
  refine ⟨rfl, by decide +kernel, ?_⟩
  rintro ⟨⟩

end Predicate
end Registrar
