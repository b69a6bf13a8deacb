import Registrar.Proofs.Row.Order
import Registrar.Sorting

/-!
The order of rows by several keys. Main statement: where the values at each key are in one order, so are
the rows, and values are so just if none of them is "not a number" and none stands between the texts of
two numbers that are not in the order of their texts.
-/

namespace Registrar

open Json Row

/-- Some of the rows have the value at the property. -/
def Row.At (rows : Value → Prop) (property : String) (v : Value) : Prop :=
  ∃ row, rows row ∧ extract row property = some v

namespace Sorting

theorem at_iff {given : List Value} {property : String} {v : Value} :
    At (· ∈ given) property v ↔ v ∈ given.filterMap fun row => extract row property := by
  simp [At]

theorem compareOptions_swap (a b : Option Value) : compareOptions b a = (compareOptions a b).swap := by
  cases a with
  | none => cases b <;> rfl
  | some x =>
    cases b with
    | none => rfl
    | some y =>
      rw [compareOptions, compareOptions, compare?_swap x y]
      cases compare? x y <;> rfl

theorem compareOptions_isLE_iff {P : Value → Prop} (ordered : IsOrder P) {a b : Value} (ha : P a)
    (hb : P b) : (compareOptions (some a) (some b)).isLE ↔ AtMost a b := by
  obtain ⟨o, compared, _⟩ := ordered.total a b ha hb
  simp [compareOptions, AtMost, compared]

theorem compareOptions_trans {P : Value → Prop} (ordered : IsOrder P) {a b c : Option Value}
    (ha : ∀ v, a = some v → P v) (hb : ∀ v, b = some v → P v) (hc : ∀ v, c = some v → P v)
    (ab : (compareOptions a b).isLE) (bc : (compareOptions b c).isLE) :
    (compareOptions a c).isLE := by
  cases a with
  | none => cases c <;> rfl
  | some x =>
    cases b with
    | none => cases ab
    | some y =>
      cases c with
      | none => cases bc
      | some z =>
        rw [compareOptions_isLE_iff ordered (ha x rfl) (hb y rfl)] at ab
        rw [compareOptions_isLE_iff ordered (hb y rfl) (hc z rfl)] at bc
        rw [compareOptions_isLE_iff ordered (ha x rfl) (hc z rfl)]
        exact ordered.trans x y z (ha x rfl) (hb y rfl) (hc z rfl) ab bc

section Rows

variable {rows : Value → Prop}

theorem transCmp_compareBy {key : SortKey} (ordered : IsOrder (At rows key.property)) :
    Std.TransCmp fun a b : {row // rows row} => compareBy key a b := by
  have ascending : Std.TransCmp fun a b : {row // rows row} =>
      compareOptions (extract a key.property) (extract b key.property) :=
    { eq_swap := compareOptions_swap _ _
      isLE_trans := fun {a b c} => compareOptions_trans ordered (fun _ h => ⟨a, a.2, h⟩)
        (fun _ h => ⟨b, b.2, h⟩) fun _ h => ⟨c, c.2, h⟩ }
  obtain ⟨property, direction⟩ := key
  cases direction with
  | ascending => exact ascending
  | descending =>
    have back : (fun a b : {row // rows row} => compareBy ⟨property, .descending⟩ a b) =
        fun a b : {row // rows row} => compareOptions (extract b property) (extract a property) :=
      funext fun _ => funext fun _ => (compareOptions_swap _ _).symm
    rw [back]
    exact Std.TransCmp.opposite

theorem transCmp_compareRows {keys : List SortKey}
    (ordered : ∀ key ∈ keys, IsOrder (At rows key.property)) :
    Std.TransCmp fun a b : {row // rows row} => compareRows keys a b := by
  induction keys with
  | nil => exact { eq_swap := rfl, isLE_trans := fun _ _ => rfl }
  | cons key rest ih =>
    have first := transCmp_compareBy (ordered key List.mem_cons_self)
    have others := ih fun k hk => ordered k (List.mem_cons_of_mem _ hk)
    exact inferInstanceAs (Std.TransCmp (compareLex
      (fun a b : {row // rows row} => compareBy key a b) fun a b => compareRows rest a b))

end Rows

/-- Values are in one order just if none of them is "not a number" and none stands between the texts of
two numbers that are not in the order of their texts; and where this is so at each key, rows are in one
order by the keys together. -/
theorem one_order_iff_untorn (P rows : Value → Prop) (keys : List SortKey) :
    (IsOrder P ↔ (∀ v, P v → ¬v.IsNan) ∧ Untorn P) ∧
    ((∀ key ∈ keys, (∀ v, At rows key.property v → ¬v.IsNan) ∧ Untorn (At rows key.property)) →
      Std.TransCmp fun a b : {row // rows row} => compareRows keys a b) :=
  ⟨isOrder_iff, fun given => transCmp_compareRows fun key hkey => isOrder_iff.2 (given key hkey)⟩

def shelves : List Value :=
  [.object [("place", .int 10)], .object [("place", .text "9")], .object [("place", .text "attic")]]

/-- Two numbers and a word behind them are in one order, and so are rows that have them. -/
theorem word_behind_numbers_ordered :
    IsOrder (At (· ∈ shelves) "place") ∧
    Std.TransCmp fun a b : {row // row ∈ shelves} => compareRows [⟨"place", .descending⟩] a b := by
  have places (v : Value) (hv : At (· ∈ shelves) "place" v) :
      v = .int 10 ∨ v = .text "9" ∨ v = .text "attic" := by
    have listed : shelves.filterMap (extract · "place") = [.int 10, .text "9", .text "attic"] := rfl
    simpa [listed] using at_iff.1 hv
  have whole : (∀ v, At (· ∈ shelves) "place" v → ¬v.IsNan) ∧ Untorn (At (· ∈ shelves) "place") := by
    constructor
    · intro v hv
      rcases places v hv with rfl | rfl | rfl <;> unfold Value.IsNan <;> decide
    · intro v a b hv _ hb torn
      rcases places v hv with rfl | rfl | rfl
      · exact absurd torn.plain (by decide)
      · exact absurd torn.plain (by decide)
      · rcases places b hb with rfl | rfl | rfl
        · exact absurd torn.between.2 (by decide)
        · exact absurd torn.between.2 (by decide)
        · exact absurd torn.second (by decide)
  obtain ⟨ordered, rows⟩ := one_order_iff_untorn (At (· ∈ shelves) "place") (· ∈ shelves)
    [⟨"place", .descending⟩]
  refine ⟨ordered.2 whole, rows fun key hkey => ?_⟩
  cases List.mem_singleton.1 hkey
  exact whole

/-- Ten comes before the word and the word before nine, which as a number comes before ten; and "nan" is
not equal to itself. -/
theorem not_in_one_order :
    (AtMost (.text "10") (.text "5th") ∧ AtMost (.text "5th") (.text "9") ∧
      ¬AtMost (.text "10") (.text "9")) ∧
    compare? (.text "nan") (.text "nan") ≠ some .eq := by
  refine ⟨⟨⟨.lt, rfl, rfl⟩, ⟨.lt, rfl, rfl⟩, ?_⟩, by decide⟩
  rintro ⟨o, compared, low⟩
  have greater : compare? (.text "10") (.text "9") = some .gt := rfl
  cases compared.symm.trans greater
  cases low

end Sorting
end Registrar
