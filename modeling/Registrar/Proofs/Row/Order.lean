import Registrar.Proofs.Desk.Guard

/-!
The order of values. Two numbers, or texts of numbers, are in the order of the numbers; as soon as one
of two values is neither, the two are in the order of their texts. Main statement: values are in one order
just if none of them is "not a number" and none that is no number stands between the texts of two numbers
that are not in the order of their texts.
-/

namespace Registrar

open Json Number

namespace Row

/-- The first value is not greater than the second one. -/
def AtMost (a b : Value) : Prop := ∃ o, compare? a b = some o ∧ o.isLE

/-- The values with the property are in one order: each is equal to itself, each two are ordered one
way round as they are the other way round, and the order goes on from one to the next. -/
structure IsOrder (P : Value → Prop) : Prop where
  self (a : Value) : P a → compare? a a = some .eq
  total (a b : Value) : P a → P b → ∃ o, compare? a b = some o ∧ compare? b a = some o.swap
  trans (a b c : Value) : P a → P b → P c → AtMost a b → AtMost b c → AtMost a c

/-- A value that is no number stands between the texts of two that are numbers but not in the order of
their texts. -/
structure Tears (v a b : Value) : Prop where
  plain : number? v = none
  first : number? a ≠ none
  second : number? b ≠ none
  between : text a ≤ text v ∧ text v ≤ text b
  apart : compare? a b ≠ some (compare (text a) (text b))

/-- None of the values with the property stands between two others in this way. -/
def Untorn (P : Value → Prop) : Prop := ∀ v a b, P v → P a → P b → ¬Tears v a b

/-- What a value comes to as a number, in units of the least positive one. -/
def amount? (v : Value) : Option Int := (number? v).bind Double.units?

/-- The order of two values of which none is "not a number". -/
def order (a b : Value) : Ordering :=
  match amount? a, amount? b with
  | some m, some n => compare m n
  | _, _ => compare (text a) (text b)

variable {a b c v : Value}

theorem amount?_eq_none_iff (shown : ¬v.IsNan) : amount? v = none ↔ number? v = none := by
  unfold amount?
  cases h : number? v with
  | none => simp
  | some x =>
    cases x with
    | nan => exact absurd h shown
    | infinite negative => simp [Double.units?]
    | finite negative mantissa exponent => simp [Double.units?]

theorem compare?_eq_order (ha : ¬a.IsNan) (hb : ¬b.IsNan) : compare? a b = some (order a b) := by
  have plainA := amount?_eq_none_iff ha
  have plainB := amount?_eq_none_iff hb
  unfold compare? order
  cases hx : number? a with
  | none => rw [plainA.2 hx]
  | some x =>
    cases hy : number? b with
    | none =>
      rw [plainB.2 hy]
      cases amount? a <;> rfl
    | some y =>
      rw [hx] at plainA
      rw [hy] at plainB
      simp only [amount?, hx, hy, Option.bind_some, reduceCtorEq, iff_false] at plainA plainB ⊢
      obtain ⟨m, hm⟩ := Option.ne_none_iff_exists'.1 plainA
      obtain ⟨n, hn⟩ := Option.ne_none_iff_exists'.1 plainB
      simp only [Double.compare?, hm, hn]

theorem atMost_iff (ha : ¬a.IsNan) (hb : ¬b.IsNan) : AtMost a b ↔ (order a b).isLE := by
  simp [AtMost, compare?_eq_order ha hb]

theorem order_of_amounts {m n : Int} (ha : amount? a = some m) (hb : amount? b = some n) :
    order a b = compare m n := by
  simp [order, ha, hb]

theorem order_of_plain (h : amount? a = none ∨ amount? b = none) :
    order a b = compare (text a) (text b) := by
  rcases h with h | h
  · simp [order, h]
  · cases ha : amount? a <;> simp [order, h, ha]

theorem isLE_compare_text {s t : String} : (compare s t).isLE ↔ s ≤ t :=
  isLE_compareOfLessAndEq String.le_antisymm String.not_le String.le_total

theorem isLE_order_of_plain (h : amount? a = none ∨ amount? b = none) :
    (order a b).isLE ↔ text a ≤ text b := by
  rw [order_of_plain h, isLE_compare_text]

theorem order_swap (a b : Value) : order b a = (order a b).swap := by
  have texts : compare (text b) (text a) = (compare (text a) (text b)).swap :=
    Std.OrientedCmp.eq_swap
  cases ha : amount? a with
  | none => rw [order_of_plain (.inr ha), order_of_plain (.inl ha), texts]
  | some m =>
    cases hb : amount? b with
    | none => rw [order_of_plain (.inl hb), order_of_plain (.inr hb), texts]
    | some n => rw [order_of_amounts hb ha, order_of_amounts ha hb, Int.compare_swap]

def Agree (a b : Value) : Prop := order a b = compare (text a) (text b)

theorem Agree.symm (h : Agree a b) : Agree b a := by
  rw [Agree, order_swap, h]
  exact Std.OrientedCmp.eq_swap.symm

theorem Agree.isLE_iff (h : Agree a b) : (order a b).isLE ↔ text a ≤ text b := by
  rw [h, isLE_compare_text]

theorem agree_of_isLE_iff (ab : (order a b).isLE ↔ text a ≤ text b)
    (ba : (order b a).isLE ↔ text b ≤ text a) : Agree a b := by
  have both : ∀ o p : Ordering, (o.isLE ↔ p.isLE) → (o.swap.isLE ↔ p.swap.isLE) → o = p := by decide
  have swap : compare (text b) (text a) = (compare (text a) (text b)).swap :=
    Std.OrientedCmp.eq_swap
  rw [← isLE_compare_text] at ab ba
  rw [order_swap, swap] at ba
  exact both _ _ ab ba

/-- A value that is no number only stands between values that are in the order of their texts. -/
theorem not_tears_iff (hv : ¬v.IsNan) (ha : ¬a.IsNan) (hb : ¬b.IsNan) :
    ¬Tears v a b ↔
      (amount? v = none → text a ≤ text v → text v ≤ text b → Agree a b) := by
  have same : compare? a b = some (compare (text a) (text b)) ↔ Agree a b := by
    rw [compare?_eq_order ha hb, Option.some_inj, Agree]
  constructor
  · intro whole plain low high
    by_cases na : amount? a = none
    · exact order_of_plain (.inl na)
    by_cases nb : amount? b = none
    · exact order_of_plain (.inr nb)
    refine Classical.byContradiction fun apart => whole ⟨?_, ?_, ?_, ⟨low, high⟩, mt same.1 apart⟩
    · exact (amount?_eq_none_iff hv).1 plain
    · exact mt (amount?_eq_none_iff ha).2 na
    · exact mt (amount?_eq_none_iff hb).2 nb
  · intro agree torn
    have plain := (amount?_eq_none_iff hv).2 torn.plain
    exact torn.apart (same.2 (agree plain torn.between.1 torn.between.2))

variable {P : Value → Prop}

theorem Untorn.agree (whole : Untorn P) (shown : ∀ v, P v → ¬v.IsNan) (hv : P v) (ha : P a)
    (hb : P b) (plain : amount? v = none) (low : text a ≤ text v) (high : text v ≤ text b) :
    Agree a b :=
  (not_tears_iff (shown v hv) (shown a ha) (shown b hb)).1 (whole v a b hv ha hb) plain low high

theorem Untorn.isLE_trans (whole : Untorn P) (shown : ∀ v, P v → ¬v.IsNan) (ha : P a) (hb : P b)
    (hc : P c) (ab : (order a b).isLE) (bc : (order b c).isLE) : (order a c).isLE := by
  -- One that is no number compares with the others by its text, and stands somewhere among theirs.
  cases nb : amount? b with
  | none =>
    have low := (isLE_order_of_plain (.inr nb)).1 ab
    have high := (isLE_order_of_plain (.inl nb)).1 bc
    exact (whole.agree shown hb ha hc nb low high).isLE_iff.2 (String.le_trans low high)
  | some n =>
    cases na : amount? a with
    | none =>
      have low := (isLE_order_of_plain (.inl na)).1 ab
      refine (isLE_order_of_plain (.inl na)).2 ?_
      rcases String.le_total (text a) (text c) with done | back
      · exact done
      · have agree := whole.agree shown ha hc hb na back low
        exact String.le_trans low (agree.symm.isLE_iff.1 bc)
    | some m =>
      cases nc : amount? c with
      | none =>
        have high := (isLE_order_of_plain (.inr nc)).1 bc
        refine (isLE_order_of_plain (.inr nc)).2 ?_
        rcases String.le_total (text a) (text c) with done | back
        · exact done
        · have agree := whole.agree shown hc hb ha nc high back
          exact String.le_trans (agree.symm.isLE_iff.1 ab) high
      | some k =>
        rw [order_of_amounts na nb, Int.isLE_compare] at ab
        rw [order_of_amounts nb nc, Int.isLE_compare] at bc
        rw [order_of_amounts na nc, Int.isLE_compare]
        exact Int.le_trans ab bc

theorem Untorn.isOrder (whole : Untorn P) (shown : ∀ v, P v → ¬v.IsNan) : IsOrder P where
  self a ha := (compare?_self_iff a).2 (shown a ha)
  total a b ha hb := by
    refine ⟨order a b, compare?_eq_order (shown a ha) (shown b hb), ?_⟩
    rw [compare?_eq_order (shown b hb) (shown a ha), order_swap]
  trans a b c ha hb hc ab bc := by
    rw [atMost_iff (shown a ha) (shown b hb)] at ab
    rw [atMost_iff (shown b hb) (shown c hc)] at bc
    rw [atMost_iff (shown a ha) (shown c hc)]
    exact whole.isLE_trans shown ha hb hc ab bc

theorem IsOrder.shown (ordered : IsOrder P) (v : Value) (hv : P v) : ¬v.IsNan :=
  (compare?_self_iff v).1 (ordered.self v hv)

theorem IsOrder.untorn (ordered : IsOrder P) : Untorn P := by
  have shown := ordered.shown
  intro v a b hv ha hb
  have trans {x y z : Value} (hx : P x) (hy : P y) (hz : P z) (xy : (order x y).isLE)
      (yz : (order y z).isLE) : (order x z).isLE :=
    (atMost_iff (shown x hx) (shown z hz)).1 (ordered.trans x y z hx hy hz
      ((atMost_iff (shown x hx) (shown y hy)).2 xy) ((atMost_iff (shown y hy) (shown z hz)).2 yz))
  rw [not_tears_iff (shown v hv) (shown a ha) (shown b hb)]
  intro plain low high
  have av := (isLE_order_of_plain (a := a) (.inr plain)).2 low
  have vb := (isLE_order_of_plain (b := b) (.inl plain)).2 high
  have ab := trans ha hv hb av vb
  refine agree_of_isLE_iff (iff_of_true ab (String.le_trans low high)) ⟨fun ba => ?_, fun back => ?_⟩
  · have bv := (isLE_order_of_plain (.inr plain)).1 (trans hb ha hv ba av)
    have va := (isLE_order_of_plain (.inl plain)).1 (trans hv hb ha vb ba)
    exact String.le_trans bv va
  · have bv := (isLE_order_of_plain (.inr plain)).2 (String.le_trans back low)
    have va := (isLE_order_of_plain (.inl plain)).2 (String.le_trans high back)
    exact trans hb hv ha bv va

theorem isOrder_iff : IsOrder P ↔ (∀ v, P v → ¬v.IsNan) ∧ Untorn P :=
  ⟨fun ordered => ⟨ordered.shown, ordered.untorn⟩, fun ⟨shown, whole⟩ => whole.isOrder shown⟩

theorem untorn_of_uniform
    (uniform : (∀ v, P v → number? v ≠ none) ∨ ∀ v, P v → number? v = none) : Untorn P := by
  intro v a b hv ha hb torn
  rcases uniform with numbers | plain
  · exact numbers v hv torn.plain
  · exact torn.first (plain a ha)

end Row
end Registrar
