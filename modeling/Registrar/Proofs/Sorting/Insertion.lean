import Registrar.Proofs.Sorting.Runs

/-!
Sorting a list by any order. Main statements: elements level with each other stay in their order, a sorted
list is settled by that, and so sorting by two orders is sorting by the second and then by the first.
-/

namespace Registrar.Sorting

variable {α β : Type} {cmp first second : α → α → Ordering}

/-- The list sorted by the order. -/
def arranged (cmp : α → α → Ordering) (s : List α) : List α := insertion (fun a b => cmp a b == .lt) s

theorem map_place (less : β → β → Bool) (f : α → β) (x : α) (s : List α) :
    (place (fun a b => less (f a) (f b)) x s).map f = place less (f x) (s.map f) := by
  induction s with
  | nil => rfl
  | cons y r ih =>
    rw [List.map_cons, place, place]
    split
    · rw [List.map_cons, ih]
    · rfl

theorem insertion_concat (less : α → α → Bool) (s : List α) (x : α) :
    insertion less (s ++ [x]) = (place less x (insertion less s).reverse).reverse :=
  insertAll_concat less [] s x

theorem map_insertion (less : β → β → Bool) (f : α → β) (s : List α) :
    (insertion (fun a b => less (f a) (f b)) s).map f = insertion less (s.map f) := by
  induction s using List.reverseRecOn with
  | nil => rfl
  | append_singleton s x ih =>
    rw [insertion_concat, List.map_reverse, map_place, List.map_reverse, ih, List.map_append,
      List.map_singleton, insertion_concat]

theorem map_arranged (cmp : β → β → Ordering) (f : α → β) (s : List α) :
    (arranged (fun a b => cmp (f a) (f b)) s).map f = arranged cmp (s.map f) :=
  map_insertion (fun a b => cmp a b == .lt) f s

def alike (cmp : α → α → Ordering) (x a : α) : Bool := cmp x a == .eq

theorem alike_compareLex (x a : α) :
    alike (compareLex first second) x a = (alike first x a && alike second x a) := by
  unfold alike compareLex
  cases first x a <;> rfl

variable [Std.TransCmp cmp] [Std.TransCmp first] [Std.TransCmp second]

theorem isLE_iff_not_less {a b : α} : (cmp a b).isLE ↔ !(cmp b a == .lt) := by
  have swap : cmp b a = (cmp a b).swap := Std.OrientedCmp.eq_swap
  rw [swap]
  cases cmp a b <;> decide

theorem consistent_of_transCmp : Consistent fun a b => cmp a b == .lt where
  asymm {a b} below := by
    have swap : cmp b a = (cmp a b).swap := Std.OrientedCmp.eq_swap
    simp [swap, eq_of_beq below]
  trans ab bc := isLE_iff_not_less.1
    (Std.TransCmp.isLE_trans (isLE_iff_not_less.2 ab) (isLE_iff_not_less.2 bc))

theorem alike_eq_level (x : α) : alike cmp x = level (fun a b => cmp a b == .lt) x := by
  funext a
  have swap : cmp a x = (cmp x a).swap := Std.OrientedCmp.eq_swap
  rw [alike, level, swap]
  cases cmp x a <;> rfl

omit [Std.TransCmp cmp] in
theorem sorts_arranged (s : List α) : Sorts (fun a b => cmp a b == .lt) s (arranged cmp s) :=
  sorts_insertion s

theorem pairwise_arranged (s : List α) : (arranged cmp s).Pairwise fun a b => (cmp a b).isLE :=
  ((sorts_arranged s).inOrder consistent_of_transCmp).imp isLE_iff_not_less.2

theorem filter_arranged (x : α) (s : List α) :
    (arranged cmp s).filter (alike cmp x) = s.filter (alike cmp x) := by
  rw [alike_eq_level]
  exact (sorts_arranged s).level consistent_of_transCmp x

theorem sublist_arranged {tied s : List α} (inside : tied.Sublist s)
    (level : tied.Pairwise fun a b => cmp a b = .eq) : tied.Sublist (arranged cmp s) := by
  cases tied with
  | nil => exact List.nil_sublist _
  | cons x r =>
    have all : ∀ a ∈ x :: r, alike cmp x a := by
      intro a ha
      rcases List.mem_cons.1 ha with rfl | ha
      · exact beq_of_eq Std.ReflCmp.compare_self
      · exact beq_of_eq ((List.pairwise_cons.1 level).1 a ha)
    have kept := inside.filter (alike cmp x)
    rw [List.filter_eq_self.2 all, ← filter_arranged] at kept
    exact kept.trans List.filter_sublist

/-- A sorted list is settled by the order of the elements that are level with each other. -/
theorem eq_of_filter {s t : List α} (hs : s.Pairwise fun a b => (cmp a b).isLE)
    (ht : t.Pairwise fun a b => (cmp a b).isLE)
    (same : ∀ x, s.filter (alike cmp x) = t.filter (alike cmp x)) : s = t :=
  eq_of_level consistent_of_transCmp (hs.imp isLE_iff_not_less.1) (ht.imp isLE_iff_not_less.1)
    fun x => by rw [← alike_eq_level, same]

theorem arranged_compareLex (s : List α) :
    arranged (compareLex first second) s = arranged first (arranged second s) := by
  refine @eq_of_filter _ (compareLex first second) _ _ _ (pairwise_arranged s) ?_ fun x => ?_
  · refine List.pairwise_iff_forall_sublist.2 fun {a b} ab => ?_
    have low := List.pairwise_iff_forall_sublist.1 (pairwise_arranged (arranged second s)) ab
    rw [compareLex]
    cases h : first a b with
    | lt => rfl
    | gt =>
      rw [h] at low
      cases low
    | eq =>
      -- the first sorting leaves the two as the second one puts them
      have kept := ab.filter (alike first a)
      rw [filter_arranged, List.filter_eq_self.2 (by simp [alike, h, Std.ReflCmp.compare_self])] at kept
      exact List.pairwise_iff_forall_sublist.1 (pairwise_arranged s) (kept.trans List.filter_sublist)
  · have both (t : List α) : t.filter (alike (compareLex first second) x) =
        (t.filter (alike first x)).filter (alike second x) := by
      rw [List.filter_filter]
      exact List.filter_congr fun a _ => (alike_compareLex x a).trans (Bool.and_comm _ _)
    calc (arranged (compareLex first second) s).filter (alike (compareLex first second) x)
      _ = (s.filter (alike first x)).filter (alike second x) := by rw [filter_arranged, both]
      _ = (s.filter (alike second x)).filter (alike first x) := by
        rw [List.filter_filter, List.filter_filter, funext fun a => Bool.and_comm _ _]
      _ = ((arranged second s).filter (alike second x)).filter (alike first x) := by rw [filter_arranged]
      _ = ((arranged second s).filter (alike first x)).filter (alike second x) := by
        rw [List.filter_filter, List.filter_filter, funext fun a => Bool.and_comm _ _]
      _ = (arranged first (arranged second s)).filter (alike (compareLex first second) x) := by
        rw [both, filter_arranged]

end Registrar.Sorting
