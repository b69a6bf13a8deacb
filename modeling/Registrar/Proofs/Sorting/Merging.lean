import Mathlib.Data.List.Induction
import Mathlib.Data.List.Perm.Basic
import Registrar.Sorting.Small

/-!
Sorting by insertion and by merging. Main statement: whatever the test, a sorted list has the elements of
the given one; if the test is that of an order, there is a sorted list, it is in order, and elements level
with each other are as they were.
-/

namespace Registrar.Sorting

open scoped List

variable {α β γ : Type} {less : α → α → Bool}

/-- The test is that of an order, in which elements may be level with each other. -/
structure Consistent (less : α → α → Bool) : Prop where
  asymm {a b : α} : less a b → !less b a
  trans {a b c : α} : !less b a → !less c b → !less c a

theorem Consistent.opposite (c : Consistent less) : Consistent fun a b => less b a :=
  ⟨c.asymm, fun ab bc => c.trans bc ab⟩

theorem Consistent.irrefl (c : Consistent less) (a : α) : !less a a := by
  cases h : less a a with
  | false => rfl
  | true => exact absurd (c.asymm h) (by simp [h])

theorem Consistent.less_trans (c : Consistent less) {x y z : α} (xy : less x y) (yz : !less z y) :
    less x z := by
  by_contra not
  exact absurd (c.trans yz (by simpa using not)) (by simp [xy])

theorem Consistent.trans_less (c : Consistent less) {x y z : α} (xy : !less y x) (yz : less y z) :
    less x z := by
  by_contra not
  exact absurd (c.trans (by simpa using not) xy) (by simp [yz])

def level (less : α → α → Bool) (x a : α) : Bool := !less x a && !less a x

theorem level_opposite (x : α) : level (fun a b => less b a) x = level less x :=
  funext fun _ => Bool.and_comm _ _

theorem Consistent.level_self (c : Consistent less) (x : α) : level less x x := by
  simpa [level] using c.irrefl x

theorem Consistent.not_less_of_level (c : Consistent less) {x a b : α} (ha : level less x a)
    (hb : level less x b) : less a b = false := by
  simp only [level, Bool.and_eq_true] at ha hb
  simpa using c.trans hb.1 ha.2

theorem Consistent.less_eq_of_level (c : Consistent less) {x a : α} (h : level less x a) (p : α) :
    less a p = less x p := by
  simp only [level, Bool.and_eq_true] at h
  exact Bool.eq_iff_iff.2 ⟨c.trans_less h.2, c.trans_less h.1⟩

theorem Consistent.eq_less_of_level (c : Consistent less) {x a : α} (h : level less x a) (p : α) :
    less p a = less p x := by
  simp only [level, Bool.and_eq_true] at h
  exact Bool.eq_iff_iff.2 ⟨fun below => c.less_trans below h.1, fun below => c.less_trans below h.2⟩

abbrev InOrder (less : α → α → Bool) (v : List α) : Prop := v.Pairwise fun a b => !less b a

theorem InOrder.reverse {v : List α} (h : InOrder less v) :
    InOrder (fun a b => less b a) v.reverse := List.pairwise_reverse.2 h

/-- The second list has the elements of the first one, and those level with each other as they were. -/
structure Keeps (less : α → α → Bool) (v w : List α) : Prop where
  perm : w.Perm v
  level : Consistent less → ∀ x, w.filter (level less x) = v.filter (level less x)

/-- The second list is the first one in order. -/
structure Sorts (less : α → α → Bool) (v w : List α) : Prop extends Keeps less v w where
  inOrder : Consistent less → InOrder less w

namespace Keeps

theorem refl (v : List α) : Keeps less v v := ⟨.refl v, fun _ _ => rfl⟩

variable {v w u v₁ v₂ w₁ w₂ : List α}

theorem trans (vw : Keeps less v w) (wu : Keeps less w u) : Keeps less v u :=
  ⟨wu.perm.trans vw.perm, fun c x => (wu.level c x).trans (vw.level c x)⟩

theorem append (first : Keeps less v₁ w₁) (second : Keeps less v₂ w₂) :
    Keeps less (v₁ ++ v₂) (w₁ ++ w₂) where
  perm := first.perm.append second.perm
  level c x := by rw [List.filter_append, List.filter_append, first.level c, second.level c]

theorem reverse (h : Keeps (fun a b => less b a) v w) : Keeps less v.reverse w.reverse where
  perm := (List.reverse_perm w).trans (h.perm.trans (List.reverse_perm v).symm)
  level c x := by
    have same := h.level c.opposite x
    rw [level_opposite] at same
    rw [List.filter_reverse, List.filter_reverse, same]

end Keeps

theorem Sorts.of_keeps {v w u : List α} (vw : Keeps less v w) (wu : Sorts less w u) :
    Sorts less v u := ⟨vw.trans wu.toKeeps, wu.inOrder⟩

theorem Sorts.append {v l r l' r' : List α} (kept : Keeps less v (l ++ r)) (hl : Sorts less l l')
    (hr : Sorts less r r') (below : Consistent less → ∀ a ∈ l, ∀ b ∈ r, !less b a) :
    Sorts less v (l' ++ r') where
  toKeeps := kept.trans (hl.toKeeps.append hr.toKeeps)
  inOrder c := List.pairwise_append.2 ⟨hl.inOrder c, hr.inOrder c, fun a ha b hb =>
    below c a (hl.perm.mem_iff.1 ha) b (hr.perm.mem_iff.1 hb)⟩

theorem eq_of_level (c : Consistent less) {s t : List α} (hs : InOrder less s) (ht : InOrder less t)
    (same : ∀ x, s.filter (level less x) = t.filter (level less x)) : s = t := by
  have mem {s t : List α} {x : α} (hx : x ∈ s)
      (same : s.filter (level less x) = t.filter (level less x)) : x ∈ t := by
    have kept : x ∈ s.filter (level less x) := List.mem_filter.2 ⟨hx, c.level_self x⟩
    rw [same] at kept
    exact (List.mem_filter.1 kept).1
  induction s generalizing t with
  | nil =>
    cases t with
    | nil => rfl
    | cons b t => cases mem List.mem_cons_self (same b).symm
  | cons a s ih =>
    cases t with
    | nil => cases mem List.mem_cons_self (same a)
    | cons b t =>
      obtain ⟨lowS, restS⟩ := List.pairwise_cons.1 hs
      obtain ⟨lowT, restT⟩ := List.pairwise_cons.1 ht
      have ab : !less b a := by
        rcases List.mem_cons.1 (mem List.mem_cons_self (same b).symm) with rfl | hb
        · exact c.irrefl b
        · exact lowS b hb
      have ba : !less a b := by
        rcases List.mem_cons.1 (mem List.mem_cons_self (same a)) with rfl | ha
        · exact c.irrefl a
        · exact lowT a ha
      have heads := same a
      rw [List.filter_cons_of_pos (c.level_self a),
        List.filter_cons_of_pos (by simpa [level] using And.intro ba ab)] at heads
      obtain rfl := (List.cons.inj heads).1
      rw [ih restS restT fun x => ?_]
      have whole := same x
      by_cases hx : level less x a
      · rw [List.filter_cons_of_pos hx, List.filter_cons_of_pos hx] at whole
        exact (List.cons.inj whole).2
      · rwa [List.filter_cons_of_neg hx, List.filter_cons_of_neg hx] at whole

theorem Sorts.unique (c : Consistent less) {v w u : List α} (hw : Sorts less v w)
    (hu : Sorts less v u) : w = u :=
  eq_of_level c (hw.inOrder c) (hu.inOrder c) fun x => (hw.level c x).trans (hu.level c x).symm

section Insertion

theorem place_perm (less : α → α → Bool) (x : α) (s : List α) : (place less x s).Perm (x :: s) := by
  induction s with
  | nil => exact .refl _
  | cons y r ih =>
    unfold place
    split
    · exact (ih.cons y).trans (.swap x y r)
    · exact .refl _

theorem filter_place {p : α → Bool} (tied : ∀ a b, p a → p b → less a b = false) (x : α)
    (s : List α) : (place less x s).filter p = (x :: s).filter p := by
  induction s with
  | nil => rfl
  | cons y r ih =>
    unfold place
    split
    · rename_i lower
      by_cases hx : p x
      · have hy : ¬p y := fun hy => by simp [tied x y hx hy] at lower
        rw [List.filter_cons_of_neg hy, ih, List.filter_cons_of_pos hx, List.filter_cons_of_pos hx,
          List.filter_cons_of_neg hy]
      · rw [List.filter_cons, ih, List.filter_cons_of_neg hx, List.filter_cons_of_neg hx,
          List.filter_cons]
    · rfl

theorem pairwise_place (c : Consistent less) {x : α} {s : List α}
    (sorted : s.Pairwise fun a b => !less a b) :
    (place less x s).Pairwise fun a b => !less a b := by
  induction s with
  | nil => exact List.pairwise_singleton _ _
  | cons y r ih =>
    obtain ⟨above, rest⟩ := List.pairwise_cons.1 sorted
    unfold place
    split
    · rename_i lower
      refine List.pairwise_cons.2 ⟨fun z hz => ?_, ih rest⟩
      rcases List.mem_cons.1 ((place_perm less x r).mem_iff.1 hz) with rfl | hz
      · exact c.asymm lower
      · exact above z hz
    · rename_i notLower
      have here : !less x y := by simpa using notLower
      refine List.pairwise_cons.2 ⟨fun z hz => ?_, sorted⟩
      rcases List.mem_cons.1 hz with rfl | hz
      · exact here
      · exact c.trans (above z hz) here

theorem insertAll_concat (less : α → α → Bool) (s more : List α) (x : α) :
    insertAll less s (more ++ [x]) = (place less x (insertAll less s more).reverse).reverse := by
  rw [insertAll, List.foldl_append, insertAll, List.reverse_reverse]
  rfl

theorem keeps_place (x : α) (s : List α) :
    Keeps less (s ++ [x]) (place less x s.reverse).reverse where
  perm := by
    refine (List.reverse_perm _).trans ((place_perm less x s.reverse).trans ?_)
    exact (((List.reverse_perm s).cons x).trans (List.perm_append_singleton x s).symm)
  level c y := by
    rw [List.filter_reverse, filter_place fun a b => c.not_less_of_level, ← List.filter_reverse,
      List.reverse_cons, List.reverse_reverse]

theorem keeps_insertAll (s more : List α) : Keeps less (s ++ more) (insertAll less s more) := by
  induction more using List.reverseRecOn with
  | nil =>
    rw [insertAll, List.foldl_nil, List.reverse_reverse, List.append_nil]
    exact .refl s
  | append_singleton more x ih =>
    rw [insertAll_concat, ← List.append_assoc]
    exact (ih.append (.refl [x])).trans (keeps_place x _)

theorem inOrder_insertAll (c : Consistent less) {s : List α} (hs : InOrder less s) (more : List α) :
    InOrder less (insertAll less s more) := by
  induction more using List.reverseRecOn with
  | nil => rwa [insertAll, List.foldl_nil, List.reverse_reverse]
  | append_singleton more x ih =>
    rw [insertAll_concat]
    exact List.pairwise_reverse.2 (pairwise_place c (List.pairwise_reverse.2 ih))

theorem sorts_insertion (v : List α) : Sorts less v (insertion less v) :=
  ⟨keeps_insertAll [] v, fun c => inOrder_insertAll c .nil v⟩

end Insertion

section Merge

variable {l r : List α}

theorem filter_merge (c : Consistent less) (hl : InOrder less l) (x : α) :
    (List.merge l r fun a b => !less b a).filter (level less x) =
      l.filter (level less x) ++ r.filter (level less x) := by
  induction l generalizing r with
  | nil => simp
  | cons a l ihl =>
    obtain ⟨low, rest⟩ := List.pairwise_cons.1 hl
    induction r with
    | nil => simp
    | cons b r ihr =>
      rw [List.cons_merge_cons]
      split
      · by_cases hx : level less x a
        · rw [List.filter_cons_of_pos hx, List.filter_cons_of_pos hx, ihl rest, List.cons_append]
        · rw [List.filter_cons_of_neg hx, List.filter_cons_of_neg hx, ihl rest]
      · rename_i below
        replace below : less b a := by simpa using below
        by_cases hx : level less x b
        · -- no element of the first list is level with one that is less than all of them
          have none : (a :: l).filter (level less x) = [] := by
            refine List.filter_eq_nil_iff.2 fun z hz hz' => ?_
            have above : less b z := by
              rcases List.mem_cons.1 hz with rfl | hz
              · exact below
              · exact c.less_trans below (low z hz)
            rw [c.not_less_of_level hx hz'] at above
            cases above
          rw [List.filter_cons_of_pos hx, List.filter_cons_of_pos hx, ihr, none]
          rfl
        · rw [List.filter_cons_of_neg hx, List.filter_cons_of_neg hx, ihr]

theorem sorts_merge_front (hl : Consistent less → InOrder less l)
    (hr : Consistent less → InOrder less r) :
    Sorts less (l ++ r) (List.merge l r fun a b => !less b a) where
  perm := List.merge_perm_append _
  level c x := by rw [filter_merge c (hl c), List.filter_append]
  inOrder c := by
    refine List.pairwise_merge (fun x y z => c.trans (a := x) (b := y) (c := z)) (fun a b => ?_) l r (hl c) (hr c)
    cases h : less b a with
    | false => rfl
    | true => simpa using c.asymm h

theorem merge_exchange (f : α → α → Bool) (l r : List α) :
    List.merge l r f = List.merge r l fun y x => !f x y := by
  induction l generalizing r with
  | nil => simp
  | cons a l ihl =>
    induction r with
    | nil => simp
    | cons b r ihr =>
      rw [List.cons_merge_cons, List.cons_merge_cons, ihl, ihr]
      cases f a b <;> rfl

theorem sorts_merge_back (hl : Consistent less → InOrder less l)
    (hr : Consistent less → InOrder less r) :
    Sorts less (l ++ r) (List.merge l.reverse r.reverse fun a b => less b a).reverse := by
  rw [merge_exchange]
  have opposite : Sorts (fun a b => less b a) (r.reverse ++ l.reverse) _ :=
    sorts_merge_front (fun c => (hr c.opposite).reverse) fun c => (hl c.opposite).reverse
  have kept := opposite.toKeeps.reverse
  rw [List.reverse_append, List.reverse_reverse, List.reverse_reverse] at kept
  exact ⟨kept, fun c => (opposite.inOrder c.opposite).reverse⟩

end Merge

section Four

theorem pair_perm (less : α → α → Bool) (a b : α) : [(pair less a b).1, (pair less a b).2].Perm [a, b] := by
  unfold pair
  split
  · exact .swap a b []
  · exact .refl _

theorem sorts_pair (a b : α) : Sorts less [a, b] [(pair less a b).1, (pair less a b).2] := by
  have inserted : Sorts less [a, b] _ := sorts_insertion [a, b]
  have same : insertion less [a, b] = [(pair less a b).1, (pair less a b).2] := by
    unfold pair
    cases h : less b a <;> simp [insertion, insertAll, place, h]
  rwa [same] at inserted

theorem joinPairs_perm (less : α → α → Bool) (a b c d : α) :
    (joinPairs less a b c d).Perm [a, b, c, d] := by
  have joined (least leftmost rightmost greatest : α) :
      [least, (pair less leftmost rightmost).1, (pair less leftmost rightmost).2, greatest].Perm
        [least, leftmost, rightmost, greatest] :=
    ((pair_perm less leftmost rightmost).append_right [greatest]).cons least
  refine (joined _ _ _ _).trans ?_
  cases less c a with
  | true =>
    cases less d b with
    | true =>
      calc [c, a, d, b]
        _ ~ [a, c, d, b] := .swap a c [d, b]
        _ ~ [a, c, b, d] := ((List.Perm.swap b d []).cons c).cons a
        _ ~ [a, b, c, d] := (List.Perm.swap b c [d]).cons a
    | false => exact (@List.perm_append_comm _ [c] [a, b]).append_right [d]
  | false =>
    cases less d b with
    | true => exact (@List.perm_append_comm _ [c, d] [b]).cons a
    | false => exact .refl _

theorem joinPairs_eq_merge (law : Consistent less) {a b c d : α} (ab : !less b a) (cd : !less d c) :
    joinPairs less a b c d = List.merge [a, b] [c, d] fun x y => !less y x := by
  have ab : less b a = false := by simpa using ab
  have dc : less d c = false := by simpa using cd
  cases ca : less c a with
  | true =>
    have cb : less c b := law.less_trans ca (by simpa using ab)
    cases db : less d b with
    | true => cases da : less d a <;> simp [joinPairs, pair, *]
    | false =>
      have da : less d a = false := by
        have := law.trans (a := a) (b := b) (c := d) (by simpa using ab) (by simpa using db)
        simpa using this
      simp [joinPairs, pair, *]
  | false =>
    cases db : less d b with
    | true =>
      have cb : less c b := by
        by_contra not
        have := law.trans (a := b) (b := c) (c := d) (by simpa using not) (by simpa using dc)
        simp [db] at this
      simp [joinPairs, pair, *]
    | false => cases cb : less c b <;> simp [joinPairs, pair, *]

theorem sorts_four (a b c d : α) : Sorts less [a, b, c, d] (four less a b c d) := by
  have first : Sorts less [a, b] _ := sorts_pair a b
  have second : Sorts less [c, d] _ := sorts_pair c d
  have merged := sorts_merge_front first.inOrder second.inOrder
  have joined (law : Consistent less) := joinPairs_eq_merge law
    (List.rel_of_pairwise_cons (first.inOrder law) List.mem_cons_self)
    (List.rel_of_pairwise_cons (second.inOrder law) List.mem_cons_self)
  have whole := first.toKeeps.append second.toKeeps
  refine ⟨⟨(joinPairs_perm less _ _ _ _).trans whole.perm, fun law x => ?_⟩, fun law => ?_⟩
  · rw [four, joined law, merged.level law, whole.level law]
    rfl
  · rw [four, joined law]
    exact merged.inOrder law

theorem sorts_half (long : Bool) (v : List α) : Sorts less v (half less long v) := by
  unfold half
  split
  · rename_i a b c d r
    split
    · have first : Sorts less [a, b, c, d] _ := sorts_four a b c d
      refine ⟨(first.toKeeps.append (.refl r)).trans (keeps_insertAll _ r), fun law => ?_⟩
      exact inOrder_insertAll law (first.inOrder law) r
    · exact sorts_insertion _
  · exact sorts_insertion v

end Four

end Registrar.Sorting
