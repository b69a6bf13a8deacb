import Registrar.Proofs.Sorting.Merging

/-!
Merging from both ends. The first steps of a merge cut its two lists, so that the front parts come before
the others; two cuts never cross. Main statement: the two ends meet if the test is that of an order, and
where they meet, no element is lost.
-/

namespace Registrar.Sorting

open scoped List

variable {α β γ : Type} {less : α → α → Bool}

/-- The result has the property. There may be none only if the test is not that of an order. -/
def Answers (less : α → α → Bool) (P : β → Prop) : Option β → Prop
  | some b => P b
  | none => ¬Consistent less

namespace Answers

variable {P Q : β → Prop} {R : γ → Prop} {o : Option β}

theorem bind (h : Answers less P o) {f : β → Option γ} (next : ∀ b, P b → Answers less R (f b)) :
    Answers less R (o >>= f) := by
  cases o with
  | none => exact h
  | some b => exact next b h

theorem imp (h : Answers less P o) (weaker : ∀ b, P b → Q b) : Answers less Q o := by
  cases o with
  | none => exact h
  | some b => exact weaker b h

theorem map {f : β → γ} (h : Answers less P o) (next : ∀ b, P b → R (f b)) :
    Answers less R (o.map f) := by
  cases o with
  | none => exact h
  | some b => exact next b h

theorem of_eq_some {b : β} (h : Answers less P o) (same : o = some b) : P b := by rwa [same] at h

theorem isSome (h : Answers less P o) (law : Consistent less) : ∃ b, o = some b ∧ P b := by
  cases o with
  | none => exact absurd law h
  | some b => exact ⟨b, rfl, h⟩

end Answers

/-- What has been taken from two lists, and what has been left. -/
structure Cut (l r front back : List α) (p : Partial α) : Prop where
  left : l = front ++ p.left
  right : r = back ++ p.right
  taken : p.taken ~ front ++ back

/-- Elements that are taken come before those of the other list that are left. -/
structure Parts (leftFirst : α → α → Bool) (front back : List α) (p : Partial α) : Prop where
  front : ∀ x ∈ front, ∀ y ∈ p.right, leftFirst x y
  back : ∀ y ∈ back, ∀ x ∈ p.left, !leftFirst x y

section Steps

variable {leftFirst : α → α → Bool}

theorem steps_append_merge (leftFirst : α → α → Bool) (n : Nat) (l r : List α) :
    (steps leftFirst n l r).taken ++
        List.merge (steps leftFirst n l r).left (steps leftFirst n l r).right leftFirst =
      List.merge l r leftFirst := by
  fun_induction steps leftFirst n l r with
  | case1 n x l y r first p ih => rw [List.cons_append, ih, List.cons_merge_cons_pos leftFirst _ _ first]
  | case2 n x l y r first p ih => rw [List.cons_append, ih, List.cons_merge_cons_neg leftFirst _ _ first]
  | case3 => rfl

theorem length_taken (leftFirst : α → α → Bool) {n : Nat} {l r : List α} (hl : n ≤ l.length)
    (hr : n ≤ r.length) : (steps leftFirst n l r).taken.length = n := by
  fun_induction steps leftFirst n l r with
  | case1 n x l y r first p ih =>
    rw [List.length_cons, ih (Nat.le_of_succ_le_succ hl) (Nat.le_of_succ_le hr)]
  | case2 n x l y r first p ih =>
    rw [List.length_cons, ih (Nat.le_of_succ_le hl) (Nat.le_of_succ_le_succ hr)]
  | case3 n l r ended =>
    cases n with
    | zero => rfl
    | succ n =>
      cases l with
      | nil => cases hl
      | cons x l =>
        cases r with
        | nil => cases hr
        | cons y r => exact absurd rfl (ended n x l y r rfl rfl)

/-- Of two elements of the first list, the former comes before all that the latter comes before. -/
abbrev Falling (leftFirst : α → α → Bool) (l : List α) : Prop :=
  l.Pairwise fun x x' => ∀ y, leftFirst x' y → leftFirst x y

/-- What comes before an element of the second list comes before those behind it. -/
abbrev Rising (leftFirst : α → α → Bool) (r : List α) : Prop :=
  r.Pairwise fun y y' => ∀ x, leftFirst x y → leftFirst x y'

theorem steps_cut (leftFirst : α → α → Bool) (n : Nat) (l r : List α) :
    ∃ front back, Cut l r front back (steps leftFirst n l r) ∧
      (Falling leftFirst l → Rising leftFirst r →
        Parts leftFirst front back (steps leftFirst n l r)) := by
  fun_induction steps leftFirst n l r with
  | case1 n x l y r first p ih =>
    obtain ⟨front, back, cut, parts⟩ := ih
    refine ⟨x :: front, back, ⟨congrArg (x :: ·) cut.left, cut.right, cut.taken.cons x⟩, ?_⟩
    intro falling rising
    have parts := parts falling.of_cons rising
    refine ⟨fun z hz w hw => ?_, parts.back⟩
    rcases List.mem_cons.1 hz with rfl | hz
    · have inside : w ∈ y :: r := by
        rw [cut.right]
        exact List.mem_append_right back hw
      rcases List.mem_cons.1 inside with rfl | inside
      · exact first
      · exact (List.pairwise_cons.1 rising).1 w inside z first
    · exact parts.front z hz w hw
  | case2 n x l y r first p ih =>
    obtain ⟨front, back, cut, parts⟩ := ih
    refine ⟨front, y :: back,
      ⟨cut.left, congrArg (y :: ·) cut.right, (cut.taken.cons y).trans List.perm_middle.symm⟩, ?_⟩
    intro falling rising
    have parts := parts falling rising.of_cons
    refine ⟨parts.front, fun w hw z hz => ?_⟩
    rcases List.mem_cons.1 hw with rfl | hw
    · have inside : z ∈ x :: l := by
        rw [cut.left]
        exact List.mem_append_right front hz
      rcases List.mem_cons.1 inside with rfl | inside
      · simpa using first
      · by_contra before
        exact first ((List.pairwise_cons.1 falling).1 z inside w (by simpa using before))
    · exact parts.back w hw z hz
  | case3 n l r ended => exact ⟨[], [], ⟨rfl, rfl, .refl _⟩, fun _ _ => ⟨nofun, nofun⟩⟩

end Steps

section Meet

variable {l r front back front' back' : List α} {p q : Partial α}

theorem exists_mem_overlap {a b c d : List α} (same : a ++ b = c ++ d) (longer : c.length < a.length) :
    ∃ x, x ∈ a ∧ x ∈ d := by
  rcases List.append_eq_append_iff.1 same with ⟨e, rfl, -⟩ | ⟨e, rfl, rfl⟩
  · rw [List.length_append] at longer
    omega
  · cases e with
    | nil => simp at longer
    | cons x e => exact ⟨x, by simp, by simp⟩

theorem cuts_apart (first : Cut l r front back p) (last : Cut l.reverse r.reverse front' back' q)
    (parts : Parts (fun x y => !less y x) front back p)
    (parts' : Parts (fun x y => less y x) front' back' q)
    (room : front.length + back.length + (front'.length + back'.length) ≤ l.length + r.length) :
    front.length + front'.length ≤ l.length ∧ back.length + back'.length ≤ r.length := by
  have left : front ++ p.left = q.left.reverse ++ front'.reverse := by
    rw [← first.left, ← List.reverse_append, ← last.left, List.reverse_reverse]
  have right : back ++ p.right = q.right.reverse ++ back'.reverse := by
    rw [← first.right, ← List.reverse_append, ← last.right, List.reverse_reverse]
  have lengthLeft := congrArg List.length last.left
  have lengthRight := congrArg List.length last.right
  simp only [List.length_append, List.length_reverse] at lengthLeft lengthRight
  constructor
  · by_contra crossed
    obtain ⟨x, hx, hx'⟩ := exists_mem_overlap left (by rw [List.length_reverse]; omega)
    obtain ⟨y, hy, hy'⟩ := exists_mem_overlap right.symm (by rw [List.length_reverse]; omega)
    have notBefore := parts.front x hx y hy'
    rw [parts'.front x (List.mem_reverse.1 hx') y (List.mem_reverse.1 hy)] at notBefore
    cases notBefore
  · by_contra crossed
    obtain ⟨y, hy, hy'⟩ := exists_mem_overlap right (by rw [List.length_reverse]; omega)
    obtain ⟨x, hx, hx'⟩ := exists_mem_overlap left.symm (by rw [List.length_reverse]; omega)
    have before := parts.back y hy x hx'
    rw [Bool.not_not] at before
    have notBefore := parts'.back y (List.mem_reverse.1 hy') x (List.mem_reverse.1 hx)
    rw [before] at notBefore
    cases notBefore

theorem middle_cut (l r : List α) (p q : Partial α) :
    ∃ front back, Cut p.left p.right front back (middle l r p q) := by
  unfold middle
  split
  · exact ⟨[], [], rfl, rfl, .refl _⟩
  · split
    · exact ⟨p.left.take 1, [], (List.take_append_drop 1 p.left).symm, rfl, by simp⟩
    · exact ⟨[], p.right.take 1, rfl, (List.take_append_drop 1 p.right).symm, .refl _⟩

theorem perm_regroup (a b c d : List α) : (a ++ b) ++ (c ++ d) ~ (a ++ c) ++ (b ++ d) := by
  simp only [List.append_assoc]
  refine .append_left a ?_
  rw [← List.append_assoc, ← List.append_assoc]
  exact .append_right d List.perm_append_comm

theorem eq_reverse_of_lengths {s left taken last : List α} (front : s ++ left = l)
    (back : l.reverse = taken ++ last) (all : left.length + last.length = l.length) :
    left = taken.reverse := by
  have whole : s ++ left = last.reverse ++ taken.reverse := by
    rw [front, ← List.reverse_append, ← back, List.reverse_reverse]
  refine (List.append_inj' whole ?_).2
  have lengths := congrArg List.length back
  simp only [List.length_append, List.length_reverse] at lengths ⊢
  omega

/-- Where the ends meet, no element is lost. -/
theorem perm_of_meet {w : List α} (met : meet less l r = some w) : w ~ l ++ r := by
  unfold meet at met
  extract_lets first last mid at met
  obtain ⟨lt, rt, cut, -⟩ := steps_cut (fun x y => !less y x) l.length l r
  obtain ⟨lb, rb, cut', -⟩ := steps_cut (fun x y => less y x) l.length l.reverse r.reverse
  obtain ⟨lm, rm, cutMid⟩ := middle_cut l r first last
  split at met
  · rename_i all
    cases met
    have left : lt ++ lm ++ mid.left = l := by
      rw [List.append_assoc, ← cutMid.left]
      exact cut.left.symm
    have right : rt ++ rm ++ mid.right = r := by
      rw [List.append_assoc, ← cutMid.right]
      exact cut.right.symm
    calc first.taken ++ mid.taken ++ last.taken.reverse
      _ ~ (lt ++ rt) ++ (lm ++ rm) ++ (lb ++ rb) :=
        (cut.taken.append cutMid.taken).append ((List.reverse_perm _).trans cut'.taken)
      _ ~ (lt ++ lm ++ lb) ++ (rt ++ rm ++ rb) :=
        ((perm_regroup lt rt lm rm).append_right _).trans (perm_regroup _ _ lb rb)
      _ ~ (lt ++ lm ++ mid.left) ++ (rt ++ rm ++ mid.right) := by
        rw [eq_reverse_of_lengths left cut'.left all.1, eq_reverse_of_lengths right cut'.right all.2]
        exact ((List.reverse_perm lb).symm.append_left _).append
          ((List.reverse_perm rb).symm.append_left _)
      _ = l ++ r := by rw [left, right]
  · cases met

variable (law : Consistent less)

include law in
theorem falling_rising_front (hl : InOrder less l) (hr : InOrder less r) :
    Falling (fun x y => !less y x) l ∧ Rising (fun x y => !less y x) r :=
  ⟨hl.imp fun below _ after => law.trans below after, hr.imp fun below _ after => law.trans after below⟩

include law in
theorem falling_rising_back (hl : InOrder less l) (hr : InOrder less r) :
    Falling (fun x y => less y x) l.reverse ∧ Rising (fun x y => less y x) r.reverse :=
  ⟨hl.reverse.imp fun below _ before => law.less_trans before below,
    hr.reverse.imp fun below _ before => law.trans_less below before⟩

theorem middle_fits {p q : Partial α} (hp : p.left.length + p.right.length = r.length)
    (hq : q.left.length + q.right.length = r.length) (short : l.length ≤ r.length)
    (near : r.length ≤ l.length + 1) (within : q.left.length ≤ l.length)
    (left : l.length ≤ p.left.length + q.left.length)
    (right : r.length ≤ p.right.length + q.right.length) :
    (middle l r p q).left.length + q.left.length = l.length ∧
      (middle l r p q).right.length + q.right.length = r.length := by
  unfold middle
  split
  · dsimp only
    omega
  · split
    · simp only [List.length_drop]
      omega
    · simp only [List.length_drop]
      omega

theorem eq_of_perm_short {s t : List α} (perm : s ~ t) (short : t.length ≤ 1) : s = t := by
  match t, short with
  | [], _ => exact List.perm_nil.1 perm
  | [x], _ => exact List.perm_singleton.1 perm

theorem ends_meet (law : Consistent less) (hl : InOrder less l) (hr : InOrder less r)
    (short : l.length ≤ r.length) (near : r.length ≤ l.length + 1) :
    let first := steps (fun x y => !less y x) l.length l r
    let last := steps (fun x y => less y x) l.length l.reverse r.reverse
    first.taken.length = l.length ∧ last.taken.length = l.length ∧
      meet less l r = some (first.taken ++ (middle l r first last).taken ++ last.taken.reverse) := by
  intro first last
  have count : first.taken.length = l.length := length_taken _ (Nat.le_refl _) short
  have count' : last.taken.length = l.length :=
    length_taken _ (Nat.le_of_eq List.length_reverse.symm) (by rwa [List.length_reverse])
  obtain ⟨falling, rising⟩ := falling_rising_front law hl hr
  obtain ⟨falling', rising'⟩ := falling_rising_back law hl hr
  obtain ⟨lt, rt, cut, parts⟩ : ∃ lt rt, Cut l r lt rt first ∧ _ := steps_cut _ _ l r
  obtain ⟨lb, rb, cut', parts'⟩ : ∃ lb rb, Cut l.reverse r.reverse lb rb last ∧ _ :=
    steps_cut _ _ l.reverse r.reverse
  have lengths := And.intro (congrArg List.length cut.left) (congrArg List.length cut.right)
  have lengths' := And.intro (congrArg List.length cut'.left) (congrArg List.length cut'.right)
  have taken := cut.taken.length_eq
  have taken' := cut'.taken.length_eq
  simp only [List.length_append, List.length_reverse] at lengths lengths' taken taken'
  have apart := cuts_apart cut cut' (parts falling rising) (parts' falling' rising') (by omega)
  have fits := @middle_fits _ l r first last (by omega) (by omega) short near (by omega) (by omega)
    (by omega)
  exact ⟨count, count', if_pos fits⟩

/-- If the test is that of an order, the ends meet, and the result is that of merging from the front. -/
theorem meet_eq_merge (law : Consistent less) (hl : InOrder less l) (hr : InOrder less r)
    (short : l.length ≤ r.length) (near : r.length ≤ l.length + 1) :
    meet less l r = some (List.merge l r fun x y => !less y x) := by
  obtain ⟨count, count', both⟩ := ends_meet law hl hr short near
  generalize hfirst : steps (fun x y => !less y x) l.length l r = first at count both
  generalize hlast : steps (fun x y => less y x) l.length l.reverse r.reverse = last at count' both
  -- the merge from the front ends as the one from the back begins
  have frontMerge : first.taken ++ List.merge first.left first.right (fun x y => !less y x) =
      List.merge l r fun x y => !less y x := hfirst ▸ steps_append_merge _ _ l r
  have backMerge : (List.merge last.left last.right fun x y => less y x).reverse ++
      last.taken.reverse = List.merge l r fun x y => !less y x := by
    rw [← List.reverse_append, ← hlast, steps_append_merge]
    exact (sorts_merge_back (fun _ => hl) fun _ => hr).unique law
      (sorts_merge_front (fun _ => hl) fun _ => hr)
  have total : (List.merge l r fun x y => !less y x).length = l.length + r.length := by
    rw [List.length_merge]
  obtain ⟨e, he⟩ : first.taken <+: (List.merge last.left last.right fun x y => less y x).reverse := by
    refine List.prefix_of_prefix_length_le ⟨_, frontMerge⟩ ⟨_, backMerge⟩ ?_
    have lengths := congrArg List.length backMerge
    simp only [List.length_append, List.length_reverse, total] at lengths ⊢
    omega
  rw [← he] at backMerge
  have one : e.length ≤ 1 := by
    have lengths := congrArg List.length backMerge
    simp only [List.length_append, List.length_reverse, total] at lengths
    omega
  have inMiddle : (middle l r first last).taken ~ e := by
    have perm := (perm_of_meet both).trans (List.merge_perm_append fun x y => !less y x).symm
    rw [← backMerge] at perm
    exact (List.perm_append_left_iff _).1 ((List.perm_append_right_iff _).1 perm)
  rw [both, eq_of_perm_short inMiddle one, backMerge]

theorem answers_meet (hl : Consistent less → InOrder less l) (hr : Consistent less → InOrder less r)
    (short : l.length ≤ r.length) (near : r.length ≤ l.length + 1) :
    Answers less (Sorts less (l ++ r)) (meet less l r) := by
  have merged (law : Consistent less) := meet_eq_merge law (hl law) (hr law) short near
  cases met : meet less l r with
  | none => exact fun law => by simp [merged law] at met
  | some w =>
    have front := sorts_merge_front hl hr
    have same (law : Consistent less) : w = List.merge l r fun x y => !less y x :=
      Option.some.inj (met.symm.trans (merged law))
    refine ⟨⟨perm_of_meet met, fun law x => ?_⟩, fun law => ?_⟩
    · rw [same law, front.level law]
    · rw [same law]
      exact front.inOrder law

theorem sorts_short {v : List α} (short : v.length < 2) : Sorts less v v := by
  refine ⟨.refl v, fun _ => ?_⟩
  match v, short with
  | [], _ => exact .nil
  | [x], _ => exact List.pairwise_singleton _ _

theorem answers_small (v : List α) : Answers less (Sorts less v) (small less v) := by
  unfold small
  split
  · rename_i short
    exact sorts_short short
  · extract_lets long
    have first : Sorts less _ _ := sorts_half long (v.take (v.length / 2))
    have second : Sorts less _ _ := sorts_half long (v.drop (v.length / 2))
    have lengths := And.intro first.perm.length_eq second.perm.length_eq
    rw [List.length_take, List.length_drop] at lengths
    refine (answers_meet first.inOrder second.inOrder (by omega) (by omega)).imp fun w sorts => ?_
    have kept := first.toKeeps.append second.toKeeps
    rw [List.take_append_drop] at kept
    exact .of_keeps kept sorts

end Meet

end Registrar.Sorting
