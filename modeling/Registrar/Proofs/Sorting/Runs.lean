import Mathlib.Data.List.Nodup
import Registrar.Proofs.Sorting.Meeting
import Registrar.Sorting.Runs

/-!
Sorting lists of any length. Each part keeps the elements and leaves those level with each other as they
are: cutting into runs, merging them, and dividing at a pivot. Main statement: if the test is that of an
order, a list has its sorted one as result; if not, a result still has the elements of the list.
-/

namespace Registrar.Sorting

open scoped List

variable {α : Type} {less : α → α → Bool}

theorem sorts_merge {l r : List α} (hl : Consistent less → InOrder less l)
    (hr : Consistent less → InOrder less r) : Sorts less (l ++ r) (merge less l r) := by
  unfold merge
  split
  · exact sorts_merge_front hl hr
  · exact sorts_merge_back hl hr

section Stretches

theorem isChain_streak (down : Bool) (x : α) (v : List α) :
    (x :: v.take (streak less down x v)).IsChain fun a b => less b a = down := by
  induction v generalizing x with
  | nil => exact .singleton x
  | cons y r ih =>
    unfold streak
    split
    · rename_i same
      exact .cons_cons (eq_of_beq same) (ih y)
    · exact .singleton x

theorem pairwise_of_isChain (law : Consistent less) {down : Bool} {v : List α}
    (chain : v.IsChain fun a b => less b a = down) : v.Pairwise fun a b => less b a = down := by
  have trans {a b c : α} (ab : less b a = down) (bc : less c b = down) : less c a = down := by
    cases down with
    | false => simpa using law.trans (a := a) (b := b) (c := c) (by simpa using ab) (by simpa using bc)
    | true => exact law.less_trans bc (law.asymm ab)
  have : Trans (fun a b => less b a = down) (fun a b => less b a = down)
      fun a b => less b a = down := ⟨trans⟩
  exact List.isChain_iff_pairwise.1 chain

theorem keeps_reverse {v : List α} (descending : Consistent less → v.Pairwise fun a b => less b a) :
    Keeps less v v.reverse where
  perm := List.reverse_perm v
  level law x := by
    rw [List.filter_reverse]
    have alone : (v.filter (level less x)).Pairwise fun _ _ => False := by
      refine List.pairwise_filter.2 ((descending law).imp fun below ha hb => ?_)
      rw [law.not_less_of_level hb ha] at below
      cases below
    match v.filter (level less x), alone with
    | [], _ => rfl
    | [a], _ => rfl
    | a :: b :: r, alone => exact ((List.pairwise_cons.1 alone).1 b List.mem_cons_self).elim

theorem isChain_firstStretch (v : List α) :
    (v.take (firstStretch less v).1).IsChain fun a b => less b a = (firstStretch less v).2 := by
  match v with
  | [] => exact .nil
  | [a] => exact .singleton a
  | a :: b :: r => exact .cons_cons rfl (isChain_streak _ b r)

end Stretches

section Runs

/-- A run that counts as sorted is in order. -/
def Run.Sound (less : α → α → Bool) (run : Run α) : Prop :=
  run.sorted → Consistent less → InOrder less run.items

theorem answers_nextRun (good : Nat) (eager : Bool) (v : List α) :
    Answers less (fun next => Keeps less v (next.1.items ++ next.2) ∧ next.1.Sound less)
      (nextRun less good eager v) := by
  unfold nextRun
  have chain : (v.take (firstStretch less v).1).IsChain _ := isChain_firstStretch v
  generalize firstStretch less v = stretch at chain
  obtain ⟨n, down⟩ := stretch
  dsimp only at chain ⊢
  split
  · cases down with
    | false =>
      refine ⟨?_, fun _ law => (pairwise_of_isChain law chain).imp fun below => by simp [below]⟩
      rw [if_neg Bool.false_ne_true, List.take_append_drop]
      exact .refl v
    | true =>
      have descending (law : Consistent less) := pairwise_of_isChain law chain
      refine ⟨?_, fun _ law => ?_⟩
      · have kept := (keeps_reverse descending).append (.refl (v.drop n))
        rwa [List.take_append_drop] at kept
      · exact List.pairwise_reverse.2 ((descending law).imp fun below => law.asymm below)
  · split
    · refine (answers_small (v.take 32)).map fun items sorts => ⟨?_, fun _ => sorts.inOrder⟩
      have kept := sorts.toKeeps.append (.refl (v.drop 32))
      rwa [List.take_append_drop] at kept
    · refine ⟨?_, nofun⟩
      rw [List.take_append_drop]
      exact .refl v

def items (runs : List (Run α)) : List α := runs.flatMap Run.items

theorem answers_runs (good : Nat) (eager : Bool) (n : Nat) (v : List α) :
    Answers less (fun runs => Keeps less v (items runs) ∧ ∀ run ∈ runs, run.Sound less)
      (runs less good eager n v) := by
  induction n generalizing v with
  | zero =>
    cases v with
    | nil => exact ⟨.refl [], nofun⟩
    | cons x r => exact ⟨by simpa [items] using Keeps.refl (x :: r), by simp [Run.Sound]⟩
  | succ n ih =>
    cases v with
    | nil => exact ⟨.refl [], nofun⟩
    | cons x r =>
      unfold runs
      refine (answers_nextRun good eager (x :: r)).bind fun next ⟨kept, sound⟩ => ?_
      refine (ih next.2).bind fun others ⟨keptRest, sounds⟩ => ?_
      refine ⟨kept.trans ((Keeps.refl _).append keptRest), fun run hrun => ?_⟩
      rcases List.mem_cons.1 hrun with rfl | hrun
      · exact sound
      · exact sounds run hrun

end Runs

section Merging

def stacked (stack : List (Run α × Nat)) : List α := items (stack.reverse.map Prod.fst)

theorem stacked_cons (entry : Run α × Nat) (stack : List (Run α × Nat)) :
    stacked (entry :: stack) = stacked stack ++ entry.1.items := by
  simp [stacked, items]

/-- What merging the last run with some before it leaves. -/
structure Collapsed (less : α → α → Bool) (depth : Nat) (last : Run α) (stack : List (Run α × Nat))
    (left : Run α × List (Run α × Nat)) : Prop where
  keeps : Keeps less (stacked stack ++ last.items) (stacked left.2 ++ left.1.items)
  sound : left.1.Sound less
  sounds : ∀ entry ∈ left.2, entry.1.Sound less
  bottom : left.2.getLast? = stack.getLast?
  all : depth = 0 → left.2.length ≤ 1

def bottom (last : Run α) (stack : List (Run α × Nat)) : Run α :=
  (stack.getLast?.map Prod.fst).getD last

theorem bottom_cons (last : Run α) (entry : Run α × Nat) (stack : List (Run α × Nat)) :
    bottom last (entry :: stack) = bottom entry.1 stack := by
  cases stack with
  | nil => rfl
  | cons below rest =>
    rw [bottom, bottom, List.getLast?_cons_cons, List.getLast?_cons, Option.map_some, Option.getD_some,
      Option.getD_some]

namespace Collapsed

variable {depth : Nat} {last : Run α} {stack : List (Run α × Nat)} {left : Run α × List (Run α × Nat)}
  (collapsed : Collapsed less depth last stack left) (base : (Sorting.bottom last stack).items = [])

include collapsed base

theorem bottom_eq_nil : (Sorting.bottom left.1 left.2).items = [] := by
  have same := collapsed.bottom
  have kept := collapsed.keeps.perm
  match left.2, same, kept with
  | [], same, kept =>
    have empty : stack = [] := List.getLast?_eq_none_iff.1 same.symm
    rw [empty] at base kept
    rw [show last.items = [] from base] at kept
    exact List.perm_nil.1 kept
  | entry :: below, same, _ =>
    rwa [Sorting.bottom, ← same] at base

theorem stacked_eq_nil (whole : depth = 0) : stacked left.2 = [] := by
  have lowest := collapsed.bottom_eq_nil base
  have short := collapsed.all whole
  match left.2, lowest, short with
  | [], _, _ => rfl
  | [entry], lowest, _ =>
    rw [stacked_cons]
    exact lowest

end Collapsed

variable {quick : List α → Option (List α)} (sorting : ∀ v, Answers less (Sorts less v) (quick v))
  (capacity : Nat)

include sorting

theorem answers_settle {run : Run α} (sound : run.Sound less) :
    Answers less (Sorts less run.items) (run.settle quick) := by
  unfold Run.settle
  split
  · rename_i sorted
    exact ⟨.refl _, sound sorted⟩
  · exact sorting run.items

theorem answers_join {l r : Run α} (hl : l.Sound less) (hr : r.Sound less) :
    Answers less (fun run => Keeps less (l.items ++ r.items) run.items ∧ run.Sound less)
      (join less quick capacity l r) := by
  unfold join
  split
  · exact ⟨.refl _, nofun⟩
  · refine (answers_settle sorting hl).bind fun left sortsLeft => ?_
    refine (answers_settle sorting hr).bind fun right sortsRight => ?_
    have merged := sorts_merge sortsLeft.inOrder sortsRight.inOrder
    exact ⟨(sortsLeft.toKeeps.append sortsRight.toKeeps).trans merged.toKeeps, fun _ => merged.inOrder⟩

theorem answers_collapse (depth : Nat) {last : Run α} (sound : last.Sound less)
    {stack : List (Run α × Nat)} (sounds : ∀ entry ∈ stack, entry.1.Sound less) :
    Answers less (Collapsed less depth last stack) (collapse less quick capacity depth last stack) := by
  induction stack generalizing last with
  | nil => exact ⟨.refl _, sound, sounds, rfl, fun _ => Nat.zero_le 1⟩
  | cons entry stack ih =>
    cases stack with
    | nil => exact ⟨.refl _, sound, sounds, rfl, fun _ => Nat.le_refl 1⟩
    | cons below rest =>
      obtain ⟨run, d⟩ := entry
      obtain ⟨soundRun, soundsRest⟩ := List.forall_mem_cons.1 sounds
      rw [collapse]
      split
      · refine (answers_join sorting capacity soundRun sound).bind fun joined ⟨kept, sound⟩ => ?_
        refine (ih sound soundsRest).imp fun left collapsed => { collapsed with keeps := ?_, bottom := ?_ }
        · rw [stacked_cons, List.append_assoc]
          exact ((Keeps.refl _).append kept).trans collapsed.keeps
        · rw [collapsed.bottom, List.getLast?_cons_cons]
      · rename_i above
        exact ⟨.refl _, sound, sounds, rfl, fun none => absurd (none ▸ Nat.zero_le d) above⟩

theorem answers_mergeRuns (depth : Nat → Nat → Nat → Nat) (place : Nat) {last : Run α}
    (sound : last.Sound less) {stack : List (Run α × Nat)}
    (sounds : ∀ entry ∈ stack, entry.1.Sound less) (base : (bottom last stack).items = [])
    {rest : List (Run α)} (soundRest : ∀ run ∈ rest, run.Sound less) :
    Answers less (Sorts less (stacked stack ++ last.items ++ items rest))
      (mergeRuns less quick capacity depth place last stack rest) := by
  induction rest generalizing place last stack with
  | nil =>
    refine (answers_collapse sorting capacity 0 sound sounds).bind fun left collapsed => ?_
    refine (answers_settle sorting collapsed.sound).imp fun w sorts => ?_
    have kept := collapsed.keeps
    rw [collapsed.stacked_eq_nil base rfl, List.nil_append] at kept
    rw [items, List.flatMap_nil, List.append_nil]
    exact .of_keeps kept sorts
  | cons next rest ih =>
    obtain ⟨soundNext, soundRest⟩ := List.forall_mem_cons.1 soundRest
    unfold mergeRuns
    extract_lets d
    refine (answers_collapse sorting capacity d sound sounds).bind fun left collapsed => ?_
    refine (ih _ soundNext (List.forall_mem_cons.2 ⟨collapsed.sound, collapsed.sounds⟩) ?_
      soundRest).imp fun w sorts => .of_keeps ?_ sorts
    · rw [bottom_cons]
      exact collapsed.bottom_eq_nil base
    · rw [stacked_cons, items, List.flatMap_cons, ← List.append_assoc]
      exact (collapsed.keeps.append (.refl _)).append (.refl _)

theorem answers_drift (eager : Bool) (v : List α) :
    Answers less (Sorts less v) (drift less quick capacity eager v) := by
  unfold drift
  split
  · rename_i short
    exact sorts_short short
  · refine (answers_runs _ eager v.length v).bind fun runs ⟨kept, sounds⟩ => ?_
    have none : (⟨[], true⟩ : Run α).Sound less := fun _ _ => .nil
    refine (answers_mergeRuns sorting capacity _ 0 none (List.forall_mem_nil _) rfl sounds).imp ?_
    exact fun w sorts => .of_keeps kept sorts

end Merging

section Dividing

variable {test : α → Bool} {passes : Bool} {before after : List α} {pivot : α}

theorem divide_perm (test : α → Bool) (passes : Bool) (before : List α) (pivot : α) (after : List α) :
    (divide test passes before pivot after).1 ++ (divide test passes before pivot after).2 ~
      before ++ pivot :: after := by
  have own : (if passes then ([pivot], []) else ([], [pivot])).1 ++
      (if passes then ([pivot], []) else ([], [pivot])).2 ~ [pivot] := by
    cases passes <;> exact .refl _
  have parts := ((List.filter_append_perm test before).append own).append
    (List.filter_append_perm test after)
  rw [List.append_assoc before, List.singleton_append] at parts
  exact ((perm_regroup _ _ _ _).trans ((perm_regroup _ _ _ _).append_right _)).trans parts

theorem divide_eq_filter (own : test pivot = passes) :
    divide test passes before pivot after =
      ((before ++ pivot :: after).filter test, (before ++ pivot :: after).filter fun x => !test x) := by
  subst own
  unfold divide
  cases h : test pivot <;> simp [h, List.filter_append]

/-- The two sides of a list by a test: elements level with each other are on one side, as they were. -/
structure Divided (less : α → α → Bool) (test : α → Bool) (v : List α) (sides : List α × List α) :
    Prop where
  keeps : Keeps less v (sides.1 ++ sides.2)
  passing : Consistent less → ∀ a ∈ sides.1, test a
  failing : Consistent less → ∀ b ∈ sides.2, !test b

theorem divided (own : Consistent less → test pivot = passes)
    (together : Consistent less → ∀ x a, level less x a → test a = test x) :
    Divided less test (before ++ pivot :: after) (divide test passes before pivot after) where
  keeps.perm := divide_perm test passes before pivot after
  keeps.level law x := by
    rw [divide_eq_filter (own law), List.filter_append, List.filter_filter, List.filter_filter]
    have one (p : Bool → Bool) :
        (fun a => level less x a && p (test a)) = fun a => level less x a && p (test x) := by
      funext a
      cases h : level less x a with
      | false => rfl
      | true => rw [together law x a h]
    rw [one not, show (fun a => level less x a && test a) = _ from one id]
    cases test x <;> simp
  passing law a ha := by
    rw [divide_eq_filter (own law)] at ha
    exact (List.mem_filter.1 ha).2
  failing law b hb := by
    rw [divide_eq_filter (own law)] at hb
    exact (List.mem_filter.1 hb).2

theorem divided_below (before : List α) (pivot : α) (after : List α) :
    Divided less (fun x => less x pivot) (before ++ pivot :: after)
      (divide (fun x => less x pivot) false before pivot after) :=
  divided (fun law => by simpa using law.irrefl pivot)
    fun law _ _ same => law.less_eq_of_level same pivot

theorem divided_level (before : List α) (pivot : α) (after : List α) :
    Divided less (fun x => !less pivot x) (before ++ pivot :: after)
      (divide (fun x => !less pivot x) true before pivot after) :=
  divided (fun law => law.irrefl pivot) fun law _ _ same => by rw [law.eq_less_of_level same pivot]

variable {v lower upper : List α}

theorem Divided.mem {sides : List α × List α} (d : Divided less test v sides) {x : α} :
    x ∈ v ↔ x ∈ sides.1 ∨ x ∈ sides.2 := by
  rw [← List.mem_append, d.keeps.perm.mem_iff]

theorem Divided.answers_apart (d : Divided less (fun x => less x pivot) v (lower, upper))
    {first second : Option (List α)} (hl : Answers less (Sorts less lower) first)
    (hu : Answers less (Sorts less upper) second) :
    Answers less (Sorts less v) (do return (← first) ++ (← second)) :=
  hl.bind fun _ sortsLower => hu.bind fun _ sortsUpper =>
    .append d.keeps sortsLower sortsUpper fun law a ha b hb =>
      law.trans (law.asymm (d.passing law a ha)) (d.failing law b hb)

theorem Divided.answers_level (d : Divided less (fun x => !less pivot x) v (lower, upper))
    (floor : Consistent less → ∀ x ∈ v, !less x pivot) {o : Option (List α)}
    (hu : Answers less (Sorts less upper) o) : Answers less (Sorts less v) (o.map (lower ++ ·)) := by
  have below (law : Consistent less) : ∀ a ∈ lower, ∀ b ∈ v, !less b a :=
    fun a ha b hb => law.trans (d.passing law a ha) (floor law b hb)
  refine hu.map fun w sorts => .append d.keeps ⟨.refl lower, fun law => ?_⟩ sorts fun law a ha b hb =>
    below law a ha b (d.mem.2 (.inr hb))
  exact List.pairwise_of_forall_mem_list fun a ha b hb => below law a ha b (d.mem.2 (.inl hb))

end Dividing

section Quick

theorem answers_insertion (v : List α) : Answers less (Sorts less v) (some (insertion less v)) :=
  sorts_insertion v

theorem answers_quick (capacity limit : Nat) {bound : Option α} {v : List α}
    (above : Consistent less → ∀ b ∈ bound, ∀ x ∈ v, !less x b) :
    Answers less (Sorts less v) (quick less capacity limit bound v) := by
  induction limit generalizing bound v with
  | zero =>
    unfold quick
    split
    · exact answers_small v
    · exact answers_drift answers_insertion capacity true v
  | succ limit ih =>
    unfold quick
    split
    · exact answers_small v
    · split
      · exact answers_drift answers_insertion capacity true v
      · rename_i pivot after found
        extract_lets before
        have whole : before ++ pivot :: after = v := by rw [← found, List.take_append_drop]
        have apart : Divided less _ _ _ := divided_below before pivot after
        rw [whole] at apart
        generalize divide (fun x => less x pivot) false before pivot after = sides at apart
        obtain ⟨lower, upper⟩ := sides
        dsimp only
        split
        · rename_i lowest
          have level : Divided less _ _ _ := divided_level before pivot after
          rw [whole] at level
          generalize divide (fun x => !less pivot x) true before pivot after = sides at level
          obtain ⟨same, upper⟩ := sides
          refine level.answers_level (fun law x hx => ?_) (ih nofun)
          rw [Bool.or_eq_true, Option.any_eq_true, List.isEmpty_iff] at lowest
          rcases lowest with ⟨b, rfl, notAbove⟩ | rfl
          · exact law.trans notAbove (above law b rfl x hx)
          · exact apart.failing law x ((apart.mem.1 hx).resolve_left List.not_mem_nil)
        · refine apart.answers_apart (ih fun law b hb x hx => ?_) (ih fun law b hb x hx => ?_)
          · exact above law b hb x (apart.mem.2 (.inl hx))
          · cases hb
            exact apart.failing law x hx

/-- If the test is that of an order, the list in order is the result; if not, a result still has the
elements of the list. -/
theorem answers_sort (bytes : Nat) (v : List α) : Answers less (Sorts less v) (sort? less bytes v) := by
  unfold sort?
  split
  · exact sorts_insertion v
  · extract_lets wanted capacity unsorted
    exact answers_drift (fun w => answers_quick capacity _ nofun) capacity _ v

end Quick

section Numbers

variable {number : α → Int}

theorem consistent_number : Consistent fun a b => decide (number a < number b) where
  asymm before := by simpa using Int.le_of_lt (of_decide_eq_true before)
  trans ab bc := by
    simp only [Bool.not_eq_true', decide_eq_false_iff_not, Int.not_lt] at ab bc ⊢
    exact Int.le_trans ab bc

/-- Elements with different numbers have one order, which every sort by the numbers finds. -/
theorem sort?_of_perm (bytes : Nat) {given sorted : List α} (perm : given.Perm sorted)
    (ascending : sorted.Pairwise fun a b => number a < number b) :
    sort? (fun a b => decide (number a < number b)) bytes given = some sorted := by
  have answers : Answers _ (Sorts _ given) (sort? (fun a b => decide (number a < number b)) bytes given) :=
    answers_sort bytes given
  cases found : sort? (fun a b => decide (number a < number b)) bytes given with
  | none =>
    rw [found] at answers
    exact absurd consistent_number answers
  | some result =>
    rw [found] at answers
    have inOrder : result.Pairwise fun a b => number a ≤ number b :=
      (answers.inOrder consistent_number).imp fun before => by simpa using before
    have apart : (sorted.map number).Nodup := List.pairwise_map.2 (ascending.imp Int.ne_of_lt)
    refine congrArg some (List.Perm.eq_of_pairwise (fun a b ha hb ab ba => ?_) inOrder
      (ascending.imp Int.le_of_lt) (answers.perm.trans perm))
    exact List.inj_on_of_nodup_map apart ((answers.perm.trans perm).mem_iff.1 ha) hb
      (Int.le_antisymm ab ba)

end Numbers

end Registrar.Sorting
