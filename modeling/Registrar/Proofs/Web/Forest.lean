import Mathlib.Logic.Relation
import Registrar.Proofs.Kind.Readable
import Registrar.Proofs.Web.Additions
import Registrar.Proofs.Web.Turns

/-!
The forest of departments. An update refuses a department that is its own parent, and nothing looks
further up. Main statement: over a run of posts from the empty or the seeded store the departments are a
forest at all times just if no post gives a department a parent from which the walk upwards leads back to
that department.
-/

namespace Registrar

open Json

namespace Walk

variable {α : Type} {f g : α → Option α} {a b k : α}

/-- Where some steps along the map lead. -/
def after (f : α → Option α) (a : α) : Nat → Option α
  | 0 => some a
  | n + 1 => (after f a n).bind f

/-- No walk comes to a place where it has been before. -/
def NeverReturns (f : α → Option α) : Prop :=
  ∀ a m n, m < n → ∀ b, after f a m = some b → after f a n ≠ some b

/-- One step along the map. -/
def Steps (f : α → Option α) (a b : α) : Prop := f a = some b

theorem after_succ_iff {n : Nat} :
    after f a (n + 1) = some b ↔ ∃ c, after f a n = some c ∧ Steps f c b :=
  Option.bind_eq_some_iff

theorem after_add {m : Nat} (h : after f a m = some b) (n : Nat) :
    after f a (m + n) = after f b n := by
  induction n with
  | zero => exact h
  | succ n ih => exact congrArg (Option.bind · f) ih

theorem reaches_iff : Relation.ReflTransGen (Steps f) a b ↔ ∃ n, after f a n = some b := by
  constructor
  · intro reaches
    induction reaches with
    | refl => exact ⟨0, rfl⟩
    | tail _ step ih =>
      obtain ⟨n, there⟩ := ih
      exact ⟨n + 1, after_succ_iff.2 ⟨_, there, step⟩⟩
  · rintro ⟨n, there⟩
    induction n generalizing b with
    | zero =>
      cases there
      exact .refl
    | succ n ih =>
      obtain ⟨c, before, step⟩ := after_succ_iff.1 there
      exact (ih before).tail step

theorem neverReturns_iff : NeverReturns f ↔ ∀ a, ¬Relation.TransGen (Steps f) a a := by
  constructor
  · intro never a circle
    obtain ⟨c, reaches, step⟩ := Relation.TransGen.tail'_iff.1 circle
    obtain ⟨n, there⟩ := reaches_iff.1 reaches
    exact never a 0 (n + 1) (Nat.succ_pos n) a rfl (after_succ_iff.2 ⟨c, there, step⟩)
  · intro none a m n less b first second
    obtain ⟨j, rfl⟩ := Nat.exists_eq_add_of_lt less
    rw [Nat.add_assoc, after_add first, after_succ_iff] at second
    obtain ⟨c, there, step⟩ := second
    exact none b (.tail' (reaches_iff.2 ⟨j, there⟩) step)

theorem NeverReturns.mono (h : NeverReturns f) (fewer : ∀ a b, g a = some b → f a = some b) :
    NeverReturns g := by
  rw [neverReturns_iff] at h ⊢
  exact fun a circle => h a (Relation.TransGen.mono fewer a a circle)

theorem neverReturns_of_decreasing {h : α → Nat} (less : ∀ a b, f a = some b → h b < h a) :
    NeverReturns f := by
  have lower {a b : α} (leads : Relation.TransGen (Steps f) a b) : h b < h a := by
    induction leads with
    | single step => exact less _ _ step
    | tail _ step ih => exact Nat.lt_trans (less _ _ step) ih
  exact neverReturns_iff.2 fun a circle => Nat.lt_irrefl _ (lower circle)

theorem reaches_congr (same : ∀ a, a ≠ k → g a = f a)
    (h : Relation.ReflTransGen (Steps f) a k) : Relation.ReflTransGen (Steps g) a k := by
  induction h using Relation.ReflTransGen.head_induction_on with
  | refl => exact .refl
  | @head a _ step _ ih =>
    by_cases here : a = k
    · rw [here]
    · exact .head ((same a here).trans step) ih

theorem step_split (same : ∀ a, a ≠ k → g a = f a) (h : Relation.TransGen (Steps g) a b) :
    Relation.TransGen (Steps f) a b ∨
      Relation.ReflTransGen (Steps g) a k ∧ Relation.TransGen (Steps g) k b := by
  have first {c d : α} (reaches : Relation.ReflTransGen (Steps g) a c) (step : Steps g c d) :
      Steps f c d ∨ Relation.ReflTransGen (Steps g) a k ∧ Relation.TransGen (Steps g) k d := by
    by_cases here : c = k
    · subst here
      exact .inr ⟨reaches, .single step⟩
    · exact .inl ((same c here).symm.trans step)
  induction h with
  | single step => exact (first .refl step).imp Relation.TransGen.single id
  | tail before step ih =>
    rcases ih with old | ⟨reaches, through⟩
    · exact (first before.to_reflTransGen step).imp old.tail id
    · exact .inr ⟨reaches, through.tail step⟩

/-- A map that is changed at one place leads back nowhere just if it does not lead back to that place. -/
theorem neverReturns_iff_of_changed (h : NeverReturns f) (same : ∀ a, a ≠ k → g a = f a) :
    NeverReturns g ↔ ∀ b, g k = some b → ¬Relation.ReflTransGen (Steps f) b k := by
  rw [neverReturns_iff] at h ⊢
  constructor
  · intro none b step reaches
    exact none k (.head' step (reaches_congr same reaches))
  · intro apart a circle
    rcases step_split same circle with old | ⟨reaches, through⟩
    · exact h a old
    · obtain ⟨b, step, back⟩ := Relation.TransGen.head'_iff.1 (through.trans_left reaches)
      exact apart b step (reaches_congr (fun c hc => (same c hc).symm) back)

end Walk

namespace Department

theorem parent_of_encode {d : Department} :
    ((kind.encode d).field? "parent").bind Reference.read? = d.parent := by
  have shown : (kind.encode d).field? "parent" = some (.ofOption Reference.toValue d.parent) := rfl
  rw [shown, Option.bind_some]
  cases d.parent <;> rfl

theorem parent_bind {params : Params} {e bound : Department} (h : kind.bind params e = .ok bound) :
    bound.parent.map Reference.id = if (params.get? "parent.id").isSome then
      params.getFilled? "parent.id" else e.parent.map Reference.id := by
  refine Kind.reference_of_bind "parent" "department" h (by cases kind.isNew e <;> decide)
    (by cases kind.isNew e <;> decide) (fun _ => rfl) fun decoded given => ?_
  obtain ⟨fields, hfields, read⟩ := readFrom_of_decode decoded
  exact Fields.same_reference read.parent (Value.fields?_of_field? given hfields)

theorem parent_of_prepare {e x : Department} {caller : Caller}
    (h : policy.prepare e caller = .ok x) : x.parent = e.parent := by
  cases h
  split <;> rfl

theorem parent_stable (parent : Option Reference) : kind.Stable fun d => d.parent = parent where
  setId _ _ h := h
  setVersion _ _ h := h

theorem parent_of_decode {d x : Department} (h : kind.decode (kind.encode d) = .ok x) :
    x.parent = d.parent := by
  have parent : (kind.encode x).field? "parent" = (kind.encode d).field? "parent" :=
    field?_of_decode h nofun rfl
  exact Reference.ofOption_toValue_injective (Option.some.inj parent)

end Department

namespace Store

/-- The parent that the row under a key names. -/
def superior? (s : Store) (key : String) : Option String :=
  (s.row? Department.kind.entityType key).bind fun row =>
    ((row.content.field? "parent").bind Reference.read?).map Reference.id

/-- Whoever follows the parents of departments comes to no department a second time. -/
def IsForest (s : Store) : Prop := Walk.NeverReturns s.superior?

def LeadsTo (s : Store) (key above : String) : Prop := ∃ n, Walk.after s.superior? key n = some above

/-- Each row of a department shows one of the first departments, under the key of it. -/
def Founding (s : Store) : Prop :=
  ∀ key row, s.row? Department.kind.entityType key = some row →
    ∃ d ∈ Seed.departments, Department.kind.key d = key ∧
      ∃ x, row.content = Department.kind.encode x ∧ x.code = d.code ∧ x.parent = d.parent

variable {s t : Store} {key : String}

theorem superior?_congr
    (same : t.row? Department.kind.entityType key = s.row? Department.kind.entityType key) :
    t.superior? key = s.superior? key := by
  rw [superior?, superior?, same]

theorem superior?_of_row {d : Department} {row : SavedRow}
    (there : s.row? Department.kind.entityType key = some row)
    (shown : row.content = Department.kind.encode d) :
    s.superior? key = d.parent.map Reference.id := by
  rw [superior?, there, Option.bind_some, shown, Department.parent_of_encode]

theorem superior?_of_found (shows : s.Shows Department.kind fun _ => True) {drawn : Department}
    (found : s.find? Department.kind key = .ok (some drawn)) :
    s.superior? key = drawn.parent.map Reference.id := by
  obtain ⟨row, there, decoded⟩ := row_of_find? found
  have there : s.row? Department.kind.entityType key = some row := there
  obtain ⟨d, shown, _⟩ := shows row (mem_of_row? there) (SavedRow.isAt_iff.1 (isAt_of_row? there)).1
  rw [shown] at decoded
  rw [superior?_of_row there shown, Department.parent_of_decode decoded]

theorem IsForest.not_leadsTo (forest : s.IsForest) {above : String}
    (step : s.superior? key = some above) : ¬s.LeadsTo above key := by
  rintro ⟨n, leads⟩
  have first : Walk.after s.superior? key 1 = some above := step
  exact forest key 0 (1 + n) (by omega) key rfl ((Walk.after_add first n).trans leads)

theorem isForest_congr
    (same : ∀ key, t.row? Department.kind.entityType key = s.row? Department.kind.entityType key) :
    t.IsForest ↔ s.IsForest := by
  have all : t.superior? = s.superior? := funext fun key => superior?_congr (same key)
  rw [IsForest, IsForest, all]

/-- A saved department leaves a forest just if its parent does not lead back to it. -/
theorem isForest_saved_iff (forest : s.IsForest) {supply : Supply} {author : Author}
    {d saved : Department} (saves : s.save Department.kind supply author d = (t, .ok saved)) :
    t.IsForest ↔ ∀ above, d.parent.map Reference.id = some above →
      ¬s.LeadsTo above (Department.kind.key saved) := by
  obtain ⟨there, others⟩ := row?_saved Department.kind_lawful saves
  have parent : saved.parent = d.parent :=
    stable_saved (P := fun x => x.parent = d.parent) (Department.parent_stable _)
      Department.kind_lawful rfl saves
  have here := superior?_of_row there rfl
  rw [parent] at here
  rw [IsForest, Walk.neverReturns_iff_of_changed forest fun key other =>
    superior?_congr (others key other), here]
  simp only [Walk.reaches_iff, LeadsTo]

theorem IsForest.of_removed (forest : s.IsForest)
    (fewer : ∀ key, t.row? Department.kind.entityType key = s.row? Department.kind.entityType key ∨
      t.row? Department.kind.entityType key = none) : t.IsForest := by
  refine Walk.NeverReturns.mono forest fun key above step => ?_
  rcases fewer key with same | gone
  · exact (superior?_congr same).symm.trans step
  · rw [superior?, gone] at step
    cases step

end Store

namespace Web

variable {limits : PageLimits} {r : Registry} {supply : Supply} {params : Params} {caller : Caller}
variable {s t : Store}

theorem Reached.shows_departments (h : Reached limits r) :
    r.store.Shows Department.kind fun _ => True := by
  have stable : Department.kind.Stable fun _ => True := ⟨fun _ _ h => h, fun _ _ h => h⟩
  refine h.induction (P := fun s => s.Shows Department.kind fun _ => True) (fun _ hrow => by cases hrow)
    (fun supply _ => ?_) fun p r h => ?_
  · refine load_induction (fun _ _ s h => h.save stable trivial _ _)
      (fun _ _ s h => h.save_other Department.entityType_ne_role.symm _ _ _)
      (fun _ _ s h => h.save_other Department.entityType_ne_user.symm _ _ _) ?_
    intro row hrow
    cases hrow
  · refine p.carryOut_cases limits
      (P := fun action => (action r).1.store.Shows Department.kind fun _ => True) (fun _ => h) ?_ ?_ ?_
    · intro order params _
      exact ((departments limits).deeds_perform ..).shows stable (fun _ _ => trivial) h
    · intro order params _
      exact ((roles limits).deeds_perform ..).shows_other Department.entityType_ne_role.symm h
    · intro job _ _ _
      exact ((users limits).deeds_perform ..).shows_other Department.entityType_ne_user.symm h

/-- The key of the department that a request is about: the one that it names, or the code of a new one,
which gets a text of its own if the code is blank. -/
def departmentKey (supply : Supply) (params : Params) (s : Store) : String :=
  match Desk.requestId params with
  | .ok (some id) => id
  | _ => if Text.allBlank params.code then supply.textId (s.textIds + 1) else params.code

/-- The post gives a department a parent that leads back to the department. -/
def Posted.ClosesCircle (limits : PageLimits) (p : Posted) (r : Registry) : Prop :=
  ∃ order params above, p.post = .order .department order params ∧ order ≠ .delete ∧
    params.getFilled? "parent.id" = some above ∧
    r.store.LeadsTo above (departmentKey p.supply params r.store) ∧
    ∃ outcome, (p.carryOut limits r).2 = .ok outcome

theorem key_entered {e x saved : Department} {author : Author}
    (unnamed : Desk.requestId (I := String) params = .ok none)
    (bound : Department.kind.bind params Department.kind.blank = .ok e)
    (prepared : Department.policy.prepare e caller = .ok x)
    (saves : s.save Department.kind supply author
      (Department.kind.stamp caller.userId supply.now x) = (t, .ok saved)) :
    Department.kind.key saved = departmentKey supply params s := by
  have given : e.code = params.code := Department.code_bind bound
  have unset : e.id = none := Kind.id_bind Department.kind_lawful bound
  obtain ⟨code, own⟩ := Department.of_prepare unset prepared
  rw [← code] at own
  have key := Department.key_named (d := Department.kind.stamp caller.userId supply.now x) own supply s
  rw [Store.key_saved_named Department.kind_lawful saves, key, departmentKey, unnamed, ← given, ← code]
  rfl

theorem departmentKey_revised (kept : s.WellKept) {id : String} {drawn e x saved : Department}
    {author : Author} (named : Desk.requestId params = .ok (some id))
    (found : s.find? Department.kind id = .ok (some drawn))
    (bound : Department.kind.bind params drawn = .ok e)
    (prepared : Department.policy.prepare e caller = .ok x)
    (saves : s.save Department.kind supply author x = (t, .ok saved)) :
    Department.kind.key saved = departmentKey supply params s := by
  rw [departmentKey, named]
  exact Desk.key_revised (d := departments {}) Department.kind_lawful departments_keepsId kept found
    bound prepared saves

theorem isForest_of_served (kept : r.store.WellKept)
    (shows : r.store.Shows Department.kind fun _ => True) (forest : r.store.IsForest)
    {answer : Except Error Outcome}
    (served : (departments limits).Served supply caller params r.store t answer) :
    t.IsForest ↔ ¬∃ above, params.getFilled? "parent.id" = some above ∧
      r.store.LeadsTo above (departmentKey supply params r.store) ∧
      ∃ outcome, answer = .ok outcome := by
  cases served with
  | refused untouched fault =>
    refine ⟨fun _ ⟨_, _, _, answered⟩ => absurd answered not_answered_error, fun _ => ?_⟩
    exact (Store.isForest_congr fun _ => Store.row?_congr untouched.rows).2 forest
  | @entered e x saved _ unnamed bound allowed prepared _ _ _ saves message =>
    have parent : ((departments limits).kind.stamp caller.userId supply.now x).parent.map
        Reference.id = params.getFilled? "parent.id" := by
      show x.parent.map Reference.id = _
      rw [Department.parent_of_prepare prepared, Department.parent_bind bound]
      exact Params.ite_getFilled?
    refine (Store.isForest_saved_iff forest saves).trans ?_
    rw [key_entered unnamed bound prepared saves, parent]
    exact ⟨fun apart ⟨above, asked, leads, _⟩ => apart above asked leads,
      fun none above asked leads => none ⟨above, asked, leads, _, rfl⟩⟩
  | @revised id drawn e x saved _ named found bound allowed prepared _ _ _ saves message =>
    have key := departmentKey_revised kept named found bound prepared saves
    have parent := Department.parent_bind bound
    rw [← Department.parent_of_prepare prepared] at parent
    refine (Store.isForest_saved_iff forest saves).trans ?_
    rw [key, parent]
    split
    · exact ⟨fun apart ⟨above, asked, leads, _⟩ => apart above asked leads,
        fun none above asked leads => none ⟨above, asked, leads, _, rfl⟩⟩
    · next silent =>
      -- Without a word about the parent the department keeps the one that it has in the forest.
      have kept := Store.superior?_of_found shows found
      rw [departmentKey, named, ← kept, Params.getFilled?_of_unnamed silent]
      refine ⟨fun _ => ?_, fun _ above step leads => forest.not_leadsTo step leads⟩
      rintro ⟨_, asked, _⟩
      cases asked

/-- A post leaves a forest just if it closes no circle. -/
theorem isForest_apply_iff (reached : Reached limits r) (forest : r.store.IsForest) (p : Posted) :
    (p.apply limits r).store.IsForest ↔ ¬p.ClosesCircle limits r := by
  have kept := reached.kept.wellKept
  have noCircle (noChange : ¬p.Changes .department) : ¬p.ClosesCircle limits r :=
    fun ⟨order, params, _, post, changes, _⟩ => noChange ⟨order, params, post, changes⟩
  cases p.turn .department (departments limits) Department.kind_lawful rfl (fun _ _ _ _ => rfl)
    nofun kept with
  | idle noChange same =>
    exact ⟨fun _ => noCircle noChange, fun _ => (Store.isForest_congr same).2 forest⟩
  | deleted noChange done after =>
    refine ⟨fun _ => noCircle noChange, fun _ => ?_⟩
    obtain ⟨gone, stays⟩ :=
      Desk.row?_doDelete (d := departments limits) Department.kind_lawful kept done
    rw [after]
    refine forest.of_removed fun key => ?_
    rcases stays key with same | ⟨id, e, removes, rfl⟩
    · exact .inl same
    · exact .inr (gone id e removes)
  | @served order params post changes served =>
    refine (isForest_of_served kept reached.shows_departments forest served).trans (not_congr ⟨?_, ?_⟩)
    · rintro ⟨above, asked, leads, answered⟩
      exact ⟨order, params, above, post, changes, asked, leads, answered⟩
    · rintro ⟨_, _, above, same, _, asked, leads, answered⟩
      cases post.symm.trans same
      exact ⟨above, asked, leads, answered⟩

theorem isForest_of_no_rows (h : s.rows = []) : s.IsForest := by
  refine Walk.neverReturns_iff.2 fun a circle => ?_
  obtain ⟨_, step, _⟩ := Relation.TransGen.head'_iff.1 circle
  simp [Walk.Steps, Store.superior?, Store.row?, h] at step

theorem founding_load (supply : Supply) : (Seed.load supply {}).1.Founding := by
  have known : ∀ d ∈ Seed.departments, Department.kind.isNew d = false := by decide
  refine load_induction (fun d hd s h key row there => ?_) (fun role _ s h key row there => ?_)
    (fun u _ s h key row there => ?_) fun key row there => ?_
  · let stamped := Department.kind.stamp Seed.author.actor supply.now d
    have named : s.named Department.kind supply stamped = stamped :=
      Store.named_of_not_isNew _ (known d hd)
    rcases Store.row?_save_cases Department.kind_lawful supply Seed.author stamped s
        Department.kind.entityType key with ⟨same, _⟩ | ⟨x, _, _, own, shape, _, saved⟩
    · exact h key row (same.symm.trans there)
    · cases saved.symm.trans there
      rw [named] at shape
      rcases shape with rfl | ⟨n, rfl⟩
      · exact ⟨d, hd, own, stamped, rfl, rfl, rfl⟩
      · exact ⟨d, hd, own, Department.kind.setVersion n stamped, rfl, rfl, rfl⟩
  · exact h key row ((Store.row?_save_other Role.kind_lawful
      Department.entityType_ne_role.symm ..).symm.trans there)
  · exact h key row ((Store.row?_save_other User.kind_lawful
      Department.entityType_ne_user.symm ..).symm.trans there)
  · cases there

theorem isForest_load (supply : Supply) : (Seed.load supply {}).1.IsForest := by
  have graded : ∀ d ∈ Seed.departments, ∀ above ∈ d.parent.map Reference.id,
      above.length < (Department.kind.key d).length := by decide
  refine Walk.neverReturns_of_decreasing (h := String.length) fun key above step => ?_
  obtain ⟨row, there, _⟩ := Option.bind_eq_some_iff.1 step
  obtain ⟨d, hd, own, x, shown, _, parent⟩ := founding_load supply key _ there
  rw [Store.superior?_of_row there shown, parent] at step
  exact own ▸ graded d hd above step

/-- From the empty or the seeded store on, the departments are a forest at all times just if no post gives
a department a parent that leads back to that department. -/
theorem forest_throughout_iff {settings : Settings} {posts : List Posted} (sound : supply.IsSound) :
    (∀ r ∈ Posted.visited limits posts (begin settings supply).1, r.store.IsForest) ↔
      Posted.Along limits (fun p r => ¬p.ClosesCircle limits r) posts (begin settings supply).1 := by
  have reached : Reached limits (begin settings supply).1 := ⟨settings, supply, [], sound, rfl⟩
  refine Posted.forall_visited_iff (P := fun r => r.store.IsForest)
    (fun p r reached forest => isForest_apply_iff reached forest p) reached ?_
  unfold begin
  dsimp only
  split
  · exact isForest_load supply
  · exact isForest_of_no_rows rfl

theorem Store.not_leadsTo_of_root {key above : String} (root : s.superior? key = none)
    (other : key ≠ above) : ¬s.LeadsTo key above := by
  intro leads
  obtain same | ⟨_, step, _⟩ :=
    Relation.ReflTransGen.cases_head (Walk.reaches_iff.2 leads)
  · exact other same
  · cases root.symm.trans step

/-- Whoever founds a department under the second headquarters and moves another one there leaves a
forest. -/
theorem field_sales_grow :
    numbering.IsSound ∧
    ∀ r ∈ Posted.visited {} [
        ordering .department .create [("code", "D30"), ("name", "Unit"), ("parent.id", "D20")],
        ordering .department .update [("id", "D1010"), ("parent.id", "D20")]]
      (begin { seeded := true } numbering).1, r.store.IsForest := by
  refine ⟨numbering_isSound, (forest_throughout_iff numbering_isSound).2 ⟨?_, ?_, trivial⟩⟩
  · rintro ⟨_, _, above, same, _, asked, leads, _⟩
    cases same
    cases asked
    exact Store.not_leadsTo_of_root (by decide +kernel) (by decide) leads
  · rintro ⟨_, _, above, same, _, asked, leads, _⟩
    cases same
    cases asked
    exact Store.not_leadsTo_of_root (by decide +kernel) (by decide) leads

/-- Whoever founds a department with itself as parent has it founded. -/
theorem own_parent_founded :
    numbering.IsSound ∧
    ¬∀ r ∈ Posted.visited {} [
        ordering .department .create [("code", "D30"), ("name", "Unit"), ("parent.id", "D30")]]
      (begin { seeded := true } numbering).1, r.store.IsForest := by
  refine ⟨numbering_isSound, fun forest => ?_⟩
  have start : organisation.store.IsForest := forest organisation List.mem_cons_self
  have next := forest _ (List.mem_cons_of_mem _ List.mem_cons_self)
  have answered : ((ordering .department .create [("code", "D30"), ("name", "Unit"),
      ("parent.id", "D30")]).carryOut {} organisation).2.isOk := by decide +kernel
  exact (isForest_apply_iff reached_organisation start _).1 next ⟨.create, _, "D30", rfl, nofun,
    by decide +kernel, ⟨0, by decide +kernel⟩, answered_of_isOk answered⟩

end Web
end Registrar
