import Registrar.Proofs.Web.Batches
import Registrar.Proofs.Web.Forest

/-!
Codes of departments and of their users. The code of a user is the identifier of the department, which is
the code that the department was founded with; but the code of a department takes request values like any
other field. Main statement: over a run of posts from the empty or the seeded store the code of each user
starts with the present code of the department just if no post gives a department with users a code with
which its identifier does not start, and none puts a user into a department that has such a code.
-/

namespace Registrar

open Json

namespace Department

theorem code_of_decode {d x : Department} (h : kind.decode (kind.encode d) = .ok x) :
    x.code = d.code := by
  have code : (kind.encode x).field? "code" = (kind.encode d).field? "code" :=
    field?_of_decode h nofun rfl
  exact Value.text.inj (Option.some.inj code)

theorem code_of_prepare {e x : Department} {caller : Caller}
    (h : policy.prepare e caller = .ok x) : x.code = e.code := by
  cases h
  split <;> rfl

theorem code_stable (code : String) : kind.Stable fun d => d.code = code where
  setId _ _ h := h
  setVersion _ _ h := h

end Department

namespace User

theorem department_of_encode {u : User} :
    ((kind.encode u).field? "department").bind Reference.read? = u.department := by
  have shown : (kind.encode u).field? "department" =
      some (.ofOption Reference.toValue u.department) := rfl
  rw [shown, Option.bind_some]
  cases u.department <;> rfl

theorem department_of_decode {u x : User} (h : kind.decode (kind.encode u) = .ok x) :
    x.department = u.department := by
  have department : (kind.encode x).field? "department" = (kind.encode u).field? "department" :=
    field?_of_decode h nofun rfl
  exact Reference.ofOption_toValue_injective (Option.some.inj department)

theorem department_bind {params : Params} {e bound : User} (h : kind.bind params e = .ok bound) :
    bound.department.map Reference.id = if (params.get? "department.id").isSome then
      params.getFilled? "department.id" else e.department.map Reference.id := by
  refine Kind.reference_of_bind "department" "department" h (by cases kind.isNew e <;> decide)
    (by cases kind.isNew e <;> decide) (fun _ => rfl) fun decoded given => ?_
  obtain ⟨fields, hfields, read⟩ := readFrom_of_decode decoded
  exact Fields.same_reference read.department (Value.fields?_of_field? given hfields)

theorem department_of_prepare {u x : User} {caller : Caller} (h : prepare u caller = .ok x) :
    x.department = u.department := by
  rw [prepare_eq h]

theorem department_stable (department : Option Reference) :
    kind.Stable fun u => u.department = department where
  setId _ _ h := h
  setVersion _ _ h := h

end User

namespace Store

/-- The code of each stored user whose department is stored starts with the code of the department. -/
def CodesLead (s : Store) : Prop :=
  ∀ who ∈ s.rows, ∀ unit ∈ s.rows, ∀ (u : User) (d : Department),
    who.entityType = User.kind.entityType → who.content = User.kind.encode u →
    unit.entityType = Department.kind.entityType → unit.content = Department.kind.encode d →
    u.department.map Reference.id = some unit.key →
    ∃ code, u.code = some code ∧ d.code.toList <+: code.toList

def workplace? (s : Store) (who : String) : Option String :=
  (s.row? User.kind.entityType who).bind fun row =>
    ((row.content.field? "department").bind Reference.read?).map Reference.id

def Employs (s : Store) (key : String) : Prop := ∃ who, s.workplace? who = some key

def unitCode? (s : Store) (key : String) : Option String :=
  (s.row? Department.kind.entityType key).bind fun row =>
    (row.content.field? "code").bind Value.text?

/-- The department has a code with which its identifier does not start. -/
def IsAstray (s : Store) (key : String) : Prop :=
  ∃ code, s.unitCode? key = some code ∧ ¬code.toList <+: key.toList

/-- No user is in a department that has a code with which its identifier does not start. -/
def NoneAstray (s : Store) : Prop := ∀ key, s.Employs key → ¬s.IsAstray key

variable {s t : Store} {key who : String}

theorem workplace?_congr
    (same : t.row? User.kind.entityType who = s.row? User.kind.entityType who) :
    t.workplace? who = s.workplace? who := by
  rw [workplace?, workplace?, same]

theorem workplace?_of_row {u : User} {row : SavedRow}
    (there : s.row? User.kind.entityType who = some row) (shown : row.content = User.kind.encode u) :
    s.workplace? who = u.department.map Reference.id := by
  rw [workplace?, there, Option.bind_some, shown, User.department_of_encode]

theorem unitCode?_congr
    (same : t.row? Department.kind.entityType key = s.row? Department.kind.entityType key) :
    t.unitCode? key = s.unitCode? key := by
  rw [unitCode?, unitCode?, same]

theorem unitCode?_of_row {d : Department} {row : SavedRow}
    (there : s.row? Department.kind.entityType key = some row)
    (shown : row.content = Department.kind.encode d) : s.unitCode? key = some d.code := by
  rw [unitCode?, there, Option.bind_some, shown]
  rfl

theorem workplace?_of_vacant (vacant : s.row? User.kind.entityType who = none) :
    s.workplace? who = none := by
  rw [workplace?, vacant, Option.bind_none]

theorem unitCode?_of_vacant (vacant : s.row? Department.kind.entityType key = none) :
    s.unitCode? key = none := by
  rw [unitCode?, vacant, Option.bind_none]

theorem workplace?_of_found (shows : s.Shows User.kind User.IsPlaced) {id : Int} {drawn : User}
    (found : s.find? User.kind id = .ok (some drawn)) :
    s.workplace? (Identifier.text id) = drawn.department.map Reference.id := by
  obtain ⟨row, there, decoded⟩ := row_of_find? found
  obtain ⟨u, shown, _⟩ := shows row (mem_of_row? there) (SavedRow.isAt_iff.1 (isAt_of_row? there)).1
  rw [shown] at decoded
  rw [workplace?_of_row there shown, User.department_of_decode decoded]

theorem unitCode?_of_found (shows : s.Shows Department.kind fun _ => True) {id : String}
    {drawn : Department} (found : s.find? Department.kind id = .ok (some drawn)) :
    s.unitCode? id = some drawn.code := by
  obtain ⟨row, there, decoded⟩ := row_of_find? found
  have there : s.row? Department.kind.entityType id = some row := there
  obtain ⟨d, shown, _⟩ := shows row (mem_of_row? there) (SavedRow.isAt_iff.1 (isAt_of_row? there)).1
  rw [shown] at decoded
  rw [unitCode?_of_row there shown, Department.code_of_decode decoded]

theorem isAstray_congr (same : t.unitCode? key = s.unitCode? key) : t.IsAstray key ↔ s.IsAstray key := by
  rw [IsAstray, IsAstray, same]

theorem NoneAstray.of_fewer (h : s.NoneAstray)
    (users : ∀ who, t.workplace? who = s.workplace? who ∨ t.workplace? who = none)
    (units : ∀ key, t.unitCode? key = s.unitCode? key ∨ t.unitCode? key = none) : t.NoneAstray := by
  rintro key ⟨who, works⟩ ⟨code, shown, apart⟩
  have employs : s.Employs key := by
    rcases users who with same | gone
    · exact ⟨who, same.symm.trans works⟩
    · cases gone.symm.trans works
  rcases units key with same | gone
  · exact h key employs ⟨code, same.symm.trans shown, apart⟩
  · cases gone.symm.trans shown

theorem NoneAstray.of_rows (h : s.NoneAstray) (same : t.rows = s.rows) : t.NoneAstray :=
  h.of_fewer (fun _ => .inl (workplace?_congr (row?_congr same)))
    fun _ => .inl (unitCode?_congr (row?_congr same))

/-- As each user has the identifier of the department as code, codes lead just if no department with a
user has a code with which its identifier does not start. -/
theorem codesLead_iff (kept : s.WellKept) (users : s.Shows User.kind User.IsPlaced)
    (units : s.Shows Department.kind fun _ => True) : s.CodesLead ↔ s.NoneAstray := by
  constructor
  · rintro lead key ⟨who, works⟩ ⟨code, shown, apart⟩
    obtain ⟨member, there, _⟩ := Option.bind_eq_some_iff.1 works
    obtain ⟨unit, there', _⟩ := Option.bind_eq_some_iff.1 shown
    have hmember := SavedRow.isAt_iff.1 (isAt_of_row? there)
    have hunit := SavedRow.isAt_iff.1 (isAt_of_row? there')
    obtain ⟨u, content, placed⟩ := users member (mem_of_row? there) hmember.1
    obtain ⟨d, content', _⟩ := units unit (mem_of_row? there') hunit.1
    rw [workplace?_of_row there content] at works
    rw [unitCode?_of_row there' content', Option.some.injEq] at shown
    obtain ⟨own, hown, leads⟩ := lead member (mem_of_row? there) unit (mem_of_row? there') u d
      hmember.1 content hunit.1 content' (works.trans (congrArg some hunit.2.symm))
    rw [placed, works] at hown
    cases hown
    exact apart (shown ▸ leads)
  · intro safe who hwho unit hunit u d type content type' content' works
    have there : s.row? User.kind.entityType who.key = some who :=
      kept.oneRowEach.row?_eq hwho (SavedRow.isAt_iff.2 ⟨type, rfl⟩)
    have there' : s.row? Department.kind.entityType unit.key = some unit :=
      kept.oneRowEach.row?_eq hunit (SavedRow.isAt_iff.2 ⟨type', rfl⟩)
    obtain ⟨v, content'', placed⟩ := users who hwho type
    have placed : u.IsPlaced := User.isPlaced_of_encode (content''.symm.trans content) placed
    refine ⟨unit.key, placed.trans works, ?_⟩
    by_contra apart
    exact safe unit.key ⟨who.key, (workplace?_of_row there content).trans works⟩
      ⟨d.code, unitCode?_of_row there' content', apart⟩

section Saved

variable {supply : Supply} {author : Author}

theorem noneAstray_saved_department (safe : s.NoneAstray) {d saved : Department}
    (saves : s.save Department.kind supply author d = (t, .ok saved)) :
    t.NoneAstray ↔
      (s.Employs (Department.kind.key saved) →
        d.code.toList <+: (Department.kind.key saved).toList) := by
  obtain ⟨there, others⟩ := row?_saved Department.kind_lawful saves
  have result : (s.save Department.kind supply author d).1 = t := congrArg Prod.fst saves
  have users (who : String) : t.workplace? who = s.workplace? who := by
    rw [← result]
    exact workplace?_congr
      (row?_save_other Department.kind_lawful Department.entityType_ne_user supply author d s who)
  have code : saved.code = d.code :=
    stable_saved (P := fun x => x.code = d.code) (Department.code_stable _)
      Department.kind_lawful rfl saves
  have here := unitCode?_of_row there rfl
  rw [code] at here
  constructor
  · rintro later ⟨who, works⟩
    by_contra apart
    exact later _ ⟨who, (users who).trans works⟩ ⟨d.code, here, apart⟩
  · rintro leads key ⟨who, works⟩ astray
    have employs : s.Employs key := ⟨who, (users who).symm.trans works⟩
    by_cases own : key = Department.kind.key saved
    · subst own
      obtain ⟨code, shown, apart⟩ := astray
      cases here.symm.trans shown
      exact apart (leads employs)
    · exact safe key employs ((isAstray_congr (unitCode?_congr (others key own))).1 astray)

theorem noneAstray_saved_user (safe : s.NoneAstray) {u saved : User}
    (saves : s.save User.kind supply author u = (t, .ok saved)) :
    t.NoneAstray ↔ ∀ key, u.department.map Reference.id = some key → ¬s.IsAstray key := by
  obtain ⟨there, others⟩ := row?_saved User.kind_lawful saves
  have result : (s.save User.kind supply author u).1 = t := congrArg Prod.fst saves
  have units (key : String) : t.IsAstray key ↔ s.IsAstray key := by
    rw [← result]
    exact isAstray_congr (unitCode?_congr
      (row?_save_other User.kind_lawful Department.entityType_ne_user.symm supply author u s key))
  have department : saved.department = u.department :=
    stable_saved (P := fun x => x.department = u.department) (User.department_stable _)
      User.kind_lawful rfl saves
  have here := workplace?_of_row there rfl
  rw [department] at here
  constructor
  · intro later key works astray
    exact later key ⟨_, here.trans works⟩ ((units key).2 astray)
  · rintro apart key ⟨who, works⟩ astray
    by_cases own : who = User.kind.key saved
    · subst own
      exact apart key (here.symm.trans works) ((units key).1 astray)
    · exact safe key ⟨who, (workplace?_congr (others who own)).symm.trans works⟩ ((units key).1 astray)

end Saved
end Store

namespace Web

variable {limits : PageLimits} {r : Registry} {supply : Supply} {params : Params} {caller : Caller}
variable {t : Store} {answer : Except Error Outcome}

theorem Reached.codesLead_iff (h : Reached limits r) : r.store.CodesLead ↔ r.store.NoneAstray :=
  Store.codesLead_iff h.kept.wellKept h.placed h.shows_departments

/-- The post gives a department with users a code with which its identifier does not start. -/
def Posted.Recodes (limits : PageLimits) (p : Posted) (r : Registry) : Prop :=
  ∃ order params, p.post = .order .department order params ∧ order ≠ .delete ∧
    (∃ outcome, (p.carryOut limits r).2 = .ok outcome) ∧
    r.store.Employs (departmentKey p.supply params r.store) ∧
    ∃ code, params.get? "code" = some code ∧
      ¬code.toList <+: (departmentKey p.supply params r.store).toList

/-- The post puts a user into a department that has a code with which its identifier does not start. -/
def Posted.Misplaces (limits : PageLimits) (p : Posted) (r : Registry) : Prop :=
  ∃ order params, p.post = .order .user order params ∧ order ≠ .delete ∧
    (∃ outcome, (p.carryOut limits r).2 = .ok outcome) ∧
    ∃ key, params.getFilled? "department.id" = some key ∧ r.store.IsAstray key

theorem noneAstray_of_served_department (kept : r.store.WellKept)
    (shows : r.store.Shows Department.kind fun _ => True) (safe : r.store.NoneAstray)
    (served : (departments limits).Served supply caller params r.store t answer) :
    t.NoneAstray ↔ ¬((∃ outcome, answer = .ok outcome) ∧
      r.store.Employs (departmentKey supply params r.store) ∧
      ∃ code, params.get? "code" = some code ∧
        ¬code.toList <+: (departmentKey supply params r.store).toList) := by
  cases served with
  | refused untouched fault =>
    exact ⟨fun _ ⟨answered, _⟩ => not_answered_error answered, fun _ => safe.of_rows untouched.rows⟩
  | @entered e x saved _ unnamed bound allowed prepared _ _ _ saves message =>
    have code : x.code = (params.get? "code").getD "" :=
      (Department.code_of_prepare prepared).trans (Department.code_bind bound)
    refine (Store.noneAstray_saved_department safe saves).trans ?_
    rw [key_entered unnamed bound prepared saves,
      show ((departments limits).kind.stamp caller.userId supply.now x).code = x.code from rfl, code]
    cases params.get? "code" with
    | none => simp
    | some code => simp
  | @revised id drawn e x saved _ named found bound allowed prepared _ _ _ saves message =>
    have key := departmentKey_revised kept named found bound prepared saves
    have code : x.code = (params.get? "code").getD drawn.code :=
      (Department.code_of_prepare prepared).trans (Department.code_bind bound)
    refine (Store.noneAstray_saved_department safe saves).trans ?_
    rw [key, code]
    cases given : params.get? "code" with
    | some code => simp
    | none =>
      -- Without a word about the code the department keeps the one that it has.
      have about : departmentKey supply params r.store = id := by rw [departmentKey, named]
      rw [about]
      refine ⟨by simp, fun _ employs => ?_⟩
      by_contra apart
      exact safe id employs ⟨_, Store.unitCode?_of_found shows found, apart⟩

theorem noneAstray_of_served_user (placed : r.store.Shows User.kind User.IsPlaced)
    (safe : r.store.NoneAstray)
    (served : (users limits).Served supply caller params r.store t answer) :
    t.NoneAstray ↔ ¬((∃ outcome, answer = .ok outcome) ∧
      ∃ key, params.getFilled? "department.id" = some key ∧ r.store.IsAstray key) := by
  cases served with
  | refused untouched fault =>
    exact ⟨fun _ ⟨answered, _⟩ => not_answered_error answered, fun _ => safe.of_rows untouched.rows⟩
  | @entered e x saved _ unnamed bound allowed prepared _ _ _ saves message =>
    have department : x.department.map Reference.id = params.getFilled? "department.id" := by
      rw [User.department_of_prepare prepared, User.department_bind bound]
      exact Params.ite_getFilled?
    refine (Store.noneAstray_saved_user safe saves).trans ?_
    rw [show ((users limits).kind.stamp caller.userId supply.now x).department = x.department from rfl,
      department]
    simp
  | @revised id drawn e x saved _ named found bound allowed prepared _ _ _ saves message =>
    have department := User.department_bind bound
    rw [← User.department_of_prepare prepared] at department
    refine (Store.noneAstray_saved_user safe saves).trans ?_
    rw [department]
    split
    · simp
    · next silent =>
      -- Without a word about the department the user stays in it.
      have works := Store.workplace?_of_found placed found
      rw [Params.getFilled?_of_unnamed silent]
      refine ⟨by simp, fun _ key stays astray => ?_⟩
      exact safe key ⟨_, works.trans stays⟩ astray

theorem workplace?_elsewhere {p : Posted} (elsewhere : p.post.place ≠ .user) (who : String) :
    (p.apply limits r).store.workplace? who = r.store.workplace? who :=
  Store.workplace?_congr (p.row?_elsewhere elsewhere r who)

theorem unitCode?_elsewhere {p : Posted} (elsewhere : p.post.place ≠ .department) (key : String) :
    (p.apply limits r).store.unitCode? key = r.store.unitCode? key :=
  Store.unitCode?_congr (p.row?_elsewhere elsewhere r key)

theorem noneAstray_apply_department (reached : Reached limits r) (safe : r.store.NoneAstray) {p : Posted}
    (here : p.post.place = .department) :
    (p.apply limits r).store.NoneAstray ↔ ¬p.Recodes limits r := by
  have kept := reached.kept.wellKept
  have users (who : String) : (p.apply limits r).store.workplace? who = r.store.workplace? who :=
    workplace?_elsewhere (by rw [here]; nofun) who
  have idle (noChange : ¬p.Changes .department) : ¬p.Recodes limits r :=
    fun ⟨order, params, post, changes, _⟩ => noChange ⟨order, params, post, changes⟩
  cases p.turn .department (departments limits) Department.kind_lawful rfl (fun _ _ _ _ => rfl)
    nofun kept with
  | idle noChange same =>
    exact ⟨fun _ => idle noChange, fun _ => safe.of_fewer (fun who => .inl (users who))
      fun key => .inl (Store.unitCode?_congr (same key))⟩
  | deleted noChange done after =>
    refine ⟨fun _ => idle noChange, fun _ => safe.of_fewer (fun who => .inl (users who)) fun key => ?_⟩
    obtain ⟨gone, stays⟩ :=
      Desk.row?_doDelete (d := departments limits) Department.kind_lawful kept done
    rw [after]
    rcases stays key with same | ⟨id, e, removes, rfl⟩
    · exact .inl (Store.unitCode?_congr same)
    · exact .inr (Store.unitCode?_of_vacant (gone id e removes))
  | @served order params post changes served =>
    refine (noneAstray_of_served_department kept reached.shows_departments safe served).trans
      (not_congr ⟨?_, ?_⟩)
    · rintro ⟨answered, employs, given⟩
      exact ⟨order, params, post, changes, answered, employs, given⟩
    · rintro ⟨_, _, same, _, answered, employs, given⟩
      cases post.symm.trans same
      exact ⟨answered, employs, given⟩

theorem workplace?_doState (reached : Reached limits r) (supply : Supply) (params : Params)
    (caller : Caller) (who : String) :
    (User.doState (users limits) supply params caller r).1.store.workplace? who =
      r.store.workplace? who := by
  rcases doState_cases (users limits) supply params caller with
    ⟨fault, _, refused⟩ | ⟨enabled, name, _, done⟩
  · rw [refused]
  · rw [done]
    rcases Desk.row?_batchUpdate (d := users limits) User.kind_lawful users_keepsId
      reached.kept.wellKept name (Post.userState params).event supply (fun u => { u with enabled }) (fun _ => rfl) params
      caller who with
      same | ⟨row, there, id, stored, x, saved, rfl, found, prepared, shape, rfl⟩
    · exact Store.workplace?_congr same
    · have department : saved.department = stored.department := by
        have stays : x.department = { stored with enabled }.department :=
          User.department_of_prepare prepared
        rcases shape with rfl | ⟨n, rfl⟩
        · exact stays
        · exact stays
      rw [Store.workplace?_of_found reached.placed found, ← department]
      exact Store.workplace?_of_row there rfl

theorem noneAstray_apply_user (reached : Reached limits r) (safe : r.store.NoneAstray) {p : Posted}
    (here : p.post.place = .user) :
    (p.apply limits r).store.NoneAstray ↔ ¬p.Misplaces limits r := by
  have kept := reached.kept.wellKept
  have units (key : String) : (p.apply limits r).store.unitCode? key = r.store.unitCode? key :=
    unitCode?_elsewhere (by rw [here]; nofun) key
  have fewer (users : ∀ who, (p.apply limits r).store.workplace? who = r.store.workplace? who ∨
      (p.apply limits r).store.workplace? who = none) : (p.apply limits r).store.NoneAstray :=
    safe.of_fewer users fun key => .inl (units key)
  obtain ⟨supply, sound, caller, post⟩ := p
  cases post with
  | userState params =>
    have other : ¬Posted.Misplaces limits ⟨supply, sound, caller, .userState params⟩ r := by
      rintro ⟨_, _, same, _⟩
      cases same
    exact ⟨fun _ => other,
      fun _ => fewer fun who => .inl (workplace?_doState reached supply params caller who)⟩
  | order place order params =>
    obtain rfl : place = .user := here
    by_cases delete : order = .delete
    · subst delete
      have noChange :
          ¬Posted.Misplaces limits ⟨supply, sound, caller, .order .user .delete params⟩ r := by
        rintro ⟨_, _, same, changes, _⟩
        cases same
        exact changes rfl
      refine ⟨fun _ => noChange, fun _ => fewer fun who => ?_⟩
      cases answer : (Web.carryOut (users limits) supply .delete params caller r).2 with
      | error fault => exact .inl (Store.workplace?_congr (row?_refused answer ..))
      | ok outcome =>
        obtain ⟨gone, stays⟩ := Desk.row?_doDelete (d := users limits) User.kind_lawful kept answer
        rcases stays who with same | ⟨id, e, removes, rfl⟩
        · exact .inl (Store.workplace?_congr same)
        · exact .inr (Store.workplace?_of_vacant (gone id e removes))
    · have served : (users limits).Served supply caller params r.store
          (Web.carryOut (users limits) supply order params caller r).1.store
          (Web.carryOut (users limits) supply order params caller r).2 :=
        served_carryOut User.kind_lawful kept rfl delete
      refine (noneAstray_of_served_user reached.placed safe served).trans (not_congr ⟨?_, ?_⟩)
      · rintro ⟨answered, given⟩
        exact ⟨order, params, rfl, delete, answered, given⟩
      · rintro ⟨_, _, same, _, answered, given⟩
        cases same
        exact ⟨answered, given⟩

/-- A post leads nobody astray just if it gives no department with users a code that does not start its
identifier, and puts nobody into a department with such a code. -/
theorem noneAstray_apply_iff (reached : Reached limits r) (safe : r.store.NoneAstray) (p : Posted) :
    (p.apply limits r).store.NoneAstray ↔ ¬p.Recodes limits r ∧ ¬p.Misplaces limits r := by
  have recodes (away : p.Recodes limits r) : p.post.place = .department := by
    obtain ⟨_, _, post, _⟩ := away
    rw [post]
    rfl
  have misplaces (away : p.Misplaces limits r) : p.post.place = .user := by
    obtain ⟨_, _, post, _⟩ := away
    rw [post]
    rfl
  cases here : p.post.place with
  | department =>
    have other : ¬p.Misplaces limits r := fun away => nomatch here.symm.trans (misplaces away)
    rw [noneAstray_apply_department reached safe here]
    exact (and_iff_left other).symm
  | role =>
    have neither : ¬p.Recodes limits r ∧ ¬p.Misplaces limits r := by
      refine ⟨fun away => ?_, fun away => ?_⟩
      · cases here.symm.trans (recodes away)
      · cases here.symm.trans (misplaces away)
    refine ⟨fun _ => neither, fun _ => ?_⟩
    refine safe.of_fewer (fun who => .inl ?_) fun key => .inl ?_
    · exact workplace?_elsewhere (by rw [here]; nofun) who
    · exact unitCode?_elsewhere (by rw [here]; nofun) key
  | user =>
    have other : ¬p.Recodes limits r := fun away => nomatch here.symm.trans (recodes away)
    rw [noneAstray_apply_user reached safe here]
    exact (and_iff_right other).symm

theorem noneAstray_load (supply : Supply) : (Seed.load supply {}).1.NoneAstray := by
  have coded : ∀ d ∈ Seed.departments, Department.kind.key d = d.code := by decide
  rintro key _ ⟨code, shown, apart⟩
  obtain ⟨row, there, _⟩ := Option.bind_eq_some_iff.1 shown
  obtain ⟨d, hd, own, x, content, same, _⟩ := founding_load supply key row there
  rw [Store.unitCode?_of_row there content, same, ← coded d hd, own] at shown
  cases shown
  exact apart List.prefix_rfl

/-- From the empty or the seeded store on, the code of each user starts with the code of the department
just if no post gives a department with users a code with which its identifier does not start, and none
puts a user into a department with such a code. -/
theorem codes_lead_throughout_iff {settings : Settings} {posts : List Posted} (sound : supply.IsSound) :
    (∀ r ∈ Posted.visited limits posts (begin settings supply).1, r.store.CodesLead) ↔
      Posted.Along limits (fun p r => ¬p.Recodes limits r ∧ ¬p.Misplaces limits r) posts
        (begin settings supply).1 := by
  have reached : Reached limits (begin settings supply).1 := ⟨settings, supply, [], sound, rfl⟩
  refine Posted.forall_visited_iff (P := fun r => r.store.CodesLead) (fun p r reached lead => ?_)
    reached (reached.codesLead_iff.2 ?_)
  · rw [(reached.apply p).codesLead_iff]
    exact noneAstray_apply_iff reached (reached.codesLead_iff.1 lead) p
  · unfold begin
    dsimp only
    split
    · exact noneAstray_load supply
    · rintro key ⟨who, works⟩
      cases works

/-- Someone founds a department, takes a user in and shortens the code of the second headquarters, which
still starts the identifier. -/
theorem field_sales_shortened :
    numbering.IsSound ∧
    ∀ r ∈ Posted.visited {} [
        ordering .department .create [("code", "D30"), ("name", "Unit")],
        ordering .user .create [("signinid", "ann"), ("department.id", "D30")],
        ordering .department .update [("id", "D20"), ("code", "D2")]]
      (begin { seeded := true } numbering).1, r.store.CodesLead := by
  refine ⟨numbering_isSound, (codes_lead_throughout_iff numbering_isSound).2
    ⟨⟨?_, ?_⟩, ⟨?_, ?_⟩, ⟨?_, ?_⟩, trivial⟩⟩
  · rintro ⟨_, _, same, _, _, _, code, given, apart⟩
    cases same
    cases given
    exact apart (by decide +kernel)
  · rintro ⟨_, _, same, _⟩
    cases same
  · rintro ⟨_, _, same, _⟩
    cases same
  · rintro ⟨_, _, same, _, _, key, given, code, shown, apart⟩
    cases same
    cases given
    have own : ((ordering .department .create [("code", "D30"), ("name", "Unit")]).apply {}
        (begin { seeded := true } numbering).1).store.unitCode? "D30" = some "D30" := by
      decide +kernel
    cases own.symm.trans shown
    exact apart List.prefix_rfl
  · rintro ⟨_, _, same, _, _, _, code, given, apart⟩
    cases same
    cases given
    exact apart (by decide +kernel)
  · rintro ⟨_, _, same, _⟩
    cases same

/-- Whoever gives the first headquarters, which have a user, a code of another kind has it changed. -/
theorem headquarters_recoded :
    numbering.IsSound ∧
    ¬∀ r ∈ Posted.visited {} [ordering .department .update [("id", "D10"), ("code", "X")]]
      (begin { seeded := true } numbering).1, r.store.CodesLead := by
  refine ⟨numbering_isSound, fun lead => ?_⟩
  have start : organisation.store.NoneAstray :=
    reached_organisation.codesLead_iff.1 (lead organisation List.mem_cons_self)
  have next := (reached_organisation.apply _).codesLead_iff.1
    (lead _ (List.mem_cons_of_mem _ List.mem_cons_self))
  have answered : ((ordering .department .update [("id", "D10"), ("code", "X")]).carryOut {}
      organisation).2.isOk := by decide +kernel
  exact ((noneAstray_apply_iff reached_organisation start _).1 next).1 ⟨.update, _, rfl, nofun,
    answered_of_isOk answered, ⟨"8", by decide +kernel⟩, "X", by decide +kernel, by decide +kernel⟩

end Web
end Registrar
