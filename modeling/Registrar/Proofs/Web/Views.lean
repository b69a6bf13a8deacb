import Registrar.Proofs.Desk.Outlook
import Registrar.Proofs.Web.Scopes

/-!
What callers get to see of users and roles. Main statement: a caller with scopes or with a level gets
the answers about many records that anyone gets from a store without the records outside, on whatever
records the store holds; and the stores of the service hold records of that form at any time.
-/

namespace Registrar

theorem Department.entityType_ne_role : Department.kind.entityType ≠ Role.kind.entityType := by
  decide

theorem User.entityType_ne_role : User.kind.entityType ≠ Role.kind.entityType := by
  decide

namespace Role

def FitsLevel (role : Role) : Prop := Number.fitsInt32 role.level

theorem fitsLevel_of_decode {v : Json.Value} {role : Role} (h : kind.decode v = .ok role) :
    role.FitsLevel := by
  obtain ⟨_, _, read⟩ := readFrom_of_decode h
  exact Json.Fields.fits_of_int32 read.level

theorem fitsLevel_stable : kind.Stable FitsLevel where
  setId _ _ h := h
  setVersion _ _ h := h

end Role

namespace Web

variable {limits : PageLimits} {s t : Store} {caller anyone : Caller}

theorem users_answersAs (free : anyone.isRestricted = false) {user : SavedRow → User}
    (lists : s.Lists User.kind (fun u => User.kind.isNew u = false) user) :
    (users limits).AnswersAs caller s anyone (s.without fun row =>
      row.entityType == User.kind.entityType && User.isOutside caller (user row)) := by
  have open_ (f : Filter) : User.policy.scope f anyone = f := by simp [User.policy, free]
  by_cases restricted : caller.isRestricted
  · have narrows (f : Filter) : User.policy.scope f caller =
        f.force ⟨.inScope, ["aclCode"], caller.scopes.map .text⟩ := by
      simp [User.policy, restricted]
    refine Desk.answersAs_without narrows open_ fun row hrow type => ?_
    have type : row.entityType = User.kind.entityType := type
    obtain ⟨shown, known⟩ := lists row hrow type
    rw [type, beq_self_eq_true, Bool.true_and, shown, User.inScope_holds known restricted]
  · rw [Bool.not_eq_true] at restricted
    have wide (f : Filter) : User.policy.scope f caller = f := by simp [User.policy, restricted]
    refine Desk.answersAs_of_none_hidden wide open_ fun row _ => ?_
    rw [User.isOutside_eq_false restricted, Bool.and_false]

theorem roles_answersAs (free : anyone.level = none) (small : ∀ own, caller.level = some own →
      Number.fitsInt32 own) {role : SavedRow → Role}
    (lists : s.Lists Role.kind Role.FitsLevel role) :
    (roles limits).AnswersAs caller s anyone (s.without fun row =>
      row.entityType == Role.kind.entityType && Role.isOutside caller (role row)) := by
  have open_ (f : Filter) : Role.policy.scope f anyone = f := by simp [Role.policy, free]
  cases level : caller.level with
  | some own =>
    have narrows (f : Filter) : Role.policy.scope f caller =
        f.force ⟨.atMost, ["aclType"], [.int own]⟩ := by simp [Role.policy, level]
    refine Desk.answersAs_without narrows open_ fun row hrow type => ?_
    have type : row.entityType = Role.kind.entityType := type
    obtain ⟨shown, fits⟩ := lists row hrow type
    rw [type, beq_self_eq_true, Bool.true_and, shown, Role.atMost_holds level fits (small own level)]
  | none =>
    have wide (f : Filter) : Role.policy.scope f caller = f := by simp [Role.policy, level]
    refine Desk.answersAs_of_none_hidden wide open_ fun row _ => ?_
    rw [Role.isOutside, level]
    exact Bool.and_false _

/-- On whatever users and roles a store holds, a caller gets the answers about many records that
anyone gets from the store without the records outside: users whom the caller may not handle, and roles
above the caller's level. So no parameter of a request reaches them, and they change no total and no
count. -/
theorem answers_within_scope :
    (∀ user : SavedRow → User, s.Lists User.kind (fun u => User.kind.isNew u = false) user →
      anyone.isRestricted = false →
      (users limits).AnswersAs caller s anyone (s.without fun row =>
        row.entityType == User.kind.entityType && User.isOutside caller (user row))) ∧
    (∀ role : SavedRow → Role, s.Lists Role.kind Role.FitsLevel role →
      anyone.level = none → (∀ own, caller.level = some own → Number.fitsInt32 own) →
      (roles limits).AnswersAs caller s anyone (s.without fun row =>
        row.entityType == Role.kind.entityType && Role.isOutside caller (role row))) :=
  ⟨fun _ lists free => users_answersAs free lists,
    fun _ lists free small => roles_answersAs free small lists⟩

theorem Reached.lists_users {r : Registry} (h : Reached limits r) :
    ∃ user, r.store.Lists User.kind (fun u => User.kind.isNew u = false) user := by
  refine Store.Shows.lists fun row hrow type => ?_
  obtain ⟨u, shown, _⟩ := h.placed row hrow type
  exact ⟨u, shown, h.kept.wellKept.isNew_of_shown User.kind_lawful hrow shown⟩

theorem fitsLevel_of_origin {order : Order} {params : Params} {role : Role}
    (origin : (roles limits).Origin (order.job params) s role) : Role.FitsLevel role := by
  obtain ⟨drawn, edited, drew, edits, caller, x, prepared, finished⟩ := origin
  have drawnFits : Role.FitsLevel drawn := by
    rcases drew with rfl | ⟨id, found⟩
    · show Number.fitsInt32 0
      decide
    · obtain ⟨row, _, decoded⟩ := Store.row_of_find? found
      exact Role.fitsLevel_of_decode decoded
  have editedFits : Role.FitsLevel edited := by
    generalize hjob : (order.job params : Desk.Job Role) = job at edits
    cases edits with
    | bound bound =>
      obtain ⟨_, _, _, _, ⟨_, rfl⟩ | decoded⟩ := Kind.bind_cases bound
      · exact drawnFits
      · exact Role.fitsLevel_of_decode decoded
    | changed => cases order <;> cases hjob
  cases prepared
  rcases finished with rfl | ⟨actor, now, rfl⟩
  · exact editedFits
  · exact editedFits

theorem fitsLevel_apply (p : Posted) {r : Registry} (h : r.store.Shows Role.kind Role.FitsLevel) :
    (p.apply limits r).store.Shows Role.kind Role.FitsLevel := by
  refine p.carryOut_cases limits
    (P := fun action => (action r).1.store.Shows Role.kind Role.FitsLevel) (fun _ => h) ?_ ?_ ?_
  · intro order params _
    exact ((departments limits).deeds_perform ..).shows_other Department.entityType_ne_role h
  · intro order params _
    exact ((roles limits).deeds_perform ..).shows Role.fitsLevel_stable
      (fun _ origin => fitsLevel_of_origin origin) h
  · intro job _ _ _
    exact ((users limits).deeds_perform ..).shows_other User.entityType_ne_role h

theorem fitsLevel_load (supply : Supply) :
    (Seed.load supply {}).1.Shows Role.kind Role.FitsLevel := by
  have small : ∀ role ∈ Seed.roles, Number.fitsInt32 role.level := by decide
  refine load_induction (fun _ _ s h => ?_) (fun role hrole s h => ?_) (fun _ _ s h => ?_) ?_
  · exact h.save_other Department.entityType_ne_role _ _ _
  · have fits : Role.FitsLevel (Role.kind.stamp Seed.author.actor supply.now role) := small role hrole
    exact h.save Role.fitsLevel_stable fits supply Seed.author
  · exact h.save_other User.entityType_ne_role _ _ _
  · intro row hrow
    cases hrow

theorem Reached.fitLevels {r : Registry} (h : Reached limits r) :
    r.store.Shows Role.kind Role.FitsLevel :=
  h.induction (P := fun s => s.Shows Role.kind Role.FitsLevel) (fun _ hrow => by cases hrow)
    (fun supply _ => fitsLevel_load supply) fun p _ fits => fitsLevel_apply p fits

theorem Reached.lists_roles {r : Registry} (h : Reached limits r) :
    ∃ role, r.store.Lists Role.kind Role.FitsLevel role :=
  h.fitLevels.lists

/-- The deputy sees the organisation as if there were no users elsewhere and no roles above. -/
theorem deputy_sees_part :
    ∃ (user : SavedRow → User) (role : SavedRow → Role),
      organisation.store.Lists User.kind (fun u => User.kind.isNew u = false) user ∧
      organisation.store.Lists Role.kind Role.FitsLevel role ∧
      (users {}).AnswersAs deputy organisation.store Caller.anonymous
        (organisation.store.without fun row =>
          row.entityType == User.kind.entityType && User.isOutside deputy (user row)) ∧
      (roles {}).AnswersAs deputy organisation.store Caller.anonymous
        (organisation.store.without fun row =>
          row.entityType == Role.kind.entityType && Role.isOutside deputy (role row)) := by
  obtain ⟨user, listsUsers⟩ := reached_organisation.lists_users
  obtain ⟨role, listsRoles⟩ := reached_organisation.lists_roles
  have small : ∀ own, deputy.level = some own → Number.fitsInt32 own := by
    rintro own ⟨⟩
    decide
  exact ⟨user, role, listsUsers, listsRoles, answers_within_scope.1 user listsUsers rfl,
    answers_within_scope.2 role listsRoles rfl small⟩

end Web
end Registrar
