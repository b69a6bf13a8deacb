import Registrar.Proofs.Desk.Journal
import Registrar.Web.Service

/-!
Requests to the service that change records, one after another. Main statement: from an empty store or
a seeded one, whoever asks for whatever, rows stay well kept and no user has a number that no save has
reached yet.
-/

namespace Registrar

open Json

namespace Store

/-- The keys of users are the texts of numbers up to the number of saves. -/
def UserKeys (s : Store) : Prop :=
  ∀ row ∈ s.rows, row.entityType = User.kind.entityType →
    ∃ n : Int, row.key = Number.intText n ∧ n ≤ s.saves

variable {s : Store}

theorem UserKeys.save_other {I E : Type} [Identifier I] {k : Kind I E} (h : s.UserKeys)
    (other : k.entityType ≠ User.kind.entityType) (supply : Supply) (author : Author) (e : E) :
    (s.save k supply author e).1.UserKeys := by
  intro row hrow type
  rcases mem_rows_save hrow with old | ⟨x, _, rfl⟩
  · obtain ⟨n, key, below⟩ := h row old type
    refine ⟨n, key, ?_⟩
    rw [saves_save]
    omega
  · exact absurd type other

theorem UserKeys.save_user (h : s.UserKeys) {u : User} (known : ∀ n, u.id = some n → n ≤ s.saves)
    (supply : Supply) (author : Author) : (s.save User.kind supply author u).1.UserKeys := by
  intro row hrow type
  rw [saves_save]
  rcases mem_rows_save hrow with old | ⟨x, _, rfl⟩
  · obtain ⟨n, key, below⟩ := h row old type
    exact ⟨n, key, by omega⟩
  · by_cases new : User.kind.isNew u
    · refine ⟨((s.saves + 1 : Nat) : Int), ?_, Int.le_refl _⟩
      rw [Kind.row, named_of_isNew User.kind new]
      rfl
    · rw [named_of_not_isNew User.kind (Bool.eq_false_iff.2 new)]
      cases hid : u.id with
      | none => simp [Kind.isNew, User.kind, hid] at new
      | some n => exact ⟨n, key_of_id hid, by have := known n hid; omega⟩

theorem UserKeys.delete {I E : Type} [Identifier I] {k : Kind I E} (h : s.UserKeys) (now : Instant)
    (author : Author) (e : E) : (s.delete k now author e).1.UserKeys := by
  intro row hrow type
  rw [saves_delete]
  exact h row (mem_rows_delete hrow) type

theorem UserKeys.vacant (h : s.UserKeys) :
    s.row? User.kind.entityType (Number.intText ((s.saves + 1 : Nat) : Int)) = none := by
  refine row?_eq_none_iff.2 fun row hrow => Bool.eq_false_iff.2 fun there => ?_
  obtain ⟨type, key⟩ := SavedRow.isAt_iff.1 there
  obtain ⟨n, key', below⟩ := h row hrow type
  have same := Number.intText_injective (key'.symm.trans key)
  omega

/-- What holds of the store of the service at any time. -/
structure Kept (s : Store) : Prop where
  wellKept : s.WellKept
  userKeys : s.UserKeys

end Store

theorem Department.entityType_ne_user : Department.kind.entityType ≠ User.kind.entityType := by
  decide

theorem Role.entityType_ne_user : Role.kind.entityType ≠ User.kind.entityType := by
  decide

theorem User.id_of_prepare {u x : User} {caller : Caller} (h : User.prepare u caller = .ok x) :
    x.id = u.id := by
  unfold User.prepare at h
  dsimp only at h
  split at h
  all_goals
    split at h
    · cases h
      rfl
    · cases h

namespace Web

variable {limits : PageLimits}

theorem number_of_prepared {job : Desk.Job User} (keeps : job.KeepsId User.kind)
    {drawn edited u : User} (edits : (users limits).Edited job drawn edited)
    (prepared : (users limits).Prepared edited u) : u.id = drawn.id := by
  obtain ⟨caller, x, prepared, finished⟩ := prepared
  have sameEdited : edited.id = drawn.id :=
    Desk.id_of_edited (d := users limits) User.kind_lawful keeps edits
  have samePrepared : x.id = edited.id := User.id_of_prepare prepared
  rcases finished with rfl | ⟨actor, now, rfl⟩
  · exact samePrepared.trans sameEdited
  · exact samePrepared.trans sameEdited

theorem number_of_origin {job : Desk.Job User} (keeps : job.KeepsId User.kind) {s : Store}
    (kept : s.Kept) {u : User} (origin : (users limits).Origin job s u) :
    ∀ n, u.id = some n → n ≤ s.saves := by
  obtain ⟨drawn, edited, drew, edits, prepared⟩ := origin
  intro n hn
  rw [number_of_prepared keeps edits prepared] at hn
  rcases drew with rfl | ⟨id, found⟩
  · cases hn
  · obtain ⟨row, found, hid, _⟩ :=
      Store.of_find? User.kind_lawful kept.wellKept.coherent found
    obtain ⟨type, key⟩ := SavedRow.isAt_iff.1 (Store.isAt_of_row? found)
    obtain ⟨m, key', below⟩ := kept.userKeys row (Store.mem_of_row? found) type
    cases hn.symm.trans hid
    rw [Number.intText_injective (key.symm.trans key')]
    exact below

theorem kept_deeds_users {supply : Supply} (sound : supply.IsSound) {job : Desk.Job User}
    (keeps : job.KeepsId User.kind) {s t : Store} (kept : s.Kept)
    (deeds : (users limits).Deeds supply job s t) : t.Kept := by
  have grown : t.UserKeys ∧ s.saves ≤ t.saves := by
    induction deeds with
    | none => exact ⟨kept.userKeys, Nat.le_refl _⟩
    | @save s' before author u origin rules creating checked ih =>
      refine ⟨ih.1.save_user (fun n hn => ?_) supply author, ?_⟩
      · have := number_of_origin keeps kept origin n hn
        omega
      · have := s'.saves_save (users limits).kind supply author u
        omega
    | @delete s' before now author u ih =>
      refine ⟨ih.1.delete now author u, ?_⟩
      rw [Store.saves_delete]
      exact ih.2
  exact ⟨deeds.wellKept sound User.kind_lawful kept.wellKept, grown.1⟩

theorem kept_deeds_other {I E : Type} [Identifier I] [LawfulIdentifier I] [DecidableEq I]
    {d : Desk I E} (law : d.kind.Lawful) (other : d.kind.entityType ≠ User.kind.entityType)
    {supply : Supply} (sound : supply.IsSound) {job : Desk.Job E} {s t : Store} (kept : s.Kept)
    (deeds : d.Deeds supply job s t) : t.Kept where
  wellKept := deeds.wellKept sound law kept.wellKept
  userKeys := deeds.preserves (fun _ author e _ _ _ h => h.save_other other supply author e)
    (fun _ now author e h => h.delete now author e) kept.userKeys

theorem departments_keepsId : (departments limits).KeepsId where
  stamp _ _ _ := rfl
  prepare {e x caller} known h := by
    have new : Department.kind.isNew e = false := known
    simp only [departments, Department.policy, new, Bool.false_and] at h
    cases h
    rfl

theorem roles_keepsId : (roles limits).KeepsId where
  stamp _ _ _ := rfl
  prepare _ h := by
    cases h
    rfl

theorem users_keepsId : (users limits).KeepsId where
  stamp _ _ _ := rfl
  prepare _ h := User.id_of_prepare h

/-- What a client asks the service to change. -/
inductive Post
  | order (place : Section) (order : Order) (params : Params)
  | userState (params : Params)

def orderAt (limits : PageLimits) (supply : Supply) :
    Section → Order → Params → Caller → Action Outcome
  | .department => carryOut (departments limits) supply
  | .role => carryOut (roles limits) supply
  | .user => carryOut (users limits) supply

/-- A request with its caller and what it takes from outside. -/
structure Posted where
  supply : Supply
  sound : supply.IsSound
  caller : Caller
  post : Post

namespace Posted

def carryOut (limits : PageLimits) (p : Posted) : Action Outcome :=
  match p.post with
  | .order place order params => orderAt limits p.supply place order params p.caller
  | .userState params => User.doState (users limits) p.supply params p.caller

def apply (limits : PageLimits) (p : Posted) (r : Registry) : Registry := (p.carryOut limits r).1

def run (limits : PageLimits) (posts : List Posted) (r : Registry) : Registry :=
  posts.foldl (fun r p => p.apply limits r) r

end Posted

def Order.job {E : Type} : Order → Params → Desk.Job E
  | .create => .create
  | .update => .update
  | .save => .save
  | .delete => .delete

def Order.event : Order → String
  | .create => "do-create"
  | .update => "do-update"
  | .save => "do-save"
  | .delete => "do-delete"

namespace Post

def place : Post → Section
  | .order place _ _ => place
  | .userState _ => .user

def event : Post → String
  | .order _ asked _ => asked.event
  | .userState params => "do-state-" ++ (params.getFilled? "state").getD ""

end Post

theorem carryOut_eq_perform {I E : Type} [Identifier I] [DecidableEq I] (d : Desk I E)
    (supply : Supply) (order : Order) (params : Params) (caller : Caller) :
    carryOut d supply order params caller = d.perform supply caller (order.job params) := by
  cases order <;> rfl

theorem keepsId_job {I E : Type} (k : Kind I E) (order : Order) (params : Params) :
    (order.job params : Desk.Job E).KeepsId k := by
  cases order <;> exact trivial

theorem event_job {E : Type} (order : Order) (params : Params) :
    (order.job params : Desk.Job E).event = order.event := by
  cases order <;> rfl

theorem doState_cases (d : Desk Int User) (supply : Supply) (params : Params) (caller : Caller) :
    (∃ fault, User.wantedState params = .error fault ∧
      User.doState d supply params caller = fun r => (r, .error fault)) ∨
    ∃ enabled name, User.wantedState params = .ok enabled ∧
      User.doState d supply params caller =
        d.perform supply caller
          (.batch name (Post.userState params).event (fun u => { u with enabled }) params) := by
  unfold User.doState
  cases wanted : User.wantedState params with
  | error fault => exact .inl ⟨fault, rfl, rfl⟩
  | ok enabled =>
    have event : (Post.userState params).event =
        if enabled then "do-state-enable" else "do-state-disable" := by
      rw [Post.event]
      unfold User.wantedState at wanted
      split at wanted
      · next given =>
        cases wanted
        rw [given]
        rfl
      · next given =>
        cases wanted
        rw [given]
        rfl
      · cases wanted
    refine .inr ⟨enabled, if enabled then "Enable" else "Disable", rfl, ?_⟩
    rw [event]
    cases enabled <;> rfl

theorem Posted.carryOut_forms (limits : PageLimits) (p : Posted) {P : Action Outcome → Prop}
    (refused : ∀ fault, P fun r => (r, .error fault))
    (atDepartments : ∀ order params, p.post = .order .department order params →
      P ((departments limits).perform p.supply p.caller (order.job params)))
    (atRoles : ∀ order params, p.post = .order .role order params →
      P ((roles limits).perform p.supply p.caller (order.job params)))
    (atUsers : ∀ order params, p.post = .order .user order params →
      P ((users limits).perform p.supply p.caller (order.job params)))
    (switched : ∀ params enabled name, p.post = .userState params →
      P ((users limits).perform p.supply p.caller
        (.batch name p.post.event (fun u => { u with enabled }) params))) :
    P (p.carryOut limits) := by
  obtain ⟨supply, sound, caller, post⟩ := p
  cases post with
  | order place order params =>
    show P (orderAt limits supply place order params caller)
    cases place with
    | department =>
      rw [orderAt, carryOut_eq_perform]
      exact atDepartments order params rfl
    | role =>
      rw [orderAt, carryOut_eq_perform]
      exact atRoles order params rfl
    | user =>
      rw [orderAt, carryOut_eq_perform]
      exact atUsers order params rfl
  | userState params =>
    show P (User.doState (users limits) supply params caller)
    rcases doState_cases (users limits) supply params caller with
      ⟨fault, _, same⟩ | ⟨enabled, name, _, done⟩
    · rw [same]
      exact refused fault
    · rw [done]
      exact switched params enabled name rfl

/-- What is the case of a refusal, of every order to the desks for departments and roles and of every
job at the desk for users is the case of what a post comes to. -/
theorem Posted.carryOut_cases (limits : PageLimits) (p : Posted) {P : Action Outcome → Prop}
    (refused : ∀ fault, P fun r => (r, .error fault))
    (atDepartments : ∀ order params, p.post = .order .department order params →
      P ((departments limits).perform p.supply p.caller (order.job params)))
    (atRoles : ∀ order params, p.post = .order .role order params →
      P ((roles limits).perform p.supply p.caller (order.job params)))
    (atUsers : ∀ job : Desk.Job User, p.post.place = .user → job.event = p.post.event →
      job.KeepsId User.kind → P ((users limits).perform p.supply p.caller job)) :
    P (p.carryOut limits) := by
  refine p.carryOut_forms limits refused atDepartments atRoles (fun order params post => ?_)
    fun params enabled name post => ?_
  · refine atUsers _ ?_ ?_ (keepsId_job ..)
    · rw [post]
      rfl
    · rw [post, event_job]
      rfl
  · refine atUsers _ ?_ rfl fun _ => rfl
    rw [post]
    rfl

theorem kept_apply (p : Posted) {r : Registry} (kept : r.store.Kept) :
    (p.apply limits r).store.Kept := by
  refine p.carryOut_cases limits (P := fun action => (action r).1.store.Kept)
    (fun _ => kept) ?_ ?_ ?_
  · intro order params _
    exact kept_deeds_other Department.kind_lawful Department.entityType_ne_user p.sound kept
      ((departments limits).deeds_perform ..)
  · intro order params _
    exact kept_deeds_other Role.kind_lawful Role.entityType_ne_user p.sound kept
      ((roles limits).deeds_perform ..)
  · intro job _ _ keeps
    exact kept_deeds_users p.sound keeps kept ((users limits).deeds_perform ..)

theorem run_induction {P : Registry → Prop} {posts : List Posted}
    (step : ∀ (p : Posted) r, P r → P (p.apply limits r)) {r : Registry} (start : P r) :
    P (Posted.run limits posts r) := by
  induction posts generalizing r with
  | nil => exact start
  | cons p rest ih => exact ih (step p r start)

theorem kept_of_no_rows {s : Store} (h : s.rows = []) : s.Kept where
  wellKept := Store.wellKept_of_no_rows h
  userKeys := by simp [Store.UserKeys, h]

theorem saveAll_induction {I E : Type} [Identifier I] {k : Kind I E} {supply : Supply}
    {P : Store → Prop} {records : List E}
    (step : ∀ e ∈ records, ∀ s, P s →
      P (s.save k supply Seed.author (k.stamp Seed.author.actor supply.now e)).1)
    {s : Store} (start : P s) : P (Seed.saveAll k supply records s).1 := by
  induction records generalizing s with
  | nil => exact start
  | cons e r ih =>
    have first := step e List.mem_cons_self s start
    unfold Seed.saveAll
    split
    · next t _ saved =>
      rw [saved] at first
      exact ih (fun e he => step e (List.mem_cons_of_mem _ he)) first
    · next t fault failed =>
      rw [failed] at first
      exact first

theorem load_stages {supply : Supply} {P Q : Store → Prop} {s : Store}
    (departments : ∀ d ∈ Seed.departments, ∀ s, P s → P (s.save Department.kind supply Seed.author
      (Department.kind.stamp Seed.author.actor supply.now d)).1)
    (roles : ∀ s, P s → Q (Seed.saveAll Role.kind supply Seed.roles s).1)
    (users : ∀ u ∈ Seed.users, ∀ s, Q s → Q (s.save User.kind supply Seed.author
      (User.kind.stamp Seed.author.actor supply.now u)).1)
    (weaken : ∀ s, P s → Q s) (start : P s) : Q (Seed.load supply s).1 := by
  unfold Seed.load
  split
  · exact weaken _ start
  · unfold Seed.found
    have first := saveAll_induction departments start
    split
    · next s fault failed =>
      rw [failed] at first
      exact weaken _ first
    · next s saved =>
      rw [saved] at first
      have second := roles _ first
      split
      · next s' fault failed =>
        rw [failed] at second
        exact second
      · next s' saved' =>
        rw [saved'] at second
        exact saveAll_induction users second
  · exact weaken _ start

theorem load_induction {supply : Supply} {P : Store → Prop} {s : Store}
    (departments : ∀ d ∈ Seed.departments, ∀ s, P s → P (s.save Department.kind supply Seed.author
      (Department.kind.stamp Seed.author.actor supply.now d)).1)
    (roles : ∀ role ∈ Seed.roles, ∀ s, P s → P (s.save Role.kind supply Seed.author
      (Role.kind.stamp Seed.author.actor supply.now role)).1)
    (users : ∀ u ∈ Seed.users, ∀ s, P s → P (s.save User.kind supply Seed.author
      (User.kind.stamp Seed.author.actor supply.now u)).1)
    (start : P s) : P (Seed.load supply s).1 :=
  load_stages departments (fun _ h => saveAll_induction roles h) users (fun _ h => h) start

theorem kept_save_other {I E : Type} [Identifier I] [LawfulIdentifier I] {k : Kind I E}
    (law : k.Lawful) (other : k.entityType ≠ User.kind.entityType) {supply : Supply}
    (sound : supply.IsSound) {s : Store} (kept : s.Kept) (author : Author) (e : E) :
    (s.save k supply author e).1.Kept :=
  ⟨kept.wellKept.save law sound author e, kept.userKeys.save_other other supply author e⟩

theorem kept_save_new_user {supply : Supply} (sound : supply.IsSound) {s : Store} (kept : s.Kept)
    (author : Author) {u : User} (new : u.id = none) :
    (s.save User.kind supply author u).1.Kept := by
  refine ⟨kept.wellKept.save User.kind_lawful sound author u,
    kept.userKeys.save_user (fun n hn => ?_) supply author⟩
  rw [new] at hn
  cases hn

theorem new_users : ∀ u ∈ Seed.users, u.id = none := by decide

theorem kept_load {supply : Supply} (sound : supply.IsSound) {s : Store} (kept : s.Kept) :
    (Seed.load supply s).1.Kept := by
  refine load_induction (fun _ _ s kept => ?_) (fun _ _ s kept => ?_) (fun u hu s kept => ?_) kept
  · exact kept_save_other Department.kind_lawful Department.entityType_ne_user sound kept _ _
  · exact kept_save_other Role.kind_lawful Role.entityType_ne_user sound kept _ _
  · exact kept_save_new_user sound kept _ (new_users u hu)

/-- A registry of the service at some time, which began empty or seeded. -/
def Reached (limits : PageLimits) (r : Registry) : Prop :=
  ∃ settings supply posts, Supply.IsSound supply ∧
    r = Posted.run limits posts (begin settings supply).1

/-- What holds of the empty and of the seeded store and is kept by every post holds at any time. -/
theorem Reached.induction {P : Store → Prop} {r : Registry} (h : Reached limits r) (empty : P {})
    (seeded : ∀ supply, Supply.IsSound supply → P (Seed.load supply {}).1)
    (step : ∀ (p : Posted) (r : Registry), P r.store → P (p.apply limits r).store) : P r.store := by
  obtain ⟨settings, supply, posts, sound, rfl⟩ := h
  refine run_induction (P := fun r => P r.store) step ?_
  unfold begin
  dsimp only
  split
  · exact seeded supply sound
  · exact empty

theorem Reached.of_writes {P : Store → Prop} {r : Registry} (h : Reached limits r) (empty : P {})
    (write : ∀ (w : Store.Write) s, P s → P (w.apply s)) : P r.store := by
  have perform {I E : Type} [Identifier I] [LawfulIdentifier I] [DecidableEq I] (d : Desk I E)
      (law : d.kind.Lawful) (supply : Supply) (caller : Caller) (job : Desk.Job E) {r : Registry}
      (h : P r.store) : P (d.perform supply caller job r).1.store :=
    (d.deeds_perform supply caller job r).preserves
      (fun s author e _ _ _ h => write (.save law supply author e) s h)
      (fun s now author e h => write (.delete d.kind now author e) s h) h
  refine h.induction empty (fun supply _ => load_induction ?_ ?_ ?_ empty) fun p r h => ?_
  · exact fun d _ s h => write (.save Department.kind_lawful supply _ _) s h
  · exact fun role _ s h => write (.save Role.kind_lawful supply _ _) s h
  · exact fun u _ s h => write (.save User.kind_lawful supply _ _) s h
  · refine p.carryOut_cases limits (P := fun action => P (action r).1.store) (fun _ => h) ?_ ?_ ?_
    · exact fun order params _ => perform _ Department.kind_lawful _ _ _ h
    · exact fun order params _ => perform _ Role.kind_lawful _ _ _ h
    · exact fun job _ _ _ => perform _ User.kind_lawful _ _ _ h

theorem Reached.kept {r : Registry} (h : Reached limits r) : r.store.Kept :=
  h.induction (kept_of_no_rows rfl) (fun _ sound => kept_load sound (kept_of_no_rows rfl))
    fun p _ kept => kept_apply p kept

end Web
end Registrar
