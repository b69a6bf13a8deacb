import Registrar.Proofs.Desk.Lasting
import Registrar.Proofs.Web.Views

/-!
Records of the service read back from their data form. Levels come from data of 32 bits, and the time of
the first save from the clock. Main statement: if the clock shows instants of the calendar, all departments,
roles and users that the store shows read back, whatever clients have asked for.
-/

namespace Registrar

open Json

/-- The time that the request takes from the clock is an instant of the calendar. -/
def Supply.IsTimely (supply : Supply) : Prop := supply.now.IsProper

/-- The time, if any, is what its text is read as. -/
def Instant.Lasts (time : Option Instant) : Prop := ∀ t, time = some t → t.ReadsBack

theorem Instant.lasts_now {now : Instant} (h : now.IsProper) : Lasts (some now) := by
  rintro t ⟨⟩
  exact h.readsBack

theorem Kind.Dated.lasts_of_encode {I E : Type} {k : Kind I E} {time : E → Option Instant}
    (dated : k.Dated time) {e x : E} (h : Instant.Lasts (time e))
    (decoded : k.decode (k.encode e) = .ok x) : Instant.Lasts (time x) := by
  rw [dated.of_decode decoded (dated.field e) h]
  exact h

theorem Kind.Dated.lasts_of_bind {I E : Type} [Identifier I] {k : Kind I E}
    {time : E → Option Instant} (dated : k.Dated time) {params : Params} {e x : E}
    (h : Instant.Lasts (time e)) (bound : k.bind params e = .ok x) : Instant.Lasts (time x) := by
  rw [dated.of_bind bound h]
  exact h

theorem Kind.of_bind {I E : Type} [Identifier I] {k : Kind I E} {P : E → Prop}
    (read : ∀ v e, k.decode v = .ok e → P e) {params : Params} {e x : E} (h : P e)
    (bound : k.bind params e = .ok x) : P x := by
  obtain ⟨_, _, _, _, ⟨_, rfl⟩ | decoded⟩ := Kind.bind_cases bound
  · exact h
  · exact read _ _ decoded

namespace Department

def Lasts (d : Department) : Prop := Instant.Lasts d.createdAt

theorem stable_lasts : kind.Stable Lasts := ⟨fun _ _ h => h, fun _ _ h => h⟩

theorem legible : kind.Legible Lasts := fun _ time _ version => decode_encode version time

end Department

namespace Role

def Lasts (r : Role) : Prop := r.FitsLevel ∧ Instant.Lasts r.createdAt

theorem stable_lasts : kind.Stable Lasts := ⟨fun _ _ h => h, fun _ _ h => h⟩

theorem legible : kind.Legible Lasts := fun _ h _ version => decode_encode version h.1 h.2

end Role

namespace User

def Lasts (u : User) : Prop := Number.fitsInt32 u.level ∧ Instant.Lasts u.createdAt

theorem stable_lasts : kind.Stable Lasts := ⟨fun _ _ h => h, fun _ _ h => h⟩

theorem legible : kind.Legible Lasts := fun _ h number version =>
  decode_encode (fun n hn => Identifier.readsBack_int.1 (number n hn)) version h.1 h.2

theorem prepare_eq {u x : User} {caller : Caller} (h : prepare u caller = .ok x) :
    x = { u with code := u.department.map Reference.id } := by
  unfold prepare at h
  dsimp only at h
  split at h
  all_goals
    split at h
    · cases h
      rfl
    · cases h

end User

namespace Web

variable {limits : PageLimits}

theorem departments_lasting : (departments limits).Lasting Department.Lasts where
  stable := Department.stable_lasts
  blank _ h := by cases h
  read h decoded := Department.kind_dated.lasts_of_encode h decoded
  bind h bound := Department.kind_dated.lasts_of_bind h bound
  prepare {e x caller} h prepared := by
    cases prepared
    split
    · exact h
    · exact h
  stamp _ timely _ := Instant.lasts_now timely

theorem roles_lasting : (roles limits).Lasting Role.Lasts where
  stable := Role.stable_lasts
  blank := ⟨rfl, fun _ h => by cases h⟩
  read h decoded :=
    ⟨Role.fitsLevel_of_decode decoded, Role.kind_dated.lasts_of_encode h.2 decoded⟩
  bind h bound := ⟨Kind.of_bind (fun _ _ => Role.fitsLevel_of_decode) h.1 bound,
    Role.kind_dated.lasts_of_bind h.2 bound⟩
  prepare h prepared := by
    cases prepared
    exact h
  stamp _ timely h := ⟨h.1, Instant.lasts_now timely⟩

theorem users_lasting : (users limits).Lasting User.Lasts where
  stable := User.stable_lasts
  blank := ⟨rfl, fun _ h => by cases h⟩
  read h decoded :=
    ⟨(User.fits_of_decode decoded).2, User.kind_dated.lasts_of_encode h.2 decoded⟩
  bind h bound := ⟨Kind.of_bind (fun _ _ decoded => (User.fits_of_decode decoded).2) h.1 bound,
    User.kind_dated.lasts_of_bind h.2 bound⟩
  prepare h prepared := by
    rw [User.prepare_eq prepared]
    exact h
  stamp _ timely h := ⟨h.1, Instant.lasts_now timely⟩

/-- All rows of the service show records that last. -/
structure Legible (s : Store) : Prop where
  departments : s.Shows Department.kind Department.Lasts
  roles : s.Shows Role.kind Role.Lasts
  users : s.Shows User.kind User.Lasts

theorem legible_of_no_rows {s : Store} (h : s.rows = []) : Legible s where
  departments := by simp [Store.Shows, h]
  roles := by simp [Store.Shows, h]
  users := by simp [Store.Shows, h]

theorem maintains_job {E : Type} (order : Order) (params : Params) (Q : E → Prop) :
    (order.job params : Desk.Job E).Maintains Q := by
  cases order <;> exact trivial

/-- Each post is refused, or a job at one of the desks. What a job at the desk of users makes of a user
but by the values of a request, it makes by setting the state. -/
theorem Posted.carryOut_jobs (limits : PageLimits) (p : Posted) {P : Action Outcome → Prop}
    (refused : ∀ fault, P fun r => (r, .error fault))
    (atDepartments : ∀ job, (∀ Q, job.Maintains Q) →
      P ((departments limits).perform p.supply p.caller job))
    (atRoles : ∀ job, (∀ Q, job.Maintains Q) → P ((roles limits).perform p.supply p.caller job))
    (atUsers : ∀ job, (∀ Q : User → Prop, (∀ u enabled, Q u → Q { u with enabled }) →
      job.Maintains Q) → P ((users limits).perform p.supply p.caller job)) :
    P (p.carryOut limits) := by
  refine p.carryOut_forms limits refused (fun order params _ => ?_) (fun order params _ => ?_)
    (fun order params _ => ?_) fun params enabled name _ => ?_
  · exact atDepartments _ (maintains_job order params)
  · exact atRoles _ (maintains_job order params)
  · exact atUsers _ fun Q _ => maintains_job order params Q
  · exact atUsers _ fun Q keeps u => keeps u enabled

theorem legible_apply (p : Posted) (timely : p.supply.IsTimely) {r : Registry}
    (h : Legible r.store) : Legible (p.apply limits r).store := by
  refine p.carryOut_jobs limits (P := fun action => Legible (action r).1.store) (fun _ => h)
    (fun job maintains => ?_) (fun job maintains => ?_) fun job maintains => ?_
  · have deeds := (departments limits).deeds_perform p.supply p.caller job r
    exact ⟨departments_lasting.perform timely (maintains _) h.departments,
      deeds.shows_other Department.entityType_ne_role h.roles,
      deeds.shows_other Department.entityType_ne_user h.users⟩
  · have deeds := (roles limits).deeds_perform p.supply p.caller job r
    exact ⟨deeds.shows_other Department.entityType_ne_role.symm h.departments,
      roles_lasting.perform timely (maintains _) h.roles,
      deeds.shows_other Role.entityType_ne_user h.users⟩
  · have deeds := (users limits).deeds_perform p.supply p.caller job r
    have keeps : job.Maintains User.Lasts := maintains _ fun _ _ last => last
    exact ⟨deeds.shows_other Department.entityType_ne_user.symm h.departments,
      deeds.shows_other User.entityType_ne_role h.roles,
      users_lasting.perform timely keeps h.users⟩

theorem legible_load {supply : Supply} (timely : supply.IsTimely) :
    Legible (Seed.load supply {}).1 := by
  have levels : (∀ role ∈ Seed.roles, Number.fitsInt32 role.level) ∧
      ∀ u ∈ Seed.users, Number.fitsInt32 u.level := by decide
  refine load_induction (fun d _ s h => ?_) (fun role hrole s h => ?_) (fun u hu s h => ?_) ?_
  · have lasts : Department.Lasts (Department.kind.stamp Seed.author.actor supply.now d) :=
      Instant.lasts_now timely
    exact ⟨h.departments.save Department.stable_lasts lasts _ _,
      h.roles.save_other Department.entityType_ne_role _ _ _,
      h.users.save_other Department.entityType_ne_user _ _ _⟩
  · have lasts : Role.Lasts (Role.kind.stamp Seed.author.actor supply.now role) :=
      ⟨levels.1 role hrole, Instant.lasts_now timely⟩
    exact ⟨h.departments.save_other Department.entityType_ne_role.symm _ _ _,
      h.roles.save Role.stable_lasts lasts _ _,
      h.users.save_other Role.entityType_ne_user _ _ _⟩
  · have lasts : User.Lasts (User.kind.stamp Seed.author.actor supply.now u) :=
      ⟨levels.2 u hu, Instant.lasts_now timely⟩
    exact ⟨h.departments.save_other Department.entityType_ne_user.symm _ _ _,
      h.roles.save_other User.entityType_ne_role _ _ _,
      h.users.save User.stable_lasts lasts _ _⟩
  · exact legible_of_no_rows rfl

/-- A registry of the service at some time, with a clock that shows instants of the calendar. -/
def ReachedInTime (limits : PageLimits) (r : Registry) : Prop :=
  ∃ settings supply posts, Supply.IsSound supply ∧ supply.IsTimely ∧
    (∀ p ∈ posts, p.supply.IsTimely) ∧ r = Posted.run limits posts (begin settings supply).1

theorem ReachedInTime.reached {r : Registry} (h : ReachedInTime limits r) : Reached limits r := by
  obtain ⟨settings, supply, posts, sound, _, _, same⟩ := h
  exact ⟨settings, supply, posts, sound, same⟩

theorem ReachedInTime.legible {r : Registry} (h : ReachedInTime limits r) : Legible r.store := by
  obtain ⟨settings, supply, posts, _, timely, times, rfl⟩ := h
  have start : Legible (begin settings supply).1.store := by
    unfold begin
    dsimp only
    split
    · exact legible_load timely
    · exact legible_of_no_rows rfl
  generalize (begin settings supply).1 = r at start
  -- On the posts: each takes a time that reads back from its own clock.
  induction posts generalizing r with
  | nil => exact start
  | cons p rest ih =>
    exact ih (fun q hq => times q (List.mem_cons_of_mem _ hq)) (p.apply limits r)
      (legible_apply p (times p List.mem_cons_self) start)

theorem numbering_isTimely : numbering.IsTimely := by
  exact ⟨by decide, .inl (by decide)⟩

theorem organisation_in_time : ReachedInTime {} organisation :=
  ⟨{ seeded := true }, numbering, [], numbering_isSound, numbering_isTimely, by simp, rfl⟩

end Web
end Registrar
