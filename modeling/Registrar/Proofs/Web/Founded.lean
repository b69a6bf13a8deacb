import Registrar.Proofs.Desk.Founded
import Registrar.Proofs.Web.Legible
import Registrar.Proofs.Web.Reserved

/-!
Where users and roles come from. Main statement: whatever clients ask for, a role shows its identifier and
who created it when as it did when its current life began, a user also the name and password for signing
in, and the one who created a record is the actor of the revision that added it.
-/

namespace Registrar

open Json

def Role.guarded : List String := ["id", "createdBy", "createdAt"]

def User.guarded : List String := ["id", "createdBy", "createdAt", "signinid", "password"]

/-- Each row of the type shows under the names the values that the revision shows with which its current
life began, and as its creator the actor of that revision. -/
def Store.KeepsOrigins (entityType : String) (names : List String) (s : Store) : Prop :=
  ∀ row ∈ s.rows, row.entityType = entityType → ∃ first : Revision,
    first.Begins (s.revisionsOf entityType row.key) ∧
    (∀ name ∈ names, ∃ v, row.content.field? name = some v ∧ first.content.field? name = some v) ∧
    row.content.field? "createdBy" = some (.text first.actor)

theorem Store.Founded.keepsOrigins {I E : Type} {k : Kind I E} {P : E → Prop} {names : List String}
    {s : Store} (h : s.Founded k.entityType names) (each : s.OneRowEach) (shows : s.Shows k P)
    (shown : ∀ e, ∀ name ∈ names, ((k.encode e).field? name).isSome) :
    s.KeepsOrigins k.entityType names := by
  intro row hrow type
  obtain ⟨first, begins, same, author⟩ := h row.key row (each.row?_eq hrow (type ▸ row.isAt_self))
  refine ⟨first, begins, fun name hname => ?_, author⟩
  obtain ⟨e, content, _⟩ := shows row hrow type
  have some_ := shown e name hname
  rw [← content] at some_
  obtain ⟨v, hv⟩ := Option.isSome_iff_exists.1 some_
  exact ⟨v, hv, (same name hname).symm.trans hv⟩

namespace Role

theorem agree_guarded {r x : Role} (id : x.id = r.id) (createdBy : x.createdBy = r.createdBy)
    (createdAt : x.createdAt = r.createdAt) : kind.Agree guarded r x := by
  intro name hname
  rw [field?_encode, field?_encode]
  simp only [guarded, List.mem_cons, List.not_mem_nil, or_false] at hname
  rcases hname with rfl | rfl | rfl
  · exact congrArg (fun o => some (Value.ofOption .text o)) id
  · exact congrArg (fun o => some (Value.ofOption .text o)) createdBy
  · exact congrArg (fun o => some (Instant.shown o)) createdAt

theorem shows_guarded (r : Role) : ∀ name ∈ guarded, ((kind.encode r).field? name).isSome := by
  have listed : ∀ name ∈ guarded, (Entries.get? name layout).isSome := by decide
  intro name hname
  rw [field?_encode, Option.isSome_map]
  exact listed name hname

end Role

namespace User

theorem agree_guarded {u x : User} (id : x.id = u.id) (createdBy : x.createdBy = u.createdBy)
    (createdAt : x.createdAt = u.createdAt) (signinid : x.signinid = u.signinid)
    (password : x.password = u.password) : kind.Agree guarded u x := by
  intro name hname
  rw [field?_encode, field?_encode]
  simp only [guarded, List.mem_cons, List.not_mem_nil, or_false] at hname
  rcases hname with rfl | rfl | rfl | rfl | rfl
  · exact congrArg (fun o => some (Value.ofOption .int o)) id
  · exact congrArg (fun o => some (Value.ofOption .text o)) createdBy
  · exact congrArg (fun o => some (Instant.shown o)) createdAt
  · exact congrArg (fun o => some (Value.text o)) signinid
  · exact congrArg (fun o => some (Value.ofOption .text o)) password

theorem shows_guarded (u : User) : ∀ name ∈ guarded, ((kind.encode u).field? name).isSome := by
  have listed : ∀ name ∈ guarded, (Entries.get? name layout).isSome := by decide
  intro name hname
  rw [field?_encode, Option.isSome_map]
  exact listed name hname

end User

namespace Web

variable {limits : PageLimits}

theorem roles_guards : (roles limits).Guards Role.guarded Role.Lasts where
  id := by decide
  created := by decide
  unversioned := by decide
  unbound := by
    show ∀ f ∈ Role.schema.bindable false, f.name ∉ Role.guarded
    decide
  read lasts decoded _ same := Role.field?_of_decode decoded (fun _ => lasts.2) same
  prepare prepared := by
    cases prepared
    exact fun _ _ => rfl
  stamp _ _ r := Role.field?_encode _ _
  stamp_id _ _ _ := rfl

theorem users_guards : (users limits).Guards User.guarded User.Lasts where
  id := by decide
  created := by decide
  unversioned := by decide
  unbound := by
    show ∀ f ∈ User.schema.bindable false, f.name ∉ User.guarded
    decide
  read lasts decoded _ same := User.field?_of_decode decoded (fun _ => lasts.2) same
  prepare prepared := by
    rw [User.prepare_eq prepared]
    exact User.agree_guarded rfl rfl rfl rfl rfl
  stamp _ _ u := User.field?_encode _ _
  stamp_id _ _ _ := rfl

/-- A registry of the service at some time, with a clock that shows instants of the calendar and with
texts for new identifiers that no role has at that time. -/
def ReachedAfresh (limits : PageLimits) (r : Registry) : Prop :=
  ∃ settings supply posts, Supply.IsSound supply ∧ supply.IsTimely ∧
    (∀ p ∈ posts, p.supply.IsTimely) ∧
    Posted.Along limits Posted.IsFresh posts (begin settings supply).1 ∧
    r = Posted.run limits posts (begin settings supply).1

/-- What holds of roles and users in a store of the service at any such time. -/
structure Established (s : Store) : Prop where
  kept : s.Kept
  legible : Legible s
  roles : s.Founded Role.kind.entityType Role.guarded
  users : s.Founded User.kind.entityType User.guarded

theorem founded_of_no_rows {s : Store} (h : s.rows = []) (entityType : String)
    (names : List String) : s.Founded entityType names := by
  intro key row there
  simp [Store.row?, h] at there

theorem established_of_no_rows {s : Store} (h : s.rows = []) : Established s where
  kept := kept_of_no_rows h
  legible := legible_of_no_rows h
  roles := founded_of_no_rows h _ _
  users := founded_of_no_rows h _ _

theorem founded_save_other {I E : Type} [Identifier I] {k : Kind I E} {entityType : String}
    {names : List String} (law : k.Lawful) (created : "createdBy" ∈ names)
    (unversioned : "version" ∉ names) (other : k.entityType ≠ entityType) {s : Store}
    (h : s.Founded entityType names) (supply : Supply) (author : Author) (e : E) :
    (s.save k supply author e).1.Founded entityType names :=
  h.save law created unversioned (fun same => absurd same other) fun same => absurd same other

theorem founded_deeds_other {I E : Type} [Identifier I] [DecidableEq I] {d : Desk I E}
    {entityType : String} {names : List String} (law : d.kind.Lawful)
    (created : "createdBy" ∈ names) (unversioned : "version" ∉ names)
    (other : d.kind.entityType ≠ entityType) {supply : Supply} {job : Desk.Job E} {s t : Store}
    (deeds : d.Deeds supply job s t) (h : s.Founded entityType names) :
    t.Founded entityType names :=
  deeds.preserves
    (fun _ author e _ _ _ h => founded_save_other law created unversioned other h supply author e)
    (fun _ now _ _ h => h.delete now) h

theorem founded_apply (p : Posted) {r : Registry} (fresh : p.IsFresh r) (h : Established r.store) :
    (p.apply limits r).store.Founded Role.kind.entityType Role.guarded ∧
    (p.apply limits r).store.Founded User.kind.entityType User.guarded := by
  have wellKept := h.kept.wellKept
  have atUsers (job : Desk.Job User) (leaves : job.Leaves User.kind User.guarded) :
      ((users limits).perform p.supply p.caller job r).1.store.Founded Role.kind.entityType
          Role.guarded ∧
        ((users limits).perform p.supply p.caller job r).1.store.Founded User.kind.entityType
          User.guarded :=
    ⟨founded_deeds_other User.kind_lawful (by decide) (by decide) User.entityType_ne_role
        ((users limits).deeds_perform p.supply p.caller job r) h.roles,
      users_guards.perform User.kind_lawful p.sound wellKept h.legible.users rfl
        h.kept.userKeys.vacant leaves h.users⟩
  refine p.carryOut_forms limits
    (P := fun action => (action r).1.store.Founded Role.kind.entityType Role.guarded ∧
      (action r).1.store.Founded User.kind.entityType User.guarded)
    (fun _ => ⟨h.roles, h.users⟩) (fun order params _ => ?_) (fun order params _ => ?_)
    (fun order params _ => ?_) fun params enabled name _ => ?_
  · have deeds := (departments limits).deeds_perform p.supply p.caller (order.job params) r
    exact ⟨founded_deeds_other Department.kind_lawful (by decide) (by decide)
        Department.entityType_ne_role deeds h.roles,
      founded_deeds_other Department.kind_lawful (by decide) (by decide)
        Department.entityType_ne_user deeds h.users⟩
  · have deeds := (roles limits).deeds_perform p.supply p.caller (order.job params) r
    exact ⟨roles_guards.perform Role.kind_lawful p.sound wellKept h.legible.roles rfl fresh
        (by cases order <;> trivial) h.roles,
      founded_deeds_other Role.kind_lawful (by decide) (by decide) Role.entityType_ne_user deeds
        h.users⟩
  · exact atUsers _ (by cases order <;> trivial)
  · exact atUsers _ fun u => User.agree_guarded rfl rfl rfl rfl rfl

theorem established_apply (p : Posted) (timely : p.supply.IsTimely) {r : Registry}
    (fresh : p.IsFresh r) (h : Established r.store) : Established (p.apply limits r).store where
  kept := kept_apply p h.kept
  legible := legible_apply p timely h.legible
  roles := (founded_apply p fresh h).1
  users := (founded_apply p fresh h).2

/-- The organisation to begin with has created the role, at the given time. -/
def IsOriginal (now : Instant) (role : Role) : Prop :=
  role.createdBy = some Seed.author.actor ∧ role.createdAt = some now

theorem stable_isOriginal (now : Instant) : Role.kind.Stable (IsOriginal now) where
  setId _ _ h := h
  setVersion _ _ h := h

theorem founded_save_role {s : Store} (h : s.Founded Role.kind.entityType Role.guarded)
    (kept : s.WellKept) {now : Instant} (original : s.Shows Role.kind (IsOriginal now))
    {supply : Supply} {role : Role} (created : IsOriginal now role) :
    (s.save Role.kind supply Seed.author role).1.Founded Role.kind.entityType Role.guarded := by
  have named := Store.named_of_stable (stable_isOriginal now) supply created s
  refine h.save Role.kind_lawful (by decide) (by decide) (fun _ _ => ?_) fun _ old found => ?_
  · rw [Role.field?_encode]
    exact congrArg (fun o => some (Value.ofOption .text o)) named.1
  · have there : s.row? Role.kind.entityType
        (Identifier.text (Role.kind.key (s.named Role.kind supply role))) = some old := found
    obtain ⟨e, shown, ⟨createdBy, createdAt⟩, hid, _⟩ :=
      kept.of_row? Role.kind_lawful original there
    have own : (s.named Role.kind supply role).id = e.id := by
      obtain ⟨i, hi, key⟩ := Option.map_eq_some_iff.1
        (Store.idText?_named Role.kind_lawful supply role s)
      cases key
      exact hi.trans hid.symm
    intro name hname
    rw [shown]
    exact Role.agree_guarded own (named.1.trans createdBy.symm) (named.2.trans createdAt.symm) name
      hname

theorem founded_save_new_user {s : Store} (h : s.Founded User.kind.entityType User.guarded)
    (kept : s.Kept) {supply : Supply} {author : Author} {u : User} (new : u.id = none)
    (created : u.createdBy = some author.actor) :
    (s.save User.kind supply author u).1.Founded User.kind.entityType User.guarded := by
  have isNew : User.kind.isNew u := by simp [Kind.isNew, User.kind, new]
  refine h.save User.kind_lawful (by decide) (by decide) (fun _ _ => ?_) fun _ old found => ?_
  · rw [Store.named_of_isNew User.kind isNew, User.field?_encode]
    exact congrArg (fun o => some (Value.ofOption .text o)) created
  · rw [Store.key_named_of_isNew User.kind_lawful isNew] at found
    cases kept.userKeys.vacant.symm.trans found

/-- The first roles and users are founded, whichever texts the roles take as identifiers. -/
theorem founded_load {supply : Supply} (sound : supply.IsSound) :
    (Seed.load supply {}).1.Founded Role.kind.entityType Role.guarded ∧
    (Seed.load supply {}).1.Founded User.kind.entityType User.guarded := by
  refine (load_induction
    (P := fun s => s.Kept ∧ s.Shows Role.kind (IsOriginal supply.now) ∧
      s.Founded Role.kind.entityType Role.guarded ∧ s.Founded User.kind.entityType User.guarded)
    ?_ ?_ ?_ ?_).2.2
  · rintro d _ s ⟨kept, original, roles, users⟩
    exact ⟨kept_save_other Department.kind_lawful Department.entityType_ne_user sound kept _ _,
      original.save_other Department.entityType_ne_role _ _ _,
      founded_save_other Department.kind_lawful (by decide) (by decide)
        Department.entityType_ne_role roles _ _ _,
      founded_save_other Department.kind_lawful (by decide) (by decide)
        Department.entityType_ne_user users _ _ _⟩
  · rintro role _ s ⟨kept, original, roles, users⟩
    have created : IsOriginal supply.now (Role.kind.stamp Seed.author.actor supply.now role) :=
      ⟨rfl, rfl⟩
    exact ⟨kept_save_other Role.kind_lawful Role.entityType_ne_user sound kept _ _,
      original.save (stable_isOriginal _) created _ _,
      founded_save_role roles kept.wellKept original created,
      founded_save_other Role.kind_lawful (by decide) (by decide) Role.entityType_ne_user users _ _ _⟩
  · rintro u hu s ⟨kept, original, roles, users⟩
    have new : (User.kind.stamp Seed.author.actor supply.now u).id = none := new_users u hu
    exact ⟨kept_save_new_user sound kept _ new,
      original.save_other User.entityType_ne_role _ _ _,
      founded_save_other User.kind_lawful (by decide) (by decide) User.entityType_ne_role roles _ _ _,
      founded_save_new_user users kept new rfl⟩
  · exact ⟨kept_of_no_rows rfl, (fun _ hrow => nomatch hrow), founded_of_no_rows rfl _ _,
      founded_of_no_rows rfl _ _⟩

theorem ReachedAfresh.established {r : Registry} (h : ReachedAfresh limits r) :
    Established r.store := by
  obtain ⟨settings, supply, posts, sound, timely, times, fresh, rfl⟩ := h
  have start : Established (begin settings supply).1.store := by
    unfold begin
    dsimp only
    split
    · exact ⟨kept_load sound (kept_of_no_rows rfl), legible_load timely, (founded_load sound).1,
        (founded_load sound).2⟩
    · exact established_of_no_rows rfl
  generalize (begin settings supply).1 = r at start fresh
  -- On the posts: each finds roles and users founded, and takes fresh texts.
  induction posts generalizing r with
  | nil => exact start
  | cons p rest ih =>
    refine ih (fun q hq => times q (List.mem_cons_of_mem _ hq)) (p.apply limits r) ?_ fresh.2
    exact established_apply p (times p List.mem_cons_self) fresh.1 start

/-- At any time each role shows the identifier, the creator and the time of the revision that its current
life began with, each user also its name and password for signing in, and the creator is the actor of that
revision, whatever clients have asked for since. -/
theorem origins_outlast_requests {r : Registry} (reached : ReachedAfresh limits r) :
    r.store.KeepsOrigins Role.kind.entityType Role.guarded ∧
    r.store.KeepsOrigins User.kind.entityType User.guarded := by
  have h := reached.established
  have each := h.kept.wellKept.oneRowEach
  exact ⟨h.roles.keepsOrigins each h.legible.roles Role.shows_guarded,
    h.users.keepsOrigins each h.legible.users User.shows_guarded⟩

/-- Someone tries to take over a user, and adds a role. -/
def meddling : List Posted := [
  ordering .user .update [("id", "9"), ("signinid", "root"), ("password", "secret"),
    ("createdBy", "root"), ("nick", "Samuel")],
  ordering .role .create [("code", "ROLE_NEW"), ("name", "New"), ("aclType", "1")]]

theorem meddling_keeps_origins :
    ReachedAfresh {} (Posted.run {} meddling organisation) ∧
    (((Posted.run {} meddling organisation).store.row? "user" "9").bind fun row =>
      (row.content.field? "nick").bind Value.text?) = some "Samuel" ∧
    ((Posted.run {} meddling organisation).store.row? "role" "t4").isSome ∧
    (Posted.run {} meddling organisation).store.KeepsOrigins "role" Role.guarded ∧
    (Posted.run {} meddling organisation).store.KeepsOrigins "user" User.guarded := by
  have fresh : Posted.Along {} Posted.IsFresh meddling organisation := by
    refine ⟨?_, ?_, trivial⟩ <;> exact Option.isNone_iff_eq_none.1 (by decide +kernel)
  have timely : ∀ p ∈ meddling, p.supply.IsTimely := by
    intro p hp
    simp only [meddling, List.mem_cons, List.not_mem_nil, or_false] at hp
    rcases hp with rfl | rfl <;> exact numbering_isTimely
  have reached : ReachedAfresh {} (Posted.run {} meddling organisation) :=
    ⟨{ seeded := true }, numbering, meddling, numbering_isSound, numbering_isTimely, timely, fresh,
      rfl⟩
  exact ⟨reached, by decide +kernel, by decide +kernel, origins_outlast_requests reached⟩

end Web
end Registrar
