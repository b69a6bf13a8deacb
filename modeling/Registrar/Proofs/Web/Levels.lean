import Registrar.Proofs.Kind.Readable
import Registrar.Proofs.Web.Turns

/-!
Roles and the levels of callers. Creations and updates compare the caller's level with the one that the
role is to have, and deletes compare none. Main statement: no order brings about a role above the caller's
level, and an order leaves those that are there as they are just if it is refused or reaches for none.
-/

namespace Registrar

def SavedRow.IsAbove (own : Int) (row : SavedRow) : Prop :=
  ∃ role : Role, row.content = Role.kind.encode role ∧ own < role.level

namespace Role

theorem level_of_encode {a b : Role} (h : kind.encode a = kind.encode b) : a.level = b.level := by
  have field : some (Json.Value.int a.level) = some (.int b.level) :=
    congrArg (Json.Value.field? "aclType") h
  exact Json.Value.int.inj (Option.some.inj field)

theorem isAbove_iff {own : Int} {row : SavedRow} {role : Role} (h : row.content = kind.encode role) :
    row.IsAbove own ↔ own < role.level := by
  refine ⟨fun ⟨other, shown, above⟩ => ?_, fun above => ⟨role, h, above⟩⟩
  have same : role.level = other.level := level_of_encode (h.symm.trans shown)
  rwa [same]

theorem not_above_of_allowed {own : Int} {role : Role} {caller : Caller}
    (level : caller.level = some own) (h : role.exceeds? caller = none) : ¬own < role.level := by
  intro above
  simp [exceeds?, level, above] at h

theorem stable_not_above (own : Int) : kind.Stable fun role => ¬own < role.level where
  setId _ _ h := h
  setVersion _ _ h := h

theorem refuseDelete_eq_none {role : Role} {caller : Caller} :
    policy.refuseDelete role caller = none ↔ role.isReserved = false := by
  simp [policy]

theorem isReserved_of_decode {row : SavedRow} {role x : Role} (shown : row.content = kind.encode role)
    (decoded : kind.decode row.content = .ok x) : x.isReserved = role.isReserved := by
  rw [shown] at decoded
  rw [isReserved, isReserved, (level_and_code_of_decode decoded).2]

end Role

namespace Store

/-- All rows of the second store that show roles above the level are rows of the first one. -/
def BringsNoneAbove (own : Int) (s t : Store) : Prop :=
  ∀ key row, row.IsAbove own → t.row? Role.kind.entityType key = some row →
    s.row? Role.kind.entityType key = some row

def SameAbove (own : Int) (s t : Store) : Prop :=
  ∀ key row, row.IsAbove own → (t.row? Role.kind.entityType key = some row ↔
    s.row? Role.kind.entityType key = some row)

variable {own : Int} {s t : Store}

theorem sameAbove_of_rows (own : Int)
    (same : ∀ key, t.row? Role.kind.entityType key = s.row? Role.kind.entityType key) :
    s.BringsNoneAbove own t ∧ s.SameAbove own t :=
  ⟨fun key _ _ there => (same key).symm.trans there, fun key _ _ => by rw [same key]⟩

theorem sameAbove_iff_of_placed {key : String} {new : SavedRow} (low : ¬new.IsAbove own)
    (there : t.row? Role.kind.entityType key = some new)
    (others : ∀ k, k ≠ key → t.row? Role.kind.entityType k = s.row? Role.kind.entityType k) :
    s.BringsNoneAbove own t ∧ (s.SameAbove own t ↔
      ∀ old, s.row? Role.kind.entityType key = some old → ¬old.IsAbove own) := by
  have elsewhere {k : String} {row : SavedRow} (above : row.IsAbove own)
      (here : t.row? Role.kind.entityType k = some row) : k ≠ key := by
    rintro rfl
    exact low (Option.some.inj (there.symm.trans here) ▸ above)
  refine ⟨fun k row above here => ?_, fun same old found above => ?_, fun noNew k row above => ?_⟩
  · rwa [← others k (elsewhere above here)]
  · exact elsewhere above ((same key old above).2 found) rfl
  · by_cases placed : k = key
    · subst placed
      exact ⟨fun here => absurd rfl (elsewhere above here), fun found => absurd above (noNew row found)⟩
    · rw [others k placed]

end Store

namespace Web

variable {limits : PageLimits} {supply : Supply} {order : Order} {params : Params} {caller : Caller}
variable {r : Registry} {own : Int} {s t : Store}

/-- The order takes up the role under the identifier: it names it, or it is a delete that lists it and
the role is not reserved. -/
def Order.Takes (order : Order) (params : Params) (id : String) (role : Role) : Prop :=
  match order with
  | .delete => id ∈ Identifier.split (params.getAll "ids") ∧ role.isReserved = false
  | _ => Desk.requestId params = .ok (some id)

/-- The order takes up a role above the level. -/
def Order.ReachesAbove (order : Order) (own : Int) (params : Params) (s : Store) : Prop :=
  ∃ id row role, s.row? Role.kind.entityType id = some row ∧ row.content = Role.kind.encode role ∧
    own < role.level ∧ order.Takes params id role

theorem Order.takes_iff (changes : order ≠ .delete) {id : String} {role : Role} :
    order.Takes params id role ↔ Desk.requestId params = .ok (some id) := by
  cases order with
  | delete => exact absurd rfl changes
  | create => exact Iff.rfl
  | update => exact Iff.rfl
  | save => exact Iff.rfl

theorem not_above_saved {author : Author} {x saved : Role} (low : ¬own < x.level)
    (saves : s.save Role.kind supply author x = (t, .ok saved)) :
    ¬(Role.kind.row (Role.kind.key saved) saved).IsAbove own := by
  have stays := Store.stable_saved (P := fun role => ¬own < role.level) (Role.stable_not_above own)
    Role.kind_lawful low saves
  rwa [Role.isAbove_iff rfl]

/-- A request about one role leaves those above as they are just if it fails or names none of them. -/
theorem sameAbove_of_served (kept : s.WellKept) (level : caller.level = some own)
    (fresh : s.row? Role.kind.entityType (supply.textId (s.textIds + 1)) = none)
    (changes : order ≠ .delete) {answer : Except Error Outcome}
    (served : (roles limits).Served supply caller params s t answer) :
    s.BringsNoneAbove own t ∧ (s.SameAbove own t ↔
      ((∃ outcome, answer = .ok outcome) → ¬order.ReachesAbove own params s)) := by
  cases served with
  | refused untouched fault =>
    obtain ⟨noNew, same⟩ := Store.sameAbove_of_rows own fun _ => Store.row?_congr untouched.rows
    exact ⟨noNew, fun _ answered => absurd answered not_answered_error, fun _ => same⟩
  | @entered e x saved _ unnamed bound allowed prepared _ _ _ saves message =>
    cases prepared
    have new : Role.kind.isNew (Role.kind.stamp caller.userId supply.now e) :=
      Kind.isNew_bind Role.kind_lawful bound
    have low : ¬own < (Role.kind.stamp caller.userId supply.now e).level :=
      fun above => Role.not_above_of_allowed level allowed above
    have key := (Store.key_saved Role.kind_lawful saves).1 new
    obtain ⟨there, others⟩ := Store.row?_saved Role.kind_lawful saves
    obtain ⟨noNew, same⟩ :=
      Store.sameAbove_iff_of_placed (not_above_saved low saves) there others
    refine ⟨noNew, same.trans ⟨fun _ _ ⟨id, _, _, _, _, _, takes⟩ => ?_, fun _ old found => ?_⟩⟩
    · have named := (Order.takes_iff changes).1 takes
      cases unnamed.symm.trans named
    · rw [key] at found
      cases fresh.symm.trans found
  | @revised id drawn e x saved _ named found bound allowed prepared _ _ _ saves message =>
    have key : Role.kind.key saved = id := Desk.key_revised (d := roles limits) Role.kind_lawful
      roles_keepsId kept found bound prepared saves
    cases prepared
    obtain ⟨there, others⟩ := Store.row?_saved Role.kind_lawful saves
    obtain ⟨noNew, same⟩ := Store.sameAbove_iff_of_placed
      (not_above_saved (Role.not_above_of_allowed level allowed) saves) there others
    rw [key] at same
    refine ⟨noNew, same.trans ⟨fun noneHere _ ⟨other, row, role, here, shown, above, takes⟩ => ?_,
      fun reaches old here => ?_⟩⟩
    · cases named.symm.trans ((Order.takes_iff changes).1 takes)
      exact noneHere row here ⟨role, shown, above⟩
    · rintro ⟨role, shown, above⟩
      exact reaches ⟨_, rfl⟩ ⟨id, old, role, here, shown, above, (Order.takes_iff changes).2 named⟩

theorem sameAbove_of_doDelete (kept : r.store.WellKept) {outcome : Outcome}
    (done : ((roles limits).doDelete supply params caller r).2 = .ok outcome) :
    r.store.BringsNoneAbove own ((roles limits).doDelete supply params caller r).1.store ∧
    (r.store.SameAbove own ((roles limits).doDelete supply params caller r).1.store ↔
      ¬Order.delete.ReachesAbove own params r.store) := by
  obtain ⟨gone, stays⟩ := Desk.row?_doDelete (d := roles limits) Role.kind_lawful kept done
  have noNew : r.store.BringsNoneAbove own
      ((roles limits).doDelete supply params caller r).1.store := by
    intro key row above there
    rcases stays key with same | ⟨id, e, removes, rfl⟩
    · exact same.symm.trans there
    · cases (gone id e removes).symm.trans there
  refine ⟨noNew, fun same ⟨id, row, role, here, shown, above, listed, free⟩ => ?_,
    fun reaches key row above => ⟨noNew key row above, fun here => ?_⟩⟩
  · obtain ⟨e, found⟩ := Desk.found_of_listed done ⟨id, listed, rfl⟩ here
    obtain ⟨_, there, decoded⟩ := Store.row_of_find? found
    cases here.symm.trans there
    have allowed : Role.policy.refuseDelete e caller = none :=
      Role.refuseDelete_eq_none.2 ((Role.isReserved_of_decode shown decoded).trans free)
    cases (gone id e ⟨found, ⟨id, listed, rfl⟩, rfl, allowed⟩).symm.trans
      ((same id row ⟨role, shown, above⟩).2 here)
  · rcases stays key with same | ⟨id, e, removes, rfl⟩
    · exact same.trans here
    · obtain ⟨_, there, decoded⟩ := Store.row_of_find? removes.found
      cases here.symm.trans there
      obtain ⟨role, shown, higher⟩ := above
      obtain ⟨token, listed, parsed⟩ := removes.listed
      cases parsed
      exact absurd ⟨_, row, role, here, shown, higher, listed,
        (Role.isReserved_of_decode shown decoded).symm.trans
          (Role.refuseDelete_eq_none.1 removes.allowed)⟩ reaches

/-- No order of a caller with a level brings about a role above that level, or another content of one.
It leaves all of them where they are just if it is refused, or names none of them and, as a delete, lists
none that is not reserved. -/
theorem roles_above_kept_iff {r : Registry} (reached : Reached limits r)
    (level : caller.level = some own)
    (fresh : r.store.row? Role.kind.entityType (supply.textId (r.store.textIds + 1)) = none) :
    r.store.BringsNoneAbove own (orderAt limits supply .role order params caller r).1.store ∧
    (r.store.SameAbove own (orderAt limits supply .role order params caller r).1.store ↔
      ((∃ outcome, (orderAt limits supply .role order params caller r).2 = .ok outcome) →
        ¬order.ReachesAbove own params r.store)) := by
  have kept := reached.kept.wellKept
  rw [orderAt]
  by_cases changes : order = .delete
  · subst changes
    cases answer : (carryOut (roles limits) supply .delete params caller r).2 with
    | error fault =>
      obtain ⟨noNew, same⟩ := Store.sameAbove_of_rows own (row?_refused answer _)
      exact ⟨noNew, fun _ answered => absurd answered not_answered_error, fun _ => same⟩
    | ok outcome =>
      obtain ⟨noNew, same⟩ := sameAbove_of_doDelete kept answer
      exact ⟨noNew, same.trans ⟨fun h _ => h, fun h => h ⟨outcome, rfl⟩⟩⟩
  · exact sameAbove_of_served kept level fresh changes
      (served_carryOut Role.kind_lawful kept rfl changes)

def administration : Role :=
  { id := some "t1", code := "ROLE_ADMIN", name := "Administrator", level := 9
    createdBy := some "system", createdAt := some ⟨0, 0⟩ }

theorem row?_administration : organisation.store.row? Role.kind.entityType "t1" =
    some (Role.kind.row "t1" administration) := by rfl

/-- What the deputy deletes is not above the deputy. -/
theorem deputy_deletes_below :
    Reached {} organisation ∧ deputy.level = some 2 ∧
    organisation.store.row? Role.kind.entityType
      (numbering.textId (organisation.store.textIds + 1)) = none ∧
    (∃ outcome, (orderAt {} numbering .role .delete ⟨.mutation, [("ids", "t3")]⟩ deputy
      organisation).2 = .ok outcome ∧ outcome.type = .success) ∧
    organisation.store.SameAbove 2 (orderAt {} numbering .role .delete
      ⟨.mutation, [("ids", "t3")]⟩ deputy organisation).1.store := by
  have fresh : organisation.store.row? Role.kind.entityType
      (numbering.textId (organisation.store.textIds + 1)) = none := by rfl
  refine ⟨reached_organisation, rfl, fresh, ⟨_, rfl, rfl⟩,
    (roles_above_kept_iff reached_organisation rfl fresh).2.2 fun _ => ?_⟩
  rintro ⟨id, row, role, here, shown, above, listed, _⟩
  have tokens : Identifier.split ["t3"] = ["t3"] := by decide +kernel
  have only : id ∈ Identifier.split ["t3"] := listed
  rw [tokens, List.mem_singleton] at only
  subst only
  have level : (organisation.store.row? Role.kind.entityType "t3").bind
      (fun row => row.content.field? "aclType") = some (.int 2) := by rfl
  rw [here, Option.bind_some, shown] at level
  have two : role.level = 2 := Json.Value.int.inj (Option.some.inj level)
  omega

/-- The deputy takes the level of the administrators' role down below the own one. -/
theorem deputy_lowers_administration :
    Reached {} organisation ∧ deputy.level = some 2 ∧
    organisation.store.row? Role.kind.entityType
      (numbering.textId (organisation.store.textIds + 1)) = none ∧
    ¬organisation.store.SameAbove 2 (orderAt {} numbering .role .update
      ⟨.mutation, [("id", "t1"), ("aclType", "0")]⟩ deputy organisation).1.store := by
  refine ⟨reached_organisation, rfl, by rfl, fun same => ?_⟩
  have above : (Role.kind.row "t1" administration).IsAbove 2 := ⟨administration, rfl, by decide⟩
  have stays := (same "t1" _ above).2 row?_administration
  have after : ((orderAt {} numbering .role .update ⟨.mutation, [("id", "t1"), ("aclType", "0")]⟩
    deputy organisation).1.store.row? Role.kind.entityType "t1").map SavedRow.version =
      some 1 := by decide +kernel
  rw [stays] at after
  cases after

end Web
end Registrar
