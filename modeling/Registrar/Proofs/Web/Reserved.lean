import Registrar.Proofs.Desk.Unique
import Registrar.Proofs.Web.Levels

/-!
The reserved codes of roles. No two roles have a code in common, and a role with a reserved code cannot be
deleted; but its code takes request values like any other. Main statement: over a run of posts a role with a
reserved code is there from its first time on just if no post gives that role another code.
-/

namespace Registrar

open Json

namespace Role

theorem code_of_encode {a b : Role} (h : kind.encode a = kind.encode b) : a.code = b.code := by
  have field : some (Value.text a.code) = some (.text b.code) := congrArg (Value.field? "code") h
  exact Value.text.inj (Option.some.inj field)

theorem code_bind {params : Params} {e bound : Role} (h : kind.bind params e = .ok bound) :
    bound.code = (params.get? "code").getD e.code := by
  refine Kind.text_of_bind "code" h (by cases kind.isNew e <;> decide)
    (by cases kind.isNew e <;> decide) (fun _ => rfl) fun decoded given => ?_
  obtain ⟨fields, hfields, read⟩ := readFrom_of_decode decoded
  have hcode := read.code
  rw [Fields.text?, Value.fields?_of_field? given hfields] at hcode
  exact (Option.some.inj hcode).symm

theorem keeps_code : kind.Keeps "code" :=
  kind_lawful.keeps "code" [] (by decide) (by decide) (by decide)

theorem not_isNan_of_reserved {code : String} (reserved : code ∈ reservedCodes) :
    ¬(Value.text code).IsNan := by
  rw [Value.isNan_text_iff]
  revert code
  decide

end Role

def SavedRow.HasCode (code : String) (row : SavedRow) : Prop :=
  ∃ role : Role, row.content = Role.kind.encode role ∧ role.code = code

theorem SavedRow.hasCode_iff {code : String} {row : SavedRow} {role : Role}
    (h : row.content = Role.kind.encode role) : row.HasCode code ↔ role.code = code := by
  refine ⟨fun ⟨other, shown, same⟩ => ?_, fun same => ⟨role, h, same⟩⟩
  exact (Role.code_of_encode (h.symm.trans shown)).trans same

def Store.HasCode (code : String) (s : Store) : Prop :=
  ∃ key row, s.row? Role.kind.entityType key = some row ∧ row.HasCode code

namespace Store

variable {s : Store}

def Unused (code : String) (s : Store) : Prop :=
  ∀ row ∈ s.rows, row.entityType = Role.kind.entityType →
    Row.extract row.content "code" ≠ some (.text code)

theorem unused_save {supply : Supply} {author : Author} {e : Role} {code : String}
    (unused : s.Unused code) (apart : e.code ≠ code) :
    (s.save Role.kind supply author e).1.Unused code := by
  intro row hrow type
  rcases mem_rows_save hrow with old | ⟨x, hx, rfl⟩
  · exact unused row old type
  · intro same
    have shown : Row.extract (Role.kind.encode e) "code" = some (.text e.code) := rfl
    have codes := ((extract_saved Role.keeps_code hx).symm.trans same).symm.trans shown
    exact apart (Value.text.inj (Option.some.inj codes)).symm

theorem distinct_saveAll (supply : Supply) (roles : List Role)
    (apart : roles.Pairwise fun a b => a.code ≠ b.code) (h : s.Distinct Role.kind.entityType "code")
    (unused : ∀ role ∈ roles, s.Unused role.code) :
    (Seed.saveAll Role.kind supply roles s).1.Distinct Role.kind.entityType "code" := by
  -- On the roles that are still to be saved: none of their codes is used so far.
  induction roles generalizing s with
  | nil => exact h
  | cons e rest ih =>
    obtain ⟨apartHere, apartLater⟩ := List.pairwise_cons.1 apart
    let stamped := Role.kind.stamp Seed.author.actor supply.now e
    have next : (s.save Role.kind supply Seed.author stamped).1.Distinct Role.kind.entityType
        "code" := by
      refine h.save_over (fun _ => Role.keeps_code) supply Seed.author
        fun _ row hrow type v hv same _ => ?_
      cases same
      exact absurd hv (unused e List.mem_cons_self row hrow type)
    have later (role : Role) (hrole : role ∈ rest) :
        (s.save Role.kind supply Seed.author stamped).1.Unused role.code :=
      unused_save (unused role (List.mem_cons_of_mem _ hrole)) (apartHere role hrole)
    unfold Seed.saveAll
    split
    · next t _ saved =>
      rw [show s.save Role.kind supply Seed.author stamped = (t, _) from saved] at next later
      exact ih apartLater next later
    · next t _ failed =>
      rw [show s.save Role.kind supply Seed.author stamped = (t, _) from failed] at next
      exact next

theorem hasCode_changed_iff {t : Store} {id code : String} {row : SavedRow} {saved : Role}
    (here : s.row? Role.kind.entityType id = some row)
    (there : t.row? Role.kind.entityType id = some (Role.kind.row id saved))
    (others : ∀ key, key ≠ id →
      t.row? Role.kind.entityType key = s.row? Role.kind.entityType key)
    (once : row.HasCode code → ∀ key other, s.row? Role.kind.entityType key = some other →
      other.HasCode code → key = id) :
    (s.HasCode code → t.HasCode code) ↔ (row.HasCode code → saved.code = code) := by
  constructor
  · intro lasts shows
    obtain ⟨key, other, there', shows'⟩ := lasts ⟨id, row, here, shows⟩
    by_cases placed : key = id
    · subst placed
      cases there.symm.trans there'
      exact (SavedRow.hasCode_iff rfl).1 shows'
    · exact absurd (once shows key other ((others key placed).symm.trans there') shows') placed
  · rintro keeps ⟨key, other, here', shows⟩
    by_cases placed : key = id
    · subst placed
      cases here.symm.trans here'
      exact ⟨key, _, there, (SavedRow.hasCode_iff rfl).2 (keeps shows)⟩
    · exact ⟨key, other, (others key placed).trans here', shows⟩

end Store

namespace Web

variable {limits : PageLimits} {r : Registry} {code : String}

theorem distinct_perform {I E : Type} [Identifier I] [LawfulIdentifier I] [DecidableEq I]
    {d : Desk I E} (law : d.kind.Lawful) {supply : Supply} (sound : supply.IsSound) (caller : Caller)
    (job : Desk.Job E) {entityType column : String}
    (guarded : d.kind.entityType = entityType → d.kind.Keeps column ∧
      ∃ f ∈ d.kind.schema.declared, f.isUnique ∧ f.name = column)
    (kept : r.store.WellKept) (h : r.store.Distinct entityType column) :
    (d.perform supply caller job r).1.store.Distinct entityType column :=
  Registrar.Request.distinct_apply (q := { desk := d, law, supply, sound, caller, job }) guarded kept h

/-- No two roles have a code in common, at any time. -/
theorem Reached.distinct_codes (h : Reached limits r) :
    r.store.Distinct Role.kind.entityType "code" := by
  have declared : ∃ f ∈ Role.schema.declared, f.isUnique ∧ f.name = "code" := by decide
  have all : r.store.Kept ∧ r.store.Distinct Role.kind.entityType "code" := by
    refine h.induction (P := fun s => s.Kept ∧ s.Distinct Role.kind.entityType "code")
      ⟨kept_of_no_rows rfl, fun a ha => absurd ha List.not_mem_nil⟩
      (fun supply sound => ⟨kept_load sound (kept_of_no_rows rfl), ?_⟩) fun p r ⟨kept, h⟩ => ⟨kept_apply p kept, ?_⟩
    · refine load_stages (P := fun s => ∀ row ∈ s.rows, row.entityType ≠ Role.kind.entityType)
        (Q := fun s => s.Distinct Role.kind.entityType "code") ?_ ?_ ?_ ?_ ?_
      · intro d _ s noRole row hrow type
        rcases Store.mem_rows_save hrow with old | ⟨_, _, rfl⟩
        · exact noRole row old type
        · exact Department.entityType_ne_role type
      · intro s noRole
        exact Store.distinct_saveAll supply Seed.roles (by decide)
          (fun a ha _ _ typeA => absurd typeA (noRole a ha))
          fun _ _ row hrow type => absurd type (noRole row hrow)
      · intro u _ s h
        exact h.save_other User.entityType_ne_role supply Seed.author _
      · exact fun s noRole a ha _ _ typeA => absurd typeA (noRole a ha)
      · exact fun row hrow => absurd hrow List.not_mem_nil
    · refine p.carryOut_cases limits
        (P := fun action => (action r).1.store.Distinct Role.kind.entityType "code")
        (fun _ => h) ?_ ?_ ?_
      · intro order params _
        exact distinct_perform Department.kind_lawful p.sound p.caller _
          (fun type => absurd type Department.entityType_ne_role) kept.wellKept h
      · intro order params _
        exact distinct_perform Role.kind_lawful p.sound p.caller _
          (fun _ => ⟨Role.keeps_code, declared⟩) kept.wellKept h
      · intro job _ _ _
        exact distinct_perform User.kind_lawful p.sound p.caller _
          (fun type => absurd type User.entityType_ne_role) kept.wellKept h
  exact all.2

theorem Reached.key_of_code (h : Reached limits r) (notNan : ¬(Value.text code).IsNan)
    {key other : String} {row row' : SavedRow}
    (here : r.store.row? Role.kind.entityType key = some row) (shows : row.HasCode code)
    (there : r.store.row? Role.kind.entityType other = some row') (shows' : row'.HasCode code) :
    key = other := by
  have extract {row : SavedRow} (shows : row.HasCode code) :
      Row.extract row.content "code" = some (.text code) := by
    obtain ⟨role, shown, rfl⟩ := shows
    rw [shown]
    rfl
  obtain ⟨type, own⟩ := SavedRow.isAt_iff.1 (Store.isAt_of_row? here)
  obtain ⟨type', own'⟩ := SavedRow.isAt_iff.1 (Store.isAt_of_row? there)
  rw [← own, ← own']
  exact h.distinct_codes row (Store.mem_of_row? here) row' (Store.mem_of_row? there) type type' _
    (extract shows) (extract shows') notNan

/-- The post gives a role with the code another code. -/
def Posted.Renames (limits : PageLimits) (code : String) (p : Posted) (r : Registry) : Prop :=
  ∃ order params id row other, p.post = .order .role order params ∧ order ≠ .delete ∧
    Desk.requestId params = .ok (some id) ∧ r.store.row? Role.kind.entityType id = some row ∧
    row.HasCode code ∧ params.get? "code" = some other ∧ other ≠ code ∧
    ∃ outcome, (p.carryOut limits r).2 = .ok outcome

/-- The text that a new role would take as identifier is the key of none. -/
def Posted.IsFresh (p : Posted) (r : Registry) : Prop :=
  r.store.row? Role.kind.entityType (p.supply.textId (r.store.textIds + 1)) = none

section Turns

variable {supply : Supply} {order : Order} {params : Params} {caller : Caller} {t : Store}

theorem hasCode_saved {author : Author} {x saved : Role} {s : Store} (h : x.code = code)
    (saves : s.save Role.kind supply author x = (t, .ok saved)) : saved.code = code :=
  Store.stable_saved (P := fun role => role.code = code) ⟨fun _ _ h => h, fun _ _ h => h⟩
    Role.kind_lawful h saves

/-- A delete removes no role with a reserved code. -/
theorem hasCode_of_doDelete (kept : r.store.WellKept) (reserved : code ∈ Role.reservedCodes)
    {outcome : Outcome} (done : ((roles limits).doDelete supply params caller r).2 = .ok outcome)
    (h : r.store.HasCode code) :
    ((roles limits).doDelete supply params caller r).1.store.HasCode code := by
  obtain ⟨key, row, here, shows⟩ := h
  rcases (Desk.row?_doDelete (d := roles limits) Role.kind_lawful kept done).2 key with
    same | ⟨id, e, removes, rfl⟩
  · exact ⟨key, row, same.trans here, shows⟩
  · obtain ⟨_, there, decoded⟩ := Store.row_of_find? removes.found
    cases here.symm.trans there
    obtain ⟨role, shown, rfl⟩ := shows
    have free := Role.refuseDelete_eq_none.1 removes.allowed
    have isReserved : role.isReserved := List.contains_iff_mem.2 reserved
    rw [Role.isReserved_of_decode shown decoded, isReserved] at free
    cases free

theorem hasCode_of_served (reached : Reached limits r) (notNan : ¬(Value.text code).IsNan)
    (fresh : r.store.row? Role.kind.entityType (supply.textId (r.store.textIds + 1)) = none)
    {answer : Except Error Outcome}
    (served : (roles limits).Served supply caller params r.store t answer) :
    (r.store.HasCode code → t.HasCode code) ↔
      ¬∃ id row other, Desk.requestId params = .ok (some id) ∧
        r.store.row? Role.kind.entityType id = some row ∧ row.HasCode code ∧
        params.get? "code" = some other ∧ other ≠ code ∧ ∃ outcome, answer = .ok outcome := by
  have kept := reached.kept.wellKept
  cases served with
  | refused untouched fault =>
    refine ⟨fun _ ⟨_, _, _, _, _, _, _, _, answered⟩ => absurd answered not_answered_error,
      fun _ ⟨key, row, here, shows⟩ => ?_⟩
    exact ⟨key, row, (Store.row?_congr untouched.rows).trans here, shows⟩
  | @entered e x saved _ unnamed bound allowed prepared _ _ _ saves message =>
    cases prepared
    refine ⟨fun _ ⟨id, _, _, named, _⟩ => ?_, fun _ ⟨key, row, here, shows⟩ => ?_⟩
    · cases unnamed.symm.trans named
    · have own := (Store.key_saved Role.kind_lawful saves).1
        (Kind.isNew_bind Role.kind_lawful bound)
      refine ⟨key, row, ((Store.row?_saved Role.kind_lawful saves).2 key ?_).trans here, shows⟩
      rintro rfl
      rw [own] at here
      cases fresh.symm.trans here
  | @revised id drawn e x saved _ named found bound allowed prepared _ _ _ saves message =>
    have key : Role.kind.key saved = id := Desk.key_revised (d := roles limits) Role.kind_lawful
      roles_keepsId kept found bound prepared saves
    cases prepared
    have given := Role.code_bind bound
    obtain ⟨there, others⟩ := Store.row?_saved Role.kind_lawful saves
    rw [key] at there others
    obtain ⟨row, here, decoded⟩ := Store.row_of_find? found
    refine (Store.hasCode_changed_iff here there others fun shows key other here' shows' =>
      reached.key_of_code notNan here' shows' here shows).trans ⟨?_, fun stays shows => ?_⟩
    · rintro keeps ⟨id', row', other, named', here', shows, asked, differs, _⟩
      cases named.symm.trans named'
      cases here.symm.trans here'
      rw [asked] at given
      have code' : saved.code = other := hasCode_saved given saves
      exact differs (code'.symm.trans (keeps shows))
    · refine hasCode_saved ?_ saves
      have ⟨role, shown, same⟩ := shows
      rw [shown] at decoded
      rw [given]
      cases asked : params.get? "code" with
      | none => exact (Role.level_and_code_of_decode decoded).2.trans same
      | some other =>
        by_contra differs
        exact stays ⟨id, row, other, named, here, shows, asked, differs, _, rfl⟩

/-- A post loses a reserved code just if it gives the role that has it another one. -/
theorem hasCode_apply_iff (reached : Reached limits r) (reserved : code ∈ Role.reservedCodes)
    (p : Posted) (fresh : p.IsFresh r) :
    (r.store.HasCode code → (p.apply limits r).store.HasCode code) ↔ ¬p.Renames limits code r := by
  have kept := reached.kept.wellKept
  have noName (noChange : ¬p.Changes .role) : ¬p.Renames limits code r :=
    fun ⟨order, params, _, _, _, post, changes, _⟩ => noChange ⟨order, params, post, changes⟩
  cases p.turn .role (roles limits) Role.kind_lawful rfl (fun _ _ _ _ => rfl) nofun kept with
  | idle noChange same =>
    refine ⟨fun _ => noName noChange, fun _ ⟨key, row, there, shows⟩ => ?_⟩
    exact ⟨key, row, (same key).trans there, shows⟩
  | deleted noChange done after =>
    refine ⟨fun _ => noName noChange, fun _ h => ?_⟩
    rw [after]
    exact hasCode_of_doDelete kept reserved done h
  | @served order params post changes served =>
    refine (hasCode_of_served reached (Role.not_isNan_of_reserved reserved) fresh served).trans
      (not_congr ⟨?_, ?_⟩)
    · rintro ⟨id, row, other, rest⟩
      exact ⟨order, params, id, row, other, post, changes, rest⟩
    · rintro ⟨_, _, id, row, other, same, _, rest⟩
      cases post.symm.trans same
      exact ⟨id, row, other, rest⟩

end Turns

/-- Over a run of posts, a reserved code is a role's at all times after the first one just if no post
gives the role that has it another code: deletes never remove it, and creations never overwrite it. -/
theorem reserved_codes_last_iff {r : Registry} {posts : List Posted} (reached : Reached limits r)
    (reserved : code ∈ Role.reservedCodes)
    (fresh : Posted.Along limits Posted.IsFresh posts r) :
    (Posted.visited limits posts r).Pairwise
        (fun a b => a.store.HasCode code → b.store.HasCode code) ↔
      Posted.Along limits (fun p r => ¬p.Renames limits code r) posts r :=
  Posted.pairwise_visited_iff (P := fun r => r.store.HasCode code)
    (fun p _ reached fresh => hasCode_apply_iff reached reserved p fresh) reached fresh

/-- Whoever deletes the roles that can be deleted, and gives another one a name, leaves the code of the
administrators. -/
theorem administration_outlasts_deletes :
    Reached {} organisation ∧ "ROLE_ADMIN" ∈ Role.reservedCodes ∧
    Posted.Along {} Posted.IsFresh
      [ordering .role .delete [("ids", "t1,t3")],
        ordering .role .update [("id", "t2"), ("name", "Guests")]]
      organisation ∧
    (Posted.visited {} [ordering .role .delete [("ids", "t1,t3")],
        ordering .role .update [("id", "t2"), ("name", "Guests")]] organisation).Pairwise
      fun a b => a.store.HasCode "ROLE_ADMIN" → b.store.HasCode "ROLE_ADMIN" := by
  have reserved : "ROLE_ADMIN" ∈ Role.reservedCodes := by decide
  have fresh : Posted.Along {} Posted.IsFresh [ordering .role .delete [("ids", "t1,t3")],
      ordering .role .update [("id", "t2"), ("name", "Guests")]] organisation := by
    refine ⟨?_, ?_, trivial⟩ <;>
      exact Option.isNone_iff_eq_none.1 (by decide +kernel)
  refine ⟨reached_organisation, reserved, fresh,
    (reserved_codes_last_iff reached_organisation reserved fresh).2 ⟨?_, ?_, trivial⟩⟩
  · rintro ⟨_, _, _, _, _, same, other, _⟩
    cases same
    exact other rfl
  · rintro ⟨_, params, _, _, other, same, _, _, _, _, asked, _⟩
    cases same
    cases asked

/-- Whoever gives the role of the administrators another code leaves no role with the reserved one. -/
theorem administration_loses_code :
    Reached {} organisation ∧ "ROLE_ADMIN" ∈ Role.reservedCodes ∧
    Posted.Along {} Posted.IsFresh
      [ordering .role .update [("id", "t1"), ("code", "ROLE_X")]] organisation ∧
    ¬(Posted.visited {} [ordering .role .update [("id", "t1"), ("code", "ROLE_X")]]
      organisation).Pairwise
        fun a b => a.store.HasCode "ROLE_ADMIN" → b.store.HasCode "ROLE_ADMIN" := by
  have reserved : "ROLE_ADMIN" ∈ Role.reservedCodes := by decide
  have fresh : (ordering .role .update [("id", "t1"), ("code", "ROLE_X")]).IsFresh organisation :=
    Option.isNone_iff_eq_none.1 (by decide +kernel)
  refine ⟨reached_organisation, reserved, ⟨fresh, trivial⟩, fun lasts => ?_⟩
  have turn := List.rel_of_pairwise_cons lasts List.mem_cons_self
  have answered : ((ordering .role .update [("id", "t1"), ("code", "ROLE_X")]).carryOut {}
      organisation).2.isOk := by decide +kernel
  exact (hasCode_apply_iff reached_organisation reserved _ fresh).1 turn ⟨.update, _, "t1", _,
    "ROLE_X", rfl, nofun, rfl, row?_administration, ⟨administration, rfl, rfl⟩, rfl, by decide,
    answered_of_isOk answered⟩

end Web
end Registrar
