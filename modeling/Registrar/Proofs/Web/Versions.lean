import Registrar.Proofs.Desk.Versions
import Registrar.Proofs.Web.Disclosure
import Registrar.Proofs.Web.Orderly
import Registrar.Proofs.Web.Taken

/-!
Versions that requests carry. Main statement: a request that would be served with the version of the stored
record is served if it has that version, and otherwise refused as a conflict, with rows and revisions as they
were.
-/

namespace Registrar

open Json

theorem User.prepare_setVersion (n : Int) (u : User) (caller : Caller) :
    prepare (kind.setVersion n u) caller = (prepare u caller).map (kind.setVersion n) := by
  unfold prepare
  dsimp only [kind]
  split <;> split <;> rfl

namespace Desk

variable {I E : Type} [Identifier I] {d : Desk I E} {params : Params} {caller : Caller} {s : Store}

theorem working_of_found {id : I} {drawn e : E} (named : requestId params = .ok (some id))
    (found : s.find? d.kind id = .ok (some drawn)) (permitted : d.policy.permit drawn caller = .ok ())
    (bound : d.kind.bind params drawn = .ok e) : d.working params caller s = .ok e := by
  simp only [working, Desk.named, named, Store.get, found, Except.map, fill, permitted, bound,
    Option.getD_some]

theorem requestId_withVersion (params : Params) (n : Int) :
    requestId (I := I) (params.withVersion n) = requestId params := by
  rw [requestId, requestId, Params.get?_withVersion_of_ne (by decide)]

end Desk

namespace Web

variable {limits : PageLimits} {supply : Supply} {order : Order} {params : Params} {caller : Caller}
variable {r : Registry} {v : Int}

section Orders

variable {I E : Type} [Identifier I] [LawfulIdentifier I] [DecidableEq I] {d : Desk I E}

omit [LawfulIdentifier I] in
theorem carryOut_eq_report (d : Desk I E) (supply : Supply) (caller : Caller)
    (changes : order = .update ∨ order = .save) :
    ∃ message change, (∀ params, carryOut d supply order params caller =
      d.report message params caller change) ∧
      ∀ e, d.kind.isNew e = false → change e = d.update supply ⟨caller, order.event⟩ e := by
  rcases changes with rfl | rfl
  · exact ⟨"Updated", _, fun _ => rfl, fun e known => if_neg (Bool.eq_false_iff.1 known)⟩
  · exact ⟨"Saved", _, fun _ => rfl, fun e known => if_neg (Bool.eq_false_iff.1 known)⟩

/-- What becomes of a request with a version that would be served with the version of the row. -/
theorem carryOut_carrying (law : d.kind.Lawful) (unversioned : d.Unversioned) (keeps : d.KeepsId)
    (rules : r.rules.Knows d.kind.schema) (kept : r.store.WellKept)
    (changes : order = .update ∨ order = .save) {id : I}
    (named : Desk.requestId params = .ok (some id)) {row : SavedRow}
    (there : r.store.row? d.kind.entityType (Identifier.text id) = some row)
    (carries : params.Carries v)
    (current : ∃ outcome,
      (carryOut d supply order (params.withVersion row.version) caller r).2 = .ok outcome) :
    (v = row.version → ∃ after message,
      (carryOut d supply order params caller r).2 =
        .ok (.success message (some after.content)) ∧
      (carryOut d supply order params caller r).1.store.row? d.kind.entityType
        (Identifier.text id) = some after ∧ after.version = v + 1) ∧
    (v ≠ row.version → (carryOut d supply order params caller r).2 =
      .error (.modified d.kind.entityType (Identifier.text id) v row.version)) := by
  obtain ⟨message, change, reported, updates⟩ := carryOut_eq_report d supply caller changes
  obtain ⟨outcome, done⟩ := current
  rw [reported] at done ⊢
  rcases d.report_cases message (params.withVersion row.version) caller change r with
    ⟨fault, refused⟩ | ⟨e, worked, result⟩
  · rw [refused] at done
    cases done
  · obtain ⟨drawn, permitted, bound, ⟨unnamed, _⟩ | ⟨id', named', found⟩⟩ := d.working_cases worked
    · rw [Desk.requestId_withVersion, named] at unnamed
      cases unnamed
    · rw [Desk.requestId_withVersion, named] at named'
      cases named'
      obtain ⟨hid, known⟩ := kept.known_of_find? law found
      have own := (Kind.id_bind law bound).trans hid
      have stillKnown := (Kind.isNew_bind law bound).trans known
      have revised := Desk.working_of_found named found permitted
        (unversioned.bind known carries bound)
      have sameKnown : d.kind.isNew (d.kind.setVersion v e) = false := by
        rw [Kind.isNew, law.id_setVersion]
        exact stillKnown
      rw [result, updates e stillKnown] at done
      obtain ⟨saved, updated, _⟩ := of_map_eq_ok done
      obtain ⟨fresh, stale⟩ := unversioned.update law keeps rules own stillKnown there
        ⟨saved, updated⟩ (v := v)
      unfold Desk.report
      rw [revised]
      dsimp only
      rw [updates _ sameKnown]
      refine ⟨fun same => ?_, fun other => ?_⟩
      · obtain ⟨next, answer, version, shown⟩ := fresh same
        exact ⟨_, message, by rw [answer]; rfl, shown, version⟩
      · rw [stale other]
        rfl

end Orders

theorem departments_unversioned : (departments limits).Unversioned where
  binds := by
    show Field.version ∈ Department.schema.bindable false
    decide
  sole :=
    have sole : ∀ f ∈ Department.schema.bindable false, f.parameter = "version" →
        f.name = "version" := by decide
    sole
  distinct :=
    have distinct : (Department.schema.bindable false).Pairwise fun f g => f.name ≠ g.name := by
      decide
    distinct
  decode revises _ h := Department.decode_revises revises h
  free := Department.ruled.version
  keeps f declared unique := by
    rw [departments_column.alone f declared unique]
    exact Department.kind_lawful.keeps "code" [] (by decide) (by decide) (by decide)
  refuseUpdate _ _ _ := rfl
  prepare {n e x caller} h := by
    cases h
    refine congrArg Except.ok ?_
    show (if Department.kind.isNew e && e.code != "" then _ else _) = _
    split <;> rfl

theorem roles_unversioned : (roles limits).Unversioned where
  binds := by
    show Field.version ∈ Role.schema.bindable false
    decide
  sole :=
    have sole : ∀ f ∈ Role.schema.bindable false, f.parameter = "version" →
        f.name = "version" := by decide
    sole
  distinct :=
    have distinct : (Role.schema.bindable false).Pairwise fun f g => f.name ≠ g.name := by decide
    distinct
  decode revises _ h := Role.decode_revises revises h
  free := Role.ruled.version
  keeps f declared unique := by
    rw [roles_column.alone f declared unique]
    exact Role.kind_lawful.keeps "code" [] (by decide) (by decide) (by decide)
  refuseUpdate _ _ _ := rfl
  prepare h := by
    cases h
    rfl

theorem users_unversioned : (users limits).Unversioned where
  binds := by
    show Field.version ∈ User.schema.bindable false
    decide
  sole :=
    have sole : ∀ f ∈ User.schema.bindable false, f.parameter = "version" →
        f.name = "version" := by decide
    sole
  distinct :=
    have distinct : (User.schema.bindable false).Pairwise fun f g => f.name ≠ g.name := by decide
    distinct
  decode revises _ h := User.decode_revises revises h
  free := User.ruled.version
  keeps f declared unique := by
    rw [users_column.alone f declared unique]
    exact User.kind_lawful.keeps "signinid" [] (by decide) (by decide) (by decide)
  refuseUpdate _ _ _ := rfl
  prepare {n e x caller} h := by
    have prepared : User.prepare e caller = .ok x := h
    refine (User.prepare_setVersion n e caller).trans ?_
    rw [prepared]
    rfl

/-- What becomes of an update with a version that would be served with the version of the row: with that
version it is served, the row gets the next one, and the answer shows the row; with any other version it is
refused as a conflict, and rows and revisions stay. -/
theorem version_decides {place : Section} {key : String} {row : SavedRow}
    (reached : Reached limits r) (changes : order = .update ∨ order = .save)
    (named : place.Names params key) (there : r.store.row? place.name key = some row)
    (carries : params.Carries v)
    (current : ∃ outcome,
      (orderAt limits supply place order (params.withVersion row.version) caller r).2 =
        .ok outcome) :
    (v = row.version → ∃ after message,
      (orderAt limits supply place order params caller r).2 =
        .ok (.success message (some after.content)) ∧
      (orderAt limits supply place order params caller r).1.store.row? place.name key =
        some after ∧ after.version = v + 1) ∧
    (v ≠ row.version → ∃ fault,
      (orderAt limits supply place order params caller r).2 = .error fault ∧
      fault = .modified place.name key v row.version ∧ fault.category = .conflict ∧
      r.store.Untouched (orderAt limits supply place order params caller r).1.store) := by
  have kept := reached.kept.wellKept
  have untouched {I E : Type} [Identifier I] [DecidableEq I] (d : Desk I E) {fault : Error}
      (refused : (carryOut d supply order params caller r).2 = .error fault) :
      r.store.Untouched (carryOut d supply order params caller r).1.store := by
    rw [carryOut_eq_perform] at refused ⊢
    exact d.untouched_perform fun outcome answered => by cases refused.symm.trans answered
  cases place with
  | department =>
    obtain ⟨id, named, rfl⟩ := named
    obtain ⟨fresh, stale⟩ := carryOut_carrying Department.kind_lawful departments_unversioned
      departments_keepsId reached.departments_orderly.known kept changes named there carries current
    exact ⟨fresh, fun other => ⟨_, stale other, rfl, rfl, untouched _ (stale other)⟩⟩
  | role =>
    obtain ⟨id, named, rfl⟩ := named
    obtain ⟨fresh, stale⟩ := carryOut_carrying Role.kind_lawful roles_unversioned
      roles_keepsId reached.roles_orderly.known kept changes named there carries current
    exact ⟨fresh, fun other => ⟨_, stale other, rfl, rfl, untouched _ (stale other)⟩⟩
  | user =>
    obtain ⟨id, named, rfl⟩ := named
    obtain ⟨fresh, stale⟩ := carryOut_carrying User.kind_lawful users_unversioned
      users_keepsId reached.users_orderly.known kept changes named there carries current
    exact ⟨fresh, fun other => ⟨_, stale other, rfl, rfl, untouched _ (stale other)⟩⟩

def retitling (version : String) : Params :=
  ⟨.mutation, [("id", "D10"), ("name", "Main office"), ("version", version)]⟩

/-- The headquarters are as they were first saved: the name reaches them with version 0, not with 3. -/
theorem headquarters_renamed :
    (∃ after message,
      (orderAt {} numbering .department .update (retitling " 0 ") deputy organisation).2 =
        .ok (.success message (some after.content)) ∧
      (orderAt {} numbering .department .update (retitling " 0 ") deputy organisation).1.store.row?
        "department" "D10" = some after ∧ after.version = 1) ∧
    ∃ fault,
      (orderAt {} numbering .department .update (retitling "3") deputy organisation).2 =
        .error fault ∧ fault = .modified "department" "D10" 3 0 ∧ fault.category = .conflict ∧
      organisation.store.Untouched
        (orderAt {} numbering .department .update (retitling "3") deputy organisation).1.store := by
  obtain ⟨row, there⟩ : ∃ row, organisation.store.row? "department" "D10" = some row :=
    Option.isSome_iff_exists.1 (by decide +kernel)
  have first : row.version = 0 := by
    have version : (organisation.store.row? "department" "D10").map SavedRow.version = some 0 := by
      decide +kernel
    rw [there] at version
    exact Option.some.inj version
  have served (text : String) (h : (orderAt {} numbering .department .update
      ((retitling text).withVersion 0) deputy organisation).2.isOk) : ∃ outcome,
      (orderAt {} numbering .department .update ((retitling text).withVersion row.version) deputy
        organisation).2 = .ok outcome := by
    rw [first]
    exact answered_of_isOk h
  have named (text : String) : Section.department.Names (retitling text) "D10" := ⟨"D10", rfl, rfl⟩
  refine ⟨?_, ?_⟩
  · exact (version_decides (v := 0) reached_organisation (.inl rfl) (named " 0 ") there
      ⟨" 0 ", rfl, rfl, rfl⟩ (served " 0 " (by decide +kernel))).1 first.symm
  · have refused := (version_decides (v := 3) reached_organisation (.inl rfl) (named "3") there
      ⟨"3", rfl, rfl, rfl⟩ (served "3" (by decide +kernel))).2 (by rw [first]; decide)
    rwa [first] at refused

end Web
end Registrar
