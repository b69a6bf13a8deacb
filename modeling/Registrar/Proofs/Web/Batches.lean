import Registrar.Proofs.Desk.Items
import Registrar.Proofs.Desk.Solitary
import Registrar.Proofs.Web.Legible

/-!
Deleting several records and setting the state of several users. Main statement: such a request goes item
by item, and of several malformed identifiers it names the first.
-/

namespace Registrar

namespace Identifier

/-- Identifiers that requests can name read back, and a token that is none is called malformed. -/
structure IsParsed (I : Type) [Identifier I] : Prop where
  readsBack {token : String} {id : I} : parse token = .ok id → ReadsBack id
  rejects {token : String} {fault : Error} : parse (I := I) token = .error fault →
    ∃ reason, fault = .malformedIdentifier token reason

theorem isParsed_text : IsParsed String where
  readsBack _ := rfl
  rejects h := by cases h

theorem isParsed_number : IsParsed Int where
  readsBack h := readsBack_int.2 (Number.fits_of_readSigned (parse_number_eq_ok_iff.1 h))
  rejects := malformed_of_parse

end Identifier

theorem User.isPlaced_of_encode {u v : User} (same : User.kind.encode u = User.kind.encode v)
    (placed : u.IsPlaced) : v.IsPlaced := by
  have code : some (Json.Value.ofOption .text u.code) = some (.ofOption .text v.code) :=
    congrArg (Json.Value.field? "aclCode") same
  have department : some (Json.Value.ofOption Reference.toValue u.department) =
      some (.ofOption Reference.toValue v.department) :=
    congrArg (Json.Value.field? "department") same
  have sameCode : u.code = v.code := by
    cases hu : u.code <;> cases hv : v.code <;> simp_all [Json.Value.ofOption]
  have sameDepartment : u.department = v.department :=
    Reference.ofOption_toValue_injective (Option.some.inj department)
  rw [User.IsPlaced, ← sameCode, ← sameDepartment]
  exact placed

theorem User.prepare_switched {u x : User} {caller : Caller} {enabled : Bool} (placed : u.IsPlaced)
    (h : User.prepare { u with enabled } caller = .ok x) : x = { u with enabled } := by
  rw [User.prepare_eq h, placed]

namespace Web

variable {limits : PageLimits} {r : Registry} {supply : Supply} {caller : Caller}

/-- A version stays below the number of saves, so that a store has room up to some 2 ^ 31 saves. -/
theorem Reached.hasRoom (reached : Reached limits r) (few : r.store.saves < 2147483648) :
    r.store.HasRoom := by
  intro row hrow
  have versions := reached.of_writes
    (P := fun s => ∀ row ∈ s.rows, 0 ≤ row.version ∧ row.version < (s.saves : Int)) (by simp)
    (fun w _ h => Store.versions_apply w h) row hrow
  have most : Number.maxInt32 = 2147483647 := rfl
  simp only [Number.fitsInt32, Bool.and_eq_true, decide_eq_true_eq]
  omega

/-- The row is gone. -/
def Deleted (_ : SavedRow) (new : Option SavedRow) : Prop := new = none

theorem itemByItem_doDelete {I E : Type} [Identifier I] [LawfulIdentifier I] [DecidableEq I]
    (d : Desk I E) (law : d.kind.Lawful) (parsed : Identifier.IsParsed I) {P : E → Prop}
    (legible : d.kind.Legible P) (kept : r.store.WellKept) (shows : r.store.Shows d.kind P)
    (room : r.store.HasRoom) (supply : Supply) (caller : Caller) :
    d.ItemByItem "Delete" (fun _ => True) (fun params => d.doDelete supply params caller)
      Deleted r := by
  refine (Desk.solitary_discard law kept supply caller).itemByItem kept.oneRowEach
    (fun _ _ => rfl) (fun _ _ h => parsed.rejects h)
    (fun _ _ h => kept.find?_of_shows law shows legible room (parsed.readsBack h))
    (fun e fault failed => ?_) (fun id e row found there done => ?_)
  · exact ((d.handles_discard supply caller e r ⟨.mutation, []⟩).untouched failed).1
  · exact Desk.row?_of_discard_ok law kept found there done

/-- The row shows the user with the state, in the next version. -/
def Switched (enabled : Bool) (row : SavedRow) (new : Option SavedRow) : Prop :=
  ∃ u : User, row.content = User.kind.encode u ∧
    new = some (User.kind.row row.key { u with enabled, version := row.version + 1 })

section States

variable (reached : ReachedInTime limits r) (room : r.store.HasRoom)

include reached room

theorem user_of_row {id : Int} {row : SavedRow} {u : User}
    (there : r.store.row? User.kind.entityType (Identifier.text id) = some row)
    (decoded : User.kind.decode row.content = .ok u) :
    row.content = User.kind.encode u ∧ u.Lasts ∧ u.IsPlaced ∧ u.id = some id ∧
      Number.fitsInt64 id := by
  have kept := reached.reached.kept.wellKept
  have hrow := Store.mem_of_row? there
  obtain ⟨shown, content, lasts, hid, version, _⟩ :=
    kept.of_row? User.kind_lawful reached.legible.users there
  rw [content] at decoded
  have sameId := LawfulIdentifier.ofOption_injective
    (User.kind_lawful.decode_id decoded (User.kind_lawful.field_id shown))
  have number := (User.fits_of_decode decoded).1 id (sameId.trans hid)
  have fits := (room row hrow).1
  rw [← version] at fits
  have same := User.legible shown lasts (fun i hi => by
    cases hid.symm.trans hi
    exact Identifier.readsBack_int.2 number) fits
  cases same.symm.trans decoded
  obtain ⟨other, content', placed⟩ :=
    reached.reached.placed row hrow (SavedRow.isAt_iff.1 (Store.isAt_of_row? there)).1
  exact ⟨content, lasts, User.isPlaced_of_encode (content'.symm.trans content) placed, hid, number⟩

/-- The guard of unique columns does not notice a user's state. -/
theorem gentle_state (enabled : Bool) :
    (users limits).Gentle (fun u => { u with enabled }) caller r.store := by
  intro id row u x there decoded prepared
  obtain ⟨content, lasts, placed, hid, number⟩ := user_of_row reached room there decoded
  cases User.prepare_switched placed prepared
  have fits := (room row (Store.mem_of_row? there)).2
  have next : User.kind.decode (User.kind.encode { u with enabled, version := row.version + 1 }) =
      .ok { u with enabled, version := row.version + 1 } :=
    User.legible _ lasts (fun i hi => by
      cases hid.symm.trans hi
      exact Identifier.readsBack_int.2 number) fits
  refine ⟨rfl, (SavedRow.isAt_iff.1 (Store.isAt_of_row? there)).1.symm,
    fun {f} _ declared unique => ?_, fun _ => ?_⟩
  · have guarded : f ∈ (users limits).kind.schema.declared.filter Field.isUnique :=
      List.mem_filter.2 ⟨declared, unique⟩
    have only : (users limits).kind.schema.declared.filter Field.isUnique = [User.signinField] := rfl
    rw [only, List.mem_singleton] at guarded
    rw [guarded, content]
    rfl
  · exact (congrArg (Except.map User.kind.id) (Store.read_eq_ok_iff.2 next)).trans
      (congrArg (Except.map User.kind.id) (Store.read_eq_ok_iff.2 decoded)).symm

theorem itemByItem_doState (supply : Supply) (caller : Caller) (enabled : Bool) :
    (users limits).ItemByItem (if enabled then "Enable" else "Disable")
      (fun params => User.wantedState params = .ok enabled)
      (fun params => User.doState (users limits) supply params caller) (Switched enabled) r := by
  have kept := reached.reached.kept.wellKept
  let event := if enabled then "do-state-enable" else "do-state-disable"
  refine (Desk.solitary_amend User.kind_lawful kept supply ⟨caller, event⟩
    (gentle_state reached room enabled)).itemByItem kept.oneRowEach (fun params asked => ?_)
    (fun _ _ h => Identifier.isParsed_number.rejects h)
    (fun _ _ h => kept.find?_of_shows User.kind_lawful reached.legible.users User.legible room
      (Identifier.isParsed_number.readsBack h))
    (fun u fault failed => ?_) (fun id u row found there done => ?_)
  · cases enabled <;> simp only [User.doState, asked] <;> rfl
  · exact (((users limits).handles_amend supply caller u r "" event (fun u => { u with enabled })
      ⟨.mutation, []⟩).untouched failed).1
  · obtain ⟨_, there', decoded⟩ := Store.row_of_find? found
    cases Option.some.inj (there.symm.trans there')
    obtain ⟨content, _, placed, _⟩ := user_of_row reached room there decoded
    obtain ⟨x, prepared, after⟩ := Desk.row?_of_amend_ok User.kind_lawful kept found
      (fun x prepared => by rw [User.prepare_switched placed prepared]; rfl) there done
    refine ⟨u, content, ?_⟩
    rw [User.prepare_switched placed prepared] at after
    rw [(SavedRow.isAt_iff.1 (Store.isAt_of_row? there)).2]
    exact after

end States

/-- Deletes of departments, roles and users and changes of the state of users go item by item: a record
fails in a batch exactly when a request for it alone fails, with the same message, the rows of the others
are deleted or show the state, and all further rows stay. The first of several malformed identifiers is
the one that is refused. -/
theorem batches_go_item_by_item {r : Registry} (reached : ReachedInTime limits r)
    (room : r.store.HasRoom) (supply : Supply) (caller : Caller) :
    (departments limits).ItemByItem "Delete" (fun _ => True)
      (fun params => (departments limits).doDelete supply params caller) Deleted r ∧
    (roles limits).ItemByItem "Delete" (fun _ => True)
      (fun params => (roles limits).doDelete supply params caller) Deleted r ∧
    (users limits).ItemByItem "Delete" (fun _ => True)
      (fun params => (users limits).doDelete supply params caller) Deleted r ∧
    ∀ enabled, (users limits).ItemByItem (if enabled then "Enable" else "Disable")
      (fun params => User.wantedState params = .ok enabled)
      (fun params => User.doState (users limits) supply params caller) (Switched enabled) r := by
  have kept := reached.reached.kept.wellKept
  have legible := reached.legible
  refine ⟨?_, ?_, ?_, itemByItem_doState reached room supply caller⟩
  · exact itemByItem_doDelete (departments limits) Department.kind_lawful Identifier.isParsed_text
      Department.legible kept legible.departments room supply caller
  · exact itemByItem_doDelete (roles limits) Role.kind_lawful Identifier.isParsed_text
      Role.legible kept legible.roles room supply caller
  · exact itemByItem_doDelete (users limits) User.kind_lawful Identifier.isParsed_number
      User.legible kept legible.users room supply caller

theorem organisation_hasRoom : organisation.store.HasRoom :=
  reached_organisation.hasRoom (by decide +kernel)

/-- Of two roles that the deputy wants to delete, the reserved one stays. -/
theorem deputy_deletes_item_by_item :
    ReachedInTime {} organisation ∧ organisation.store.HasRoom ∧
    (∃ outcome, ((roles {}).doDelete numbering ⟨.mutation, [("ids", "t1,t3")]⟩ deputy
      organisation).2 = .ok outcome ∧ outcome.type = .warning) ∧
    (roles {}).ItemByItem "Delete" (fun _ => True)
      (fun params => (roles {}).doDelete numbering params deputy) Deleted organisation :=
  ⟨organisation_in_time, organisation_hasRoom, ⟨_, rfl, rfl⟩,
    (batches_go_item_by_item organisation_in_time organisation_hasRoom numbering deputy).2.1⟩

/-- Of two malformed identifiers the one that comes first is named. -/
theorem order_of_malformed_shows :
    ReachedInTime {} organisation ∧
    (∀ t, t ∈ Identifier.split ["y,x"] ↔ t ∈ Identifier.split ["x,y"]) ∧
    ((users {}).doDelete numbering ⟨.mutation, [("ids", "x,y")]⟩ deputy organisation).2 =
      .error (.malformedIdentifier "x" "invalid digit found in string") ∧
    ((users {}).doDelete numbering ⟨.mutation, [("ids", "y,x")]⟩ deputy organisation).2 =
      .error (.malformedIdentifier "y" "invalid digit found in string") := by
  have first : Identifier.split ["x,y"] = ["x", "y"] := by decide +kernel
  have second : Identifier.split ["y,x"] = ["y", "x"] := by decide +kernel
  refine ⟨organisation_in_time, fun t => ?_, rfl, rfl⟩
  rw [first, second]
  simp [or_comm]

end Web
end Registrar
