import Registrar.Proofs.Desk.Naming
import Registrar.Proofs.Web.Batches
import Registrar.Proofs.Web.Forest
import Registrar.Proofs.Web.Levels

/-!
New records and their names. The identifier of a new role is a text that comes from outside, that of a user
the number of the save, and that of a department the code, as the client writes it. Main statement: whoever
has added a role or a user gets to it by the identifier that the answer shows, in views and updates, and
deletes it by that and nothing else, unless it is a role with a reserved code; with a department views and
updates do so just if its code is trimmed and has no minus in front, and deletes just if it is trimmed and
has no comma.
-/

namespace Registrar

open Json

/-- Texts for new identifiers are made of 32 hexadecimal digits. -/
def Supply.IsHex (supply : Supply) : Prop :=
  ∀ n, (supply.textId n).length = 32 ∧ ∀ c ∈ (supply.textId n).toList, c ∈ "0123456789abcdef".toList

theorem Supply.IsHex.names {supply : Supply} (hex : supply.IsHex) (n : Nat) :
    Text.NamesOne (supply.textId n) ∧ Text.NamesListed (supply.textId n) := by
  have plain : "0123456789abcdef".toList.all fun c =>
      !Text.isBlank c && c != '-' && c != ',' := by decide
  obtain ⟨length, from_⟩ := hex n
  refine Text.names_of_plain (fun empty => ?_) fun c hc => ?_
  · rw [empty] at length
    cases length
  · simpa [and_assoc] using List.all_eq_true.1 plain c (from_ c hc)

theorem Store.found_saved {I E : Type} [Identifier I] [LawfulIdentifier I] {k : Kind I E} {P : E → Prop}
    (law : k.Lawful) (legible : k.Legible P) {s t : Store} (kept : t.WellKept) (shows : t.Shows k P)
    (room : s.HasRoom) {supply : Supply} {author : Author} {e saved : E}
    (saves : s.save k supply author e = (t, .ok saved)) {id : I}
    (key : k.key saved = Identifier.text id) (reads : Identifier.ReadsBack id) :
    ∃ x, k.encode x = k.encode saved ∧ Row.textAt (k.encode saved) "id" = Identifier.text id ∧
      t.find? k id = .ok (some x) := by
  have there := (row?_saved law saves).1
  have answer : (s.save k supply author e).2 = .ok saved := congrArg Prod.snd saves
  rw [key] at there
  obtain ⟨x, content, hx, own, version, _⟩ := kept.of_row? law shows there
  have fits : Number.fitsInt32 (k.version saved) := by
    rcases row?_save_cases law supply author e s k.entityType (k.key saved) with
      ⟨_, apart⟩ | ⟨_, done, _, _, _, next, _⟩
    · exact absurd ⟨rfl, rfl⟩ (apart saved answer)
    · cases answer.symm.trans done
      rw [next]
      cases before : s.row? k.entityType (k.key saved) with
      | none => decide
      | some old => exact (room old (mem_of_row? before)).2
  have decoded : k.decode (k.row (Identifier.text id) saved).content = .ok x := by
    rw [content]
    exact legible x hx (fun i hi => by cases own.symm.trans hi; exact reads) (by rw [version]; exact fits)
  have same : k.encode x = k.encode saved := content.symm
  refine ⟨x, same, ?_, ?_⟩
  · rw [← same]
    exact law.textAt_encode own
  · simp only [find?, there, read_eq_ok_iff.2 decoded, Except.map]

namespace Web

variable {limits : PageLimits} {r : Registry} {supply : Supply} {order : Order} {params : Params}
variable {caller : Caller} {outcome : Outcome}

section Orders

variable {I E : Type} [Identifier I] [LawfulIdentifier I] [DecidableEq I] {d : Desk I E}

theorem unnamed_of_asksNew (law : d.kind.Lawful) (kept : r.store.WellKept)
    (asks : order.AsksNew I params)
    (done : (carryOut d supply order params caller r).2 = .ok outcome) :
    Desk.requestId (I := I) params = .ok none := by
  rcases asks with rfl | ⟨_, unnamed⟩
  · have done : (d.doCreate supply params caller r).2 = .ok outcome := done
    obtain ⟨e, saved, worked, answer, _⟩ := d.of_report_ok done
    obtain ⟨drawn, bound, ⟨unnamed, _⟩ | ⟨id, _, found⟩⟩ := d.of_working worked
    · exact unnamed
    · -- The record that the request names is not new, and so it is refused.
      have known := (Kind.isNew_bind law bound).trans (kept.known_of_find? law found).2
      rw [if_neg (Bool.eq_false_iff.1 known)] at answer
      cases answer
  · exact unnamed

theorem saved_of_asksNew (law : d.kind.Lawful) (kept : r.store.WellKept)
    (blank : d.kind.isNew d.kind.blank) (asks : order.AsksNew I params)
    (done : (carryOut d supply order params caller r).2 = .ok outcome) :
    ∃ e x saved author message, Desk.requestId (I := I) params = .ok none ∧
      d.kind.bind params d.kind.blank = .ok e ∧ d.policy.prepare e caller = .ok x ∧
      r.store.save d.kind supply author (d.kind.stamp caller.userId supply.now x) =
        ((carryOut d supply order params caller r).1.store, .ok saved) ∧
      outcome = .success message (some (d.kind.encode saved)) := by
  have unnamed := unnamed_of_asksNew law kept asks done
  have changes : order ≠ .delete := by
    rintro rfl
    rcases asks with asks | ⟨asks, _⟩ <;> cases asks
  have served : d.Served supply caller params r.store (carryOut d supply order params caller r).1.store
      (carryOut d supply order params caller r).2 := served_carryOut law kept blank changes
  generalize (carryOut d supply order params caller r).1.store = t at served ⊢
  rw [done] at served
  cases served with
  | entered _ bound allowed prepared checked saves message =>
    exact ⟨_, _, _, _, message, unnamed, bound, prepared, saves, rfl⟩
  | revised named =>
    cases unnamed.symm.trans named

/-- The record that an answered order for a new record has saved is found under the identifier that the
answer shows, with the data of the answer. -/
theorem found_of_asksNew {P : E → Prop} {id : I} (law : d.kind.Lawful)
    (kept : r.store.WellKept) (blank : d.kind.isNew d.kind.blank) (legible : d.kind.Legible P)
    (keptAfter : (carryOut d supply order params caller r).1.store.WellKept)
    (shows : (carryOut d supply order params caller r).1.store.Shows d.kind P)
    (room : r.store.HasRoom) (reads : Identifier.ReadsBack id) (asks : order.AsksNew I params)
    (done : (carryOut d supply order params caller r).2 = .ok outcome)
    (own : ∀ {e x saved author}, Desk.requestId (I := I) params = .ok none →
      d.kind.bind params d.kind.blank = .ok e → d.policy.prepare e caller = .ok x →
      r.store.save d.kind supply author (d.kind.stamp caller.userId supply.now x) =
        ((carryOut d supply order params caller r).1.store, .ok saved) →
      d.kind.key saved = Identifier.text id) :
    ∃ data x, outcome.data = some data ∧ Row.textAt data "id" = Identifier.text id ∧
      d.kind.encode x = data ∧
      (carryOut d supply order params caller r).1.store.find? d.kind id = .ok (some x) := by
  obtain ⟨e, x, saved, author, message, unnamed, bound, prepared, saves, rfl⟩ :=
    saved_of_asksNew law kept blank asks done
  obtain ⟨shown, same, key, found⟩ := Store.found_saved law legible keptAfter shows room saves
    (own unnamed bound prepared saves) reads
  exact ⟨_, shown, rfl, key, same, found⟩

end Orders

theorem role_key_entered {t : Store} {author : Author} {e x saved : Role}
    (bound : Role.kind.bind params Role.kind.blank = .ok e)
    (prepared : (roles limits).policy.prepare e caller = .ok x)
    (saves : r.store.save Role.kind supply author (Role.kind.stamp caller.userId supply.now x) =
      (t, .ok saved)) :
    Role.kind.key saved = supply.textId (r.store.textIds + 1) := by
  have new : Role.kind.isNew (Role.kind.stamp caller.userId supply.now x) := by
    cases prepared
    exact (Kind.isNew_bind Role.kind_lawful bound).trans rfl
  exact (Store.key_saved Role.kind_lawful saves).1 new

theorem user_key_entered {t : Store} {author : Author} {e x saved : User}
    (bound : User.kind.bind params User.kind.blank = .ok e)
    (prepared : (users limits).policy.prepare e caller = .ok x)
    (saves : r.store.save User.kind supply author (User.kind.stamp caller.userId supply.now x) =
      (t, .ok saved)) :
    User.kind.key saved = Identifier.text ((r.store.saves + 1 : Nat) : Int) := by
  have sameId : x.id = e.id := User.id_of_prepare prepared
  have unset : e.id = none := Kind.id_bind User.kind_lawful bound
  have new : User.kind.isNew (User.kind.stamp caller.userId supply.now x) := by
    simp [Kind.isNew, User.kind, sameId, unset]
  exact (Store.key_saved User.kind_lawful saves).1 new

/-- Views and updates that name the key get to the record of the section with this data. -/
def Section.Reaches (limits : PageLimits) (r : Registry) (caller : Caller) (key : String)
    (data : Value) : Section → Prop
  | .department => ∃ d, Department.kind.encode d = data ∧ (departments limits).Reaches r caller key d
  | .role => ∃ role, Role.kind.encode role = data ∧ (roles limits).Reaches r caller key role
  | .user => ∃ u, User.kind.encode u = data ∧ (users limits).Reaches r caller key u

/-- Deletes that name the key take away the record of the section under it and nothing else. -/
def Section.Deletes (limits : PageLimits) (r : Registry) (caller : Caller) (key : String) :
    Section → Prop
  | .department => (departments limits).Deletes r caller key
  | .role => (roles limits).Deletes r caller key
  | .user => (users limits).Deletes r caller key

/-- The record of the section with this data is never deleted, which are the roles with a reserved code. -/
def Section.Protects (data : Value) : Section → Prop
  | .role => Row.textAt data "code" ∈ Role.reservedCodes
  | _ => False

/-- What becomes of the requests that name a record of the section, with this data, by the key. -/
structure Section.Answers (limits : PageLimits) (r : Registry) (caller : Caller) (key : String)
    (data : Value) (place : Section) : Prop where
  reaches : place.Reaches limits r caller key data ↔ Text.NamesOne key
  deletes : place.Deletes limits r caller key ↔ Text.NamesListed key ∧ ¬place.Protects data
  spares : place.Protects data → (roles limits).Spares r caller key
  drawn : place ≠ .department → Text.NamesOne key ∧ Text.NamesListed key

theorem Role.refuseDelete_of_encode {role : Role} {data : Value} (same : Role.kind.encode role = data)
    (caller : Caller) : Role.policy.refuseDelete role caller = none ↔
      Row.textAt data "code" ∉ Role.reservedCodes := by
  subst same
  have code : Row.textAt (Role.kind.encode role) "code" = role.code := rfl
  rw [Role.refuseDelete_eq_none, code, Role.isReserved, ← Bool.not_eq_true, List.contains_iff_mem]

/-- Whoever has added a role or a user gets to it by the identifier that the answer shows: a view shows the
data of the answer, an update works on the record, and a delete takes it away and nothing else, unless it
is a role with a reserved code. For a department this holds as far as the requests read its code as it
stands. -/
theorem new_records_reached {p : Posted} {place : Section} (reached : ReachedInTime limits r)
    (room : r.store.HasRoom) (number : Number.fitsInt64 (r.store.saves + 1 : Nat))
    (timely : p.supply.IsTimely) (hex : p.supply.IsHex) (post : p.post = .order place order params)
    (asks : place.AsksNew order params) (done : (p.carryOut limits r).2 = .ok outcome) :
    ∃ data, outcome.data = some data ∧ ∀ anyone : Caller, anyone.isRestricted = false →
      place.Answers limits (p.apply limits r) anyone (Row.textAt data "id") data := by
  have before := reached.reached.kept.wellKept
  have kept : (p.apply limits r).store.WellKept := (kept_apply p reached.reached.kept).wellKept
  have legible : Legible (p.apply limits r).store := legible_apply p timely reached.legible
  obtain ⟨supply, sound, caller, _⟩ := p
  cases post
  cases place with
  | department =>
    obtain ⟨data, d, shown, own, same, found⟩ := found_of_asksNew (d := departments limits)
      Department.kind_lawful before rfl Department.legible kept legible.departments room rfl asks done
      key_entered
    refine ⟨data, shown, fun anyone free => ?_⟩
    rw [own]
    refine ⟨?_, ?_, False.elim, fun other => absurd rfl other⟩
    · subst same
      exact Desk.reaches_text_iff (d := departments limits) Department.kind_lawful kept found rfl
        departments_keepsId rfl
    · refine (Desk.deletes_text_iff (d := departments limits) Department.kind_lawful kept found rfl
        supply).trans (and_congr_right fun _ => ?_)
      exact ⟨fun _ => id, fun _ => rfl⟩
  | role =>
    obtain ⟨data, role, shown, own, same, found⟩ := found_of_asksNew (d := roles limits)
      Role.kind_lawful before rfl Role.legible kept legible.roles room rfl asks done
      fun _ => role_key_entered
    have names := hex.names (r.store.textIds + 1)
    refine ⟨data, shown, fun anyone free => ?_⟩
    rw [own]
    refine ⟨?_, ?_, fun reserved => ?_, fun _ => names⟩
    · subst same
      exact Desk.reaches_text_iff (d := roles limits) Role.kind_lawful kept found rfl roles_keepsId rfl
    · exact (Desk.deletes_text_iff (d := roles limits) Role.kind_lawful kept found rfl supply).trans
        (and_congr_right fun _ => Role.refuseDelete_of_encode same anyone)
    · obtain ⟨refusal, refused⟩ := Option.ne_none_iff_exists'.1 fun allowed =>
        (Role.refuseDelete_of_encode same anyone).1 allowed reserved
      exact Desk.spares_of_found (d := roles limits) Role.kind_lawful kept found rfl
        (Identifier.parseAll_of_names names.2 rfl) refused
  | user =>
    obtain ⟨data, u, shown, own, same, found⟩ := found_of_asksNew (d := users limits)
      User.kind_lawful before rfl User.legible kept legible.users room
      (Identifier.readsBack_int.2 number) asks done fun _ => user_key_entered
    have names := Number.names_natText (r.store.saves + 1)
    obtain ⟨parsed, isSet⟩ := Identifier.parse_natText (Nat.succ_pos r.store.saves) number
    refine ⟨data, shown, fun anyone free => ?_⟩
    have permitted : User.permit u anyone = .ok () := by simp [User.permit, free]
    rw [own]
    refine ⟨iff_of_true ⟨u, same, ?_⟩ names.1, iff_of_true ?_ ⟨names.2, id⟩, False.elim, fun _ => names⟩
    · exact Desk.reaches_of_found (d := users limits) User.kind_lawful kept found permitted
        (Identifier.resolve_of_names names.1 parsed isSet) users_keepsId rfl
    · exact Desk.deletes_of_found (d := users limits) User.kind_lawful kept found permitted
        (Identifier.parseAll_of_names names.2 parsed) rfl

def hexNumbering : Supply :=
  ⟨⟨0, 0⟩, fun n => String.ofList ((List.range 32).map fun i => Nat.digitChar (n / 16 ^ (31 - i) % 16))⟩

theorem hexNumbering_isHex : hexNumbering.IsHex := by
  have digits : ∀ k < 16, Nat.digitChar k ∈ "0123456789abcdef".toList := by decide
  intro n
  refine ⟨by simp [hexNumbering], fun c hc => ?_⟩
  rw [hexNumbering, String.toList_ofList] at hc
  obtain ⟨i, _, rfl⟩ := List.mem_map.1 hc
  exact digits _ (Nat.mod_lt _ (by decide))

theorem hexNumbering_isSound : hexNumbering.IsSound := fun n =>
  (hexNumbering_isHex.names n).1.1.not_allBlank

theorem hexNumbering_isTimely : hexNumbering.IsTimely := ⟨by decide, .inl (by decide)⟩

def adding (place : Section) (pairs : List (String × String)) : Posted where
  supply := hexNumbering
  sound := hexNumbering_isSound
  caller := Caller.anonymous
  post := .order place .create ⟨.mutation, pairs⟩

def shownId (answer : Except Error Outcome) : Option String :=
  answer.toOption.bind fun outcome => outcome.data.map (Row.textAt · "id")

theorem of_shownId {answer : Except Error Outcome} {key : String} (h : shownId answer = some key) :
    ∃ outcome data, answer = .ok outcome ∧ outcome.data = some data ∧ Row.textAt data "id" = key := by
  cases answer with
  | error fault => cases h
  | ok outcome =>
    obtain ⟨data, shown, own⟩ := Option.map_eq_some_iff.1 h
    exact ⟨outcome, data, rfl, shown, own⟩

def newUnit : Posted := adding .department [("code", "D30"), ("name", "Unit")]

/-- A unit that is added to the organisation is the one that its code names. -/
theorem new_unit_reached :
    ∃ outcome data, (newUnit.carryOut {} organisation).2 = .ok outcome ∧ outcome.data = some data ∧
      Row.textAt data "id" = "D30" ∧
      Section.Answers {} (newUnit.apply {} organisation) Caller.anonymous (Row.textAt data "id") data
        .department := by
  have added : shownId (newUnit.carryOut {} organisation).2 = some "D30" := by decide +kernel
  have number : Number.fitsInt64 (organisation.store.saves + 1 : Nat) := by decide +kernel
  obtain ⟨outcome, data, done, shown, own⟩ := of_shownId added
  obtain ⟨data', shown', answers⟩ := new_records_reached (p := newUnit) organisation_in_time
    organisation_hasRoom number hexNumbering_isTimely hexNumbering_isHex rfl (.inl rfl) done
  cases shown.symm.trans shown'
  exact ⟨outcome, data, done, shown, own, answers Caller.anonymous rfl⟩

/-- A department with the code of the headquarters behind a blank. -/
def shadow : Posted := adding .department [("code", " D10"), ("name", "Shadow")]

/-- The shadow is stored under its code as it stands, and whoever names that gets to the headquarters: a
view shows them, and a delete takes them away and leaves the shadow. -/
theorem shadow_names_headquarters :
    Reached {} organisation ∧
    ∃ outcome data, (shadow.carryOut {} organisation).2 = .ok outcome ∧ outcome.data = some data ∧
      Row.textAt data "id" = " D10" ∧
      ((departments {}).view ⟨.read, [("id", " D10")]⟩ Caller.anonymous
        (shadow.apply {} organisation).store).toOption.map Department.id = some (some "D10") ∧
      let gone := (departments {}).doDelete hexNumbering ⟨.mutation, [("ids", " D10")]⟩
        Caller.anonymous (shadow.apply {} organisation)
      (gone.2.toOption.map Outcome.type = some .success ∧
        gone.1.store.row? "department" "D10" = none ∧
        (gone.1.store.row? "department" " D10").isSome) := by
  have added : shownId (shadow.carryOut {} organisation).2 = some " D10" := by decide +kernel
  obtain ⟨outcome, data, done, shown, own⟩ := of_shownId added
  exact ⟨reached_organisation, outcome, data, done, shown, own, by decide +kernel, by decide +kernel⟩

end Web
end Registrar
