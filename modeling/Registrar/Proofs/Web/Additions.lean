import Registrar.Proofs.Desk.Entry
import Registrar.Proofs.Desk.Twins
import Registrar.Proofs.Web.Posts

/-!
Requests for new records. A new department takes its code as key. Main statement: such a request adds
one row and leaves all others alone, unless it is for a department and its code is the key of one; then
it overwrites that one.
-/

namespace Registrar

open Json

/-- The code that a request gives, which is empty without one. -/
def Params.code (params : Params) : String := (params.get? "code").getD ""

namespace Department

theorem of_prepare {e x : Department} {caller : Caller} (new : e.id = none)
    (h : policy.prepare e caller = .ok x) :
    x.code = e.code ∧ x.id = if e.code = "" then none else some e.code := by
  have unset : kind.isNew e := by simp [Kind.isNew, kind, new]
  cases h
  rw [unset]
  by_cases code : e.code = ""
  · simp [code, new]
  · simp [code]

theorem key_named {d : Department} (own : d.id = if d.code = "" then none else some d.code)
    (supply : Supply) (s : Store) :
    kind.key (s.named kind supply d) =
      if Text.allBlank d.code then supply.textId (s.textIds + 1) else d.code := by
  have shown : kind.isNew d = Text.allBlank d.code := by
    rw [Kind.isNew, show kind.id d = d.id from rfl, own]
    split
    · next code => rw [code]; rfl
    · rfl
  split
  · next blank => exact Store.key_named_of_isNew kind_lawful (shown.trans blank)
  · next filled =>
    rw [Bool.not_eq_true] at filled
    have written : d.code ≠ "" := by
      rintro code
      rw [code] at filled
      cases filled
    rw [Store.named_of_not_isNew kind (shown.trans filled)]
    rw [if_neg written] at own
    exact Store.key_of_id own

end Department

namespace Web

variable {limits : PageLimits}

/-- The order is for a new record: a creation, or a save that names no record. -/
def Order.AsksNew (I : Type) [Identifier I] (order : Order) (params : Params) : Prop :=
  order = .create ∨ order = .save ∧ Desk.requestId (I := I) params = .ok none

def Section.AsksNew : Section → Order → Params → Prop
  | .user => Order.AsksNew Int
  | _ => Order.AsksNew String

/-- The order is for a department, with a code that is the key of one. -/
def CodeTaken (place : Section) (params : Params) (s : Store) : Prop :=
  place = .department ∧ (s.row? place.name params.code).isSome

variable {supply : Supply} {order : Order} {params : Params} {caller : Caller} {r : Registry}
variable {s t : Store} {outcome : Outcome}

theorem enters_carryOut {I E : Type} [Identifier I] [LawfulIdentifier I] [DecidableEq I]
    {d : Desk I E} (law : d.kind.Lawful) (blank : d.kind.isNew d.kind.blank)
    (kept : r.store.WellKept) (asks : order.AsksNew I params)
    (done : (carryOut d supply order params caller r).2 = .ok outcome) :
    d.Enters supply caller params r.store (carryOut d supply order params caller r).1.store := by
  rcases asks with rfl | ⟨rfl, unnamed⟩
  · exact d.enters_doCreate law kept done
  · exact d.enters_doSave law blank unnamed done

theorem saved_of_enters (h : (departments limits).Enters supply caller params s t) :
    ∃ (d saved : Department) (author : Author) (rules : RuleSet),
      d.code = params.code ∧
      d.id = (if d.code = "" then none else some d.code) ∧
      (departments limits).check rules true d s = .ok () ∧
      s.save Department.kind supply author d = (t, .ok saved) := by
  obtain ⟨e, x, author, rules, saved, bound, prepared, checked, done⟩ := h
  have given : e.code = params.code := Department.code_bind bound
  have unnamed : e.id = none := Kind.id_bind Department.kind_lawful bound
  obtain ⟨code, id⟩ := Department.of_prepare unnamed prepared
  rw [← code] at id
  exact ⟨Department.kind.stamp caller.userId supply.now x, saved, author, rules, code.trans given,
    id, checked, done⟩

/-- The check refuses a new department with the code of another, unless it is not a number. -/
theorem isNan_of_check {d : Department} {rules : RuleSet}
    (checked : (departments limits).check rules true d s = .ok ()) {row : SavedRow}
    (hrow : row ∈ s.rows) (type : row.entityType = "department")
    (same : Row.extract row.content "code" = some (.text d.code)) : (Value.text d.code).IsNan := by
  refine Classical.byContradiction fun notNan => ?_
  have declared : Department.codeField ∈ Department.schema.declared := by decide
  have passed := Desk.clash_of_check checked declared rfl
  cases (Desk.same_of_clash passed rfl notNan hrow type same).1

/-- A new department adds a row if its code is no row's key. Else it overwrites that row, whose code is
another by now or reads as "not a number". -/
theorem department_enters (kept : s.Kept)
    (fresh : s.row? "department" (supply.textId (s.textIds + 1)) = none)
    (h : (departments limits).Enters supply caller params s t) :
    (s.row? "department" params.code = none → s.Adds "department" t) ∧
    ∀ old, s.row? "department" params.code = some old → s.Overwrites "department" params.code t ∧
      (Row.extract old.content "code" = some (.text params.code) →
        (Value.text params.code).IsNan) := by
  obtain ⟨d, saved, author, rules, code, own, checked, done⟩ := saved_of_enters h
  rw [← code]
  have key := Department.key_named own supply s
  have answer : (s.save Department.kind supply author d).2 = .ok saved := congrArg Prod.snd done
  have result : (s.save Department.kind supply author d).1 = t := congrArg Prod.fst done
  rw [← result]
  by_cases blank : Text.allBlank d.code
  · rw [if_pos blank] at key
    refine ⟨fun _ => ?_, fun old found => ?_⟩
    · exact Store.adds_of_vacant Department.kind_lawful answer (by rw [key]; exact fresh)
    · cases (kept.wellKept.row?_blank blank).symm.trans found
  · rw [if_neg blank] at key
    refine ⟨fun vacant => ?_, fun old found => ⟨?_, ?_⟩⟩
    · exact Store.adds_of_vacant Department.kind_lawful answer (by rw [key]; exact vacant)
    · rw [← key] at found ⊢
      exact Store.overwrites_of_found Department.kind_lawful answer found
    · exact isNan_of_check checked (Store.mem_of_row? found)
        (SavedRow.isAt_iff.1 (Store.isAt_of_row? found)).1

/-- A request for a new record that succeeds adds one row and leaves the others, unless it is for a
department whose code is the key of a row. That row it overwrites, which needs the row to have another
code by now, or one that reads as "not a number". -/
theorem adds_iff_code_free {place : Section} (reached : Reached limits r)
    (asks : place.AsksNew order params)
    (fresh : place ≠ .user →
      r.store.row? place.name (supply.textId (r.store.textIds + 1)) = none)
    (done : (orderAt limits supply place order params caller r).2 = .ok outcome) :
    (r.store.Adds place.name (orderAt limits supply place order params caller r).1.store ↔
      ¬CodeTaken place params r.store) ∧
    ∀ old, place = .department → r.store.row? place.name params.code = some old →
      r.store.Overwrites place.name params.code
        (orderAt limits supply place order params caller r).1.store ∧
      (Row.extract old.content "code" = some (.text params.code) →
        (Value.text params.code).IsNan) := by
  have kept := reached.kept
  cases place with
  | department =>
    have enters := enters_carryOut (d := departments limits) Department.kind_lawful rfl
      kept.wellKept asks done
    obtain ⟨adds, overwrites⟩ := department_enters kept (fresh Section.noConfusion) enters
    refine ⟨⟨fun added ⟨_, taken⟩ => ?_, fun free => ?_⟩, fun old _ found => overwrites old found⟩
    · obtain ⟨old, found⟩ := Option.isSome_iff_exists.1 taken
      have more := added.length_rows
      have same := (overwrites old found).1.length_rows
      exact absurd (more.symm.trans same) (by omega)
    · refine adds (Option.eq_none_iff_forall_not_mem.2 fun old found => free ⟨rfl, ?_⟩)
      exact Option.isSome_iff_exists.2 ⟨old, found⟩
  | role =>
    have enters := enters_carryOut (d := roles limits) Role.kind_lawful rfl kept.wellKept asks done
    have added := enters.adds Role.kind_lawful rfl
      (fun prepared => by cases prepared; rfl) (fresh Section.noConfusion)
    exact ⟨⟨fun _ ⟨other, _⟩ => Section.noConfusion other, fun _ => added⟩,
      fun _ other => Section.noConfusion other⟩
  | user =>
    have enters := enters_carryOut (d := users limits) User.kind_lawful rfl kept.wellKept asks done
    have sameId {e x : User} (prepared : User.prepare e caller = .ok x) : x.id = e.id :=
      User.id_of_prepare prepared
    have added := enters.adds User.kind_lawful rfl sameId kept.userKeys.vacant
    exact ⟨⟨fun _ ⟨other, _⟩ => Section.noConfusion other, fun _ => added⟩,
      fun _ other => Section.noConfusion other⟩

def founding (code : String) : Params := ⟨.mutation, [("code", code), ("name", "Unit")]⟩

def founded (code : String) : Posted where
  supply := User.clock
  sound := User.clock_isSound
  caller := User.registrar.caller
  post := .order .department .create (founding code)

def withUnit (code : String) : Registry :=
  Posted.run {} [founded code] (begin {} User.clock).1

theorem reached_withUnit (code : String) : Reached {} (withUnit code) :=
  ⟨{}, User.clock, [founded code], User.clock_isSound, rfl⟩

theorem second_department_added :
    (withUnit "HR").store.Adds "department"
      (orderAt {} User.clock .department .create (founding "IT") User.registrar.caller
        (withUnit "HR")).1.store := by
  have asks : Section.AsksNew .department .create (founding "IT") := .inl rfl
  have fresh : (withUnit "HR").store.row? "department"
      (User.clock.textId ((withUnit "HR").store.textIds + 1)) = none := by rfl
  obtain ⟨outcome, done⟩ : ∃ outcome, (orderAt {} User.clock .department .create (founding "IT")
    User.registrar.caller (withUnit "HR")).2 = .ok outcome := ⟨_, by rfl⟩
  have free : (withUnit "HR").store.row? "department" "IT" = none := by rfl
  refine (adds_iff_code_free (reached_withUnit "HR") asks (fun _ => fresh) done).1.2 ?_
  rintro ⟨_, taken⟩
  cases (congrArg Option.isSome free).symm.trans taken

/-- Whoever asks for a department called "nan" a second time gets the first one overwritten. -/
theorem second_nan_overwrites :
    Reached {} (withUnit "nan") ∧
    Section.AsksNew .department .create (founding "nan") ∧
    (withUnit "nan").store.row? "department"
      (User.clock.textId ((withUnit "nan").store.textIds + 1)) = none ∧
    (∃ outcome, (orderAt {} User.clock .department .create (founding "nan") User.registrar.caller
      (withUnit "nan")).2 = .ok outcome) ∧
    ¬(withUnit "nan").store.Adds "department"
      (orderAt {} User.clock .department .create (founding "nan") User.registrar.caller
        (withUnit "nan")).1.store := by
  refine ⟨reached_withUnit "nan", .inl rfl, by rfl, ⟨_, by rfl⟩, fun added => ?_⟩
  have before : (withUnit "nan").store.rows.length = 1 := by rfl
  have after : (orderAt {} User.clock .department .create (founding "nan") User.registrar.caller
      (withUnit "nan")).1.store.rows.length = 1 := by rfl
  have more := added.length_rows
  rw [before, after] at more
  cases more

end Web
end Registrar
