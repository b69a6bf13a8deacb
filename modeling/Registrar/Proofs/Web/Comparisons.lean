import Registrar.Proofs.Desk.Comparisons
import Registrar.Proofs.Web.Members
import Registrar.Proofs.Web.Viewing

/-!
Comparisons of revisions at the service. Departments name their parents and users their departments; binding
never leaves a reference with an empty key. Main statement: whatever clients have asked for, a comparison of
two revisions of a record that the caller may read shows, field by field, what the operations that made the
revisions have stored.
-/

namespace Registrar

open Json

theorem Params.getFilled?_ne_empty (params : Params) (key : String) :
    params.getFilled? key ≠ some "" := by
  unfold getFilled?
  split
  · dsimp only
    split
    · simp
    · next filled =>
      intro empty
      exact filled (Option.some.inj empty)
  · simp

theorem Reference.isFilled_of_bind {params : Params} {key : String} {before after : Option Reference}
    (h : after.map Reference.id =
      if (params.get? key).isSome then params.getFilled? key else before.map Reference.id)
    (filled : IsFilled before) : IsFilled after := by
  unfold IsFilled
  rw [h]
  split
  · exact params.getFilled?_ne_empty key
  · exact filled

def Department.NamesParent (d : Department) : Prop := Reference.IsFilled d.parent

def User.NamesDepartment (u : User) : Prop := Reference.IsFilled u.department

theorem Department.stable_namesParent : kind.Stable NamesParent := ⟨fun _ _ h => h, fun _ _ h => h⟩

theorem User.stable_namesDepartment : kind.Stable NamesDepartment := ⟨fun _ _ h => h, fun _ _ h => h⟩

namespace Web

variable {limits : PageLimits} {params : Params} {caller : Caller} {r : Registry}

theorem departments_name : (departments limits).Lasting Department.NamesParent where
  stable := Department.stable_namesParent
  blank := nofun
  read h decoded := by
    rw [Department.NamesParent, Department.parent_of_decode decoded]
    exact h
  bind h bound := Reference.isFilled_of_bind (Department.parent_bind bound) h
  prepare h prepared := by
    rw [Department.NamesParent, Department.parent_of_prepare prepared]
    exact h
  stamp _ _ h := h

theorem users_name : (users limits).Lasting User.NamesDepartment where
  stable := User.stable_namesDepartment
  blank := nofun
  read h decoded := by
    rw [User.NamesDepartment, User.department_of_decode decoded]
    exact h
  bind h bound := Reference.isFilled_of_bind (User.department_bind bound) h
  prepare h prepared := by
    rw [User.NamesDepartment, User.department_of_prepare prepared]
    exact h
  stamp _ _ h := h

/-- All departments and users of rows and revisions name the records that they refer to. -/
structure Referring (s : Store) : Prop where
  departments : s.Remembers Department.kind Department.NamesParent
  users : s.Remembers User.kind User.NamesDepartment

theorem referring_apply (p : Posted) {r : Registry} (h : Referring r.store) :
    Referring (p.apply limits r).store := by
  refine p.carryOut_jobs limits (P := fun action => Referring (action r).1.store) (fun _ => h)
    (fun job maintains => ?_) (fun job maintains => ?_) fun job maintains => ?_
  · have deeds := (departments limits).deeds_perform p.supply p.caller job r
    refine ⟨deeds.remembers Department.kind_lawful Department.stable_namesParent (fun e origin => ?_)
      h.departments, deeds.remembers_other Department.kind_lawful Department.entityType_ne_user h.users⟩
    exact departments_name.origin (fun _ _ _ h => h) (maintains _) h.departments.shows origin
  · have deeds := (roles limits).deeds_perform p.supply p.caller job r
    exact ⟨deeds.remembers_other Role.kind_lawful Department.entityType_ne_role.symm h.departments,
      deeds.remembers_other Role.kind_lawful Role.entityType_ne_user h.users⟩
  · have deeds := (users limits).deeds_perform p.supply p.caller job r
    have keeps : job.Maintains User.NamesDepartment := maintains _ fun _ _ named => named
    refine ⟨deeds.remembers_other User.kind_lawful Department.entityType_ne_user.symm h.departments,
      deeds.remembers User.kind_lawful User.stable_namesDepartment (fun e origin => ?_) h.users⟩
    exact users_name.origin (fun _ _ _ h => h) keeps h.users.shows origin

theorem referring_of_empty : Referring {} :=
  ⟨⟨fun _ hrow => absurd hrow List.not_mem_nil, fun _ hrev => absurd hrev List.not_mem_nil⟩,
    fun _ hrow => absurd hrow List.not_mem_nil, fun _ hrev => absurd hrev List.not_mem_nil⟩

theorem referring_load (supply : Supply) : Referring (Seed.load supply {}).1 := by
  have named : (∀ d ∈ Seed.departments, d.parent.map Reference.id ≠ some "") ∧
      ∀ u ∈ Seed.users, u.department.map Reference.id ≠ some "" := by decide
  refine load_induction (fun d hd s h => ?_) (fun role _ s h => ?_) (fun u hu s h => ?_) ?_
  · have filled : Department.NamesParent (Department.kind.stamp Seed.author.actor supply.now d) :=
      named.1 d hd
    exact ⟨h.departments.save Department.kind_lawful Department.stable_namesParent filled _ _,
      h.users.save_other Department.kind_lawful Department.entityType_ne_user _ _ _⟩
  · exact ⟨h.departments.save_other Role.kind_lawful Department.entityType_ne_role.symm _ _ _,
      h.users.save_other Role.kind_lawful Role.entityType_ne_user _ _ _⟩
  · have filled : User.NamesDepartment (User.kind.stamp Seed.author.actor supply.now u) :=
      named.2 u hu
    exact ⟨h.departments.save_other User.kind_lawful Department.entityType_ne_user.symm _ _ _,
      h.users.save User.kind_lawful User.stable_namesDepartment filled _ _⟩
  · exact referring_of_empty

theorem Reached.referring (h : Reached limits r) : Referring r.store :=
  h.induction (P := Referring) referring_of_empty (fun supply _ => referring_load supply)
    fun p _ referring => referring_apply p referring

theorem Reached.written (h : Reached limits r) : ∃ writes, r.store = .run writes {} :=
  h.of_writes (P := fun s => ∃ writes, s = Store.run writes {}) ⟨[], rfl⟩ fun w s ⟨writes, same⟩ =>
    ⟨writes ++ [w], by rw [Store.run_append, ← same]; rfl⟩

theorem refers_department {rev : Revision} (h : Referring r.store) (logged : rev ∈ r.store.revisions)
    (type : rev.entityType = Department.kind.entityType) : rev.content.Refers Department.schema := by
  obtain ⟨d, shown, named⟩ := h.departments.revisions rev logged type
  rw [shown]
  exact Value.refers_of_field "parent" (by decide) rfl named

theorem refers_user {rev : Revision} (h : Referring r.store) (logged : rev ∈ r.store.revisions)
    (type : rev.entityType = User.kind.entityType) : rev.content.Refers User.schema := by
  obtain ⟨u, shown, named⟩ := h.users.revisions rev logged type
  rw [shown]
  exact Value.refers_of_field "department" (by decide) rfl named

theorem refers_role (content : Value) : content.Refers Role.schema := by
  have none : ∀ f ∈ Role.schema.comparable, ¬f.isReference := by decide
  exact fun f hf reference => absurd reference (none f hf)

def Section.compareRevisions (limits : PageLimits) (params : Params) (caller : Caller) (s : Store) :
    Section → Except Error Comparison
  | .department => (departments limits).compareRevisions params caller s
  | .role => (roles limits).compareRevisions params caller s
  | .user => (users limits).compareRevisions params caller s

/-- A comparison of two revisions, of a record that the caller may read, has a row for each field to compare.
Its sides are empty where the record has no revision of the number, and else show the field as the operation
has stored it that made the revision, with references as the records are called now. Exchanging the numbers
exchanges the sides. -/
theorem revisions_compared {place : Section} {key : String} {left right : Int}
    (reached : Reached limits r) (named : place.Names params key)
    (readable : ∀ row, r.store.row? place.name key = some row → place.Opens limits caller row)
    (hleft : revisionNumber params "revLeft" = .ok left)
    (hright : revisionNumber params "revRight" = .ok right) :
    ∃ c, place.compareRevisions limits params caller r.store = .ok c ∧
      List.Forall₂ (Comparison.Compares r.store place.name key left right) place.schema.comparable
        c.fields ∧
      ∀ others, place.Names others key → revisionNumber others "revLeft" = .ok right →
        revisionNumber others "revRight" = .ok left →
        ∃ back, place.compareRevisions limits others caller r.store = .ok back ∧
          back.fields = c.fields.map ComparedField.swap := by
  have referring := reached.referring
  cases place with
  | department =>
    obtain ⟨id, named, rfl⟩ := named
    obtain ⟨c, answer, rows, exchanged⟩ := Desk.compareRevisions_rows (d := departments limits)
      reached.written (fun rev => refers_department referring) readable named hleft hright
    exact ⟨c, answer, rows, fun others ⟨other, again, same⟩ => exchanged others other again same⟩
  | role =>
    obtain ⟨id, named, rfl⟩ := named
    obtain ⟨c, answer, rows, exchanged⟩ := Desk.compareRevisions_rows (d := roles limits)
      reached.written (fun rev _ _ => refers_role rev.content) readable named hleft hright
    exact ⟨c, answer, rows, fun others ⟨other, again, same⟩ => exchanged others other again same⟩
  | user =>
    obtain ⟨id, named, rfl⟩ := named
    obtain ⟨c, answer, rows, exchanged⟩ := Desk.compareRevisions_rows (d := users limits)
      reached.written (fun rev => refers_user referring) readable named hleft hright
    exact ⟨c, answer, rows, fun others ⟨other, again, same⟩ => exchanged others other again same⟩

def administratorAndOther : Params := ⟨.read, [("id", "8"), ("revLeft", "8"), ("revRight", "9")]⟩

def sides (limits : PageLimits) (params : Params) (caller : Caller) (s : Store) (place : Section) :
    Option (List (Option String × Option String)) :=
  (place.compareRevisions limits params caller s).toOption.map fun c =>
    c.fields.map fun row => (row.left, row.right)

theorem administrator_compared :
    Reached {} organisation ∧ Section.user.Names administratorAndOther "8" ∧
    (∀ row, organisation.store.row? "user" "8" = some row → Section.user.Opens {} deputy row) ∧
    revisionNumber administratorAndOther "revLeft" = .ok 8 ∧
    revisionNumber administratorAndOther "revRight" = .ok 9 ∧
    ∃ c, Section.user.compareRevisions {} administratorAndOther deputy organisation.store = .ok c ∧
      List.Forall₂ (Comparison.Compares organisation.store "user" "8" 8 9) User.schema.comparable
        c.fields ∧
      c.fields.map (fun row => (row.left, row.right)) = [(some "admin", none),
        (some "Administrator", none), (some "9", none), (some "D10 Headquarters", none),
        (some "true", none)] := by
  have named : Section.user.Names administratorAndOther "8" := ⟨8, by decide +kernel, by decide⟩
  have readable : ∀ row, organisation.store.row? "user" "8" = some row →
      Section.user.Opens {} deputy row := by
    intro row there
    cases row?_administrator.symm.trans there
    exact opens_administrator
  have left : revisionNumber administratorAndOther "revLeft" = .ok 8 := by rfl
  have right : revisionNumber administratorAndOther "revRight" = .ok 9 := by rfl
  obtain ⟨c, answer, rows, _⟩ := revisions_compared reached_organisation named readable left right
  have shown : sides {} administratorAndOther deputy organisation.store .user =
      some [(some "admin", none), (some "Administrator", none), (some "9", none),
        (some "D10 Headquarters", none), (some "true", none)] := by decide +kernel
  rw [sides, answer] at shown
  exact ⟨reached_organisation, named, readable, left, right, c, answer, rows, Option.some.inj shown⟩

end Web
end Registrar
