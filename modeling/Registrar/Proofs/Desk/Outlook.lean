import Registrar.Desk.Listing
import Registrar.Proofs.Number.Whole
import Registrar.Proofs.Store.Contents

/-!
What a caller gets to know of many records. Main statement: pages, files, options and groups for a
caller with scopes or with a level are those that anyone gets from a store without the records outside,
whatever the request; so these leave no trace in an answer.
-/

namespace Registrar

namespace Desk

variable {I E : Type} [Identifier I] {d : Desk I E} {caller anyone : Caller} {s t : Store}

/-- Whatever is asked about many records, one caller gets from one store the answer that another one
gets from another store. -/
structure AnswersAs (d : Desk I E) (caller : Caller) (s : Store) (other : Caller) (t : Store) :
    Prop where
  findByPage (params : Params) : d.findByPage params caller s = d.findByPage params other t
  selectOptions (params : Params) : d.selectOptions params caller s = d.selectOptions params other t
  groupAggregate (params : Params) :
    d.groupAggregate params caller s = d.groupAggregate params other t

theorem answersAs_of_query (same : ∀ params sort,
    s.query d.kind (d.filter params caller) sort = t.query d.kind (d.filter params anyone) sort) :
    d.AnswersAs caller s anyone t where
  findByPage params := by rw [findByPage, findByPage, found, found, same]
  selectOptions params := by rw [selectOptions, selectOptions, found, found, same]
  groupAggregate params := by
    unfold groupAggregate Store.groups
    rw [same]

/-- If the policy forces a predicate on the caller that fails for the hidden rows alone, the caller
gets the answers that anyone gets without these rows. -/
theorem answersAs_without {p : Predicate} {hidden : SavedRow → Bool}
    (narrows : ∀ f, d.policy.scope f caller = f.force p)
    (free : ∀ f, d.policy.scope f anyone = f)
    (tells : ∀ row ∈ s.rows, row.entityType = d.kind.entityType →
      p.holds row.content = !hidden row) :
    d.AnswersAs caller s anyone (s.without hidden) := by
  refine answersAs_of_query fun params sort => ?_
  rw [filter, filter, narrows, free]
  exact Store.query_without tells _ sort

theorem answersAs_of_none_hidden {hidden : SavedRow → Bool}
    (wide : ∀ f, d.policy.scope f caller = f) (free : ∀ f, d.policy.scope f anyone = f)
    (none : ∀ row ∈ s.rows, hidden row = false) :
    d.AnswersAs caller s anyone (s.without hidden) := by
  refine answersAs_of_query fun params sort => ?_
  rw [filter, filter, wide, free, Store.without_of_none none]

end Desk

/-- The rows of the kind hold the data forms of the given records, which have the property. -/
def Store.Lists {I E : Type} (k : Kind I E) (P : E → Prop) (record : SavedRow → E) (s : Store) :
    Prop :=
  ∀ row ∈ s.rows, row.entityType = k.entityType →
    row.content = k.encode (record row) ∧ P (record row)

theorem Store.Shows.lists {I E : Type} {k : Kind I E} {P : E → Prop} {s : Store}
    (h : s.Shows k P) : ∃ record, s.Lists k P record := by
  classical
  refine ⟨fun row => if shown : ∃ e, row.content = k.encode e ∧ P e then shown.choose else k.blank,
    fun row hrow type => ?_⟩
  have shown := h row hrow type
  simp only [shown, dite_true]
  exact shown.choose_spec

namespace User

/-- The caller may not handle the user. -/
def isOutside (caller : Caller) (u : User) : Bool := !(permit u caller).isOk

theorem isOutside_eq_false {caller : Caller} (free : caller.isRestricted = false) (u : User) :
    isOutside caller u = false := by
  have allowed : permit u caller = .ok () := by simp [permit, free]
  rw [isOutside, allowed]
  rfl

theorem isOutside_eq {caller : Caller} {u : User} (known : kind.isNew u = false)
    (restricted : caller.isRestricted) : isOutside caller u = !u.code.any caller.covers := by
  rw [isOutside, permit, known, restricted]
  cases u.code.any caller.covers <;> rfl

theorem inScope_holds {caller : Caller} {u : User} (known : kind.isNew u = false)
    (restricted : caller.isRestricted) :
    Predicate.holds ⟨.inScope, ["aclCode"], caller.scopes.map .text⟩ (kind.encode u) =
      !isOutside caller u := by
  have read : Row.extract (kind.encode u) "aclCode" =
      if (Json.Value.ofOption .text u.code).isNull then none
      else some (Json.Value.ofOption .text u.code) := rfl
  rw [isOutside_eq known restricted, Bool.not_not, Predicate.holds, List.any_cons, List.any_nil,
    Bool.or_false, read]
  cases u.code with
  | none => rfl
  | some code =>
    show (caller.scopes.map Json.Value.text).any
      (fun v => (Row.text v).toList.isPrefixOf (Row.text (.text code)).toList) = caller.covers code
    rw [List.any_map, Caller.covers, restricted]
    rfl

end User

namespace Role

/-- The role's level is above the caller's. -/
def isOutside (caller : Caller) (role : Role) : Bool :=
  caller.level.any fun own => own < role.level

theorem atMost_holds {caller : Caller} {own : Int} (level : caller.level = some own) {role : Role}
    (small : Number.fitsInt32 role.level) (ownSmall : Number.fitsInt32 own) :
    Predicate.holds ⟨.atMost, ["aclType"], [.int own]⟩ (kind.encode role) =
      !isOutside caller role := by
  have read : Row.extract (kind.encode role) "aclType" = some (.int role.level) := rfl
  have order : Row.compare? (.int role.level) (.int own) = some (compare role.level own) :=
    Number.Double.compare?_ofInt small ownSmall
  rw [Predicate.holds, List.any_cons, List.any_nil, Bool.or_false, read]
  show Predicate.isAtMost (Row.compare? (.int role.level) (.int own)) = !isOutside caller role
  rw [order, isOutside, level]
  rcases Int.lt_trichotomy role.level own with lt | same | gt
  · simp [Predicate.isAtMost, Int.compare_eq_lt.2 lt, Int.not_lt.2 (Int.le_of_lt lt)]
  · simp [Predicate.isAtMost, same]
  · simp [Predicate.isAtMost, Int.compare_eq_gt.2 gt, gt]

end Role

end Registrar
