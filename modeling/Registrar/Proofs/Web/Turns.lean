import Registrar.Proofs.Desk.Removal
import Registrar.Proofs.Desk.Single
import Registrar.Proofs.Web.Views

/-!
Orders turn by turn. An order that is no delete is served as a request about one record, and leaves the
rows of other desks alone. Main statements: what each turn keeps or loses, a run of posts keeps just if no
turn of it loses it.
-/

namespace Registrar

theorem Store.row?_save_other {I E : Type} [Identifier I] {k : Kind I E} (law : k.Lawful)
    {entityType : String} (other : k.entityType ≠ entityType) (supply : Supply) (author : Author)
    (e : E) (s : Store) (key : String) :
    (s.save k supply author e).1.row? entityType key = s.row? entityType key := by
  rcases row?_save_cases law supply author e s entityType key with ⟨same, _⟩ | ⟨_, _, type, _⟩
  · exact same
  · exact absurd type other

theorem Store.row?_delete_other {I E : Type} [Identifier I] {k : Kind I E} {entityType : String}
    (other : k.entityType ≠ entityType) (now : Instant) (author : Author) (e : E) (s : Store)
    (key : String) : (s.delete k now author e).1.row? entityType key = s.row? entityType key := by
  rcases row?_delete_cases (k := k) now author e s entityType key with
    ⟨same, _⟩ | ⟨⟨_, type, _⟩, _⟩
  · exact same
  · exact absurd type other

theorem Desk.Deeds.row?_other {I E : Type} [Identifier I] [DecidableEq I] {d : Desk I E}
    {supply : Supply} {job : Job E} {start t : Store} (deeds : d.Deeds supply job start t)
    (law : d.kind.Lawful) {entityType : String} (other : d.kind.entityType ≠ entityType)
    (key : String) : t.row? entityType key = start.row? entityType key :=
  deeds.preserves (P := fun s => s.row? entityType key = start.row? entityType key)
    (fun s author e _ _ _ same => (Store.row?_save_other law other supply author e s key).trans same)
    (fun s now author e same => (Store.row?_delete_other other now author e s key).trans same) rfl

namespace Web

variable {limits : PageLimits} {supply : Supply} {order : Order} {params : Params} {caller : Caller}
variable {r : Registry}

section Orders

variable {I E : Type} [Identifier I] [DecidableEq I] {d : Desk I E}

theorem served_carryOut [LawfulIdentifier I] (law : d.kind.Lawful) (kept : r.store.WellKept)
    (blank : d.kind.isNew d.kind.blank) (changes : order ≠ .delete) :
    d.Served supply caller params r.store (carryOut d supply order params caller r).1.store
      (carryOut d supply order params caller r).2 := by
  cases order with
  | create => exact Desk.served_doCreate law kept blank
  | update => exact Desk.served_doUpdate law kept blank
  | save => exact Desk.served_doSave law kept blank
  | delete => exact absurd rfl changes

theorem row?_refused {fault : Error}
    (refused : (carryOut d supply order params caller r).2 = .error fault) (entityType key : String) :
    (carryOut d supply order params caller r).1.store.row? entityType key =
      r.store.row? entityType key := by
  rw [carryOut_eq_perform] at refused ⊢
  have failed : Outcome.Fails (d.perform supply caller (order.job params) r).2 := by
    intro outcome answered
    cases refused.symm.trans answered
  exact Store.row?_congr (d.untouched_perform failed).rows

end Orders

theorem Posted.row?_elsewhere (p : Posted) {place : Section} (elsewhere : p.post.place ≠ place)
    (r : Registry) (key : String) :
    (p.apply limits r).store.row? place.name key = r.store.row? place.name key := by
  refine p.carryOut_cases limits
    (P := fun action => (action r).1.store.row? place.name key = r.store.row? place.name key)
    (fun _ => rfl) ?_ ?_ ?_
  · intro order params post
    refine ((departments limits).deeds_perform ..).row?_other Department.kind_lawful
      (fun type => ?_) key
    rw [post] at elsewhere
    cases place
    · exact elsewhere rfl
    · exact Department.entityType_ne_role type
    · exact Department.entityType_ne_user type
  · intro order params post
    refine ((roles limits).deeds_perform ..).row?_other Role.kind_lawful (fun type => ?_) key
    rw [post] at elsewhere
    cases place
    · exact Department.entityType_ne_role type.symm
    · exact elsewhere rfl
    · exact Role.entityType_ne_user type
  · intro job here _ _
    refine ((users limits).deeds_perform ..).row?_other User.kind_lawful (fun type => ?_) key
    rw [here] at elsewhere
    cases place
    · exact Department.entityType_ne_user type.symm
    · exact User.entityType_ne_role type
    · exact elsewhere rfl

def Posted.Changes (p : Posted) (place : Section) : Prop :=
  ∃ order params, p.post = .order place order params ∧ order ≠ .delete

/-- What a post comes to for the section of a desk. -/
inductive Posted.Turn {I E : Type} [Identifier I] [DecidableEq I] (limits : PageLimits) (p : Posted)
    (place : Section) (d : Desk I E) (r : Registry) : Prop
  | idle (noChange : ¬p.Changes place)
      (same : ∀ key, (p.apply limits r).store.row? place.name key = r.store.row? place.name key)
  | deleted {params : Params} {outcome : Outcome} (noChange : ¬p.Changes place)
      (done : (d.doDelete p.supply params p.caller r).2 = .ok outcome)
      (after : (p.apply limits r).store = (d.doDelete p.supply params p.caller r).1.store)
  | served {order : Order} {params : Params} (post : p.post = .order place order params)
      (changes : order ≠ .delete)
      (served : d.Served p.supply p.caller params r.store (p.apply limits r).store
        (p.carryOut limits r).2)

theorem Posted.turn {I E : Type} [Identifier I] [LawfulIdentifier I] [DecidableEq I] (p : Posted)
    (place : Section) (d : Desk I E) (law : d.kind.Lawful) (blank : d.kind.isNew d.kind.blank)
    (desk : ∀ supply order params caller,
      orderAt limits supply place order params caller = Web.carryOut d supply order params caller)
    (records : place ≠ .user) (kept : r.store.WellKept) : p.Turn limits place d r := by
  by_cases here : p.post.place = place
  · obtain ⟨supply, sound, caller, post⟩ := p
    cases post with
    | userState params => exact absurd here.symm records
    | order asked order params =>
      obtain rfl : asked = place := here
      have deed : Posted.carryOut limits ⟨supply, sound, caller, .order asked order params⟩ =
          Web.carryOut d supply order params caller := desk supply order params caller
      by_cases changes : order = .delete
      · subst changes
        have noChange : ¬Posted.Changes ⟨supply, sound, caller, .order asked .delete params⟩ asked := by
          rintro ⟨_, _, same, other⟩
          cases same
          exact other rfl
        cases answer : (Web.carryOut d supply .delete params caller r).2 with
        | error fault =>
          refine .idle noChange fun key => ?_
          rw [Posted.apply, deed]
          exact row?_refused answer _ key
        | ok outcome => exact .deleted noChange answer (by rw [Posted.apply, deed]; rfl)
      · refine .served rfl changes ?_
        rw [Posted.apply, deed]
        exact served_carryOut law kept blank changes
  · refine .idle ?_ (p.row?_elsewhere here r)
    rintro ⟨order, params, post, _⟩
    exact here (by rw [post]; rfl)

theorem Reached.apply (h : Reached limits r) (p : Posted) : Reached limits (p.apply limits r) := by
  obtain ⟨settings, supply, posts, sound, rfl⟩ := h
  refine ⟨settings, supply, posts ++ [p], sound, ?_⟩
  rw [Posted.run, Posted.run, List.foldl_append]
  rfl

namespace Posted

def visited (limits : PageLimits) : List Posted → Registry → List Registry
  | [], r => [r]
  | p :: rest, r => r :: visited limits rest (p.apply limits r)

/-- Each post of a run has the property in the registry that it meets. -/
def Along (limits : PageLimits) (P : Posted → Registry → Prop) : List Posted → Registry → Prop
  | [], _ => True
  | p :: rest, r => P p r ∧ Along limits P rest (p.apply limits r)

theorem head_visited (posts : List Posted) (r : Registry) : r ∈ visited limits posts r := by
  cases posts <;> exact List.mem_cons_self

variable {posts : List Posted} {P : Registry → Prop} {F Q : Posted → Registry → Prop}

/-- If a turn keeps what holds so far just in some cases, all of a run has it just if all its turns are
such cases. -/
theorem forall_visited_iff
    (turn : ∀ p r, Reached limits r → P r → (P (p.apply limits r) ↔ Q p r))
    (reached : Reached limits r) (start : P r) :
    (∀ t ∈ visited limits posts r, P t) ↔ Along limits Q posts r := by
  -- On the posts, from the registry that the first of them meets.
  induction posts generalizing r with
  | nil => simp [visited, Along, start]
  | cons p rest ih =>
    simp only [visited, Along, List.forall_mem_cons]
    constructor
    · rintro ⟨_, later⟩
      have next := later _ (head_visited rest _)
      exact ⟨(turn p r reached start).1 next, (ih (reached.apply p) next).1 later⟩
    · rintro ⟨good, later⟩
      exact ⟨start, (ih (reached.apply p) ((turn p r reached start).2 good)).2 later⟩

/-- If a turn keeps something just in some cases, it lasts from any time of a run to any later one just
if all turns of the run are such cases. -/
theorem pairwise_visited_iff
    (turn : ∀ p r, Reached limits r → F p r → ((P r → P (p.apply limits r)) ↔ Q p r))
    (reached : Reached limits r) (given : Along limits F posts r) :
    (visited limits posts r).Pairwise (fun a b => P a → P b) ↔ Along limits Q posts r := by
  induction posts generalizing r with
  | nil => simp [visited, Along]
  | cons p rest ih =>
    simp only [visited, Along, List.pairwise_cons]
    rw [ih (reached.apply p) given.2, ← turn p r reached given.1]
    refine ⟨fun ⟨lasts, later⟩ => ⟨lasts _ (head_visited rest _), later⟩,
      fun ⟨first, later⟩ => ⟨fun t ht held => ?_, later⟩⟩
    have pairs := (ih (reached.apply p) given.2).2 later
    have next := first held
    cases rest with
    | nil =>
      cases List.mem_singleton.1 ht
      exact next
    | cons q rest =>
      rcases List.mem_cons.1 ht with rfl | ht
      · exact next
      · exact (List.pairwise_cons.1 pairs).1 t ht next

end Posted

def ordering (place : Section) (order : Order) (pairs : List (String × String)) : Posted where
  supply := numbering
  sound := numbering_isSound
  caller := Caller.anonymous
  post := .order place order ⟨.mutation, pairs⟩

theorem not_answered_error {fault : Error} :
    ¬∃ outcome : Outcome, (Except.error fault : Except Error Outcome) = .ok outcome := by
  rintro ⟨_, answered⟩
  cases answered

theorem answered_of_isOk {answer : Except Error Outcome} (h : answer.isOk) :
    ∃ outcome, answer = .ok outcome := by
  cases answer with
  | ok outcome => exact ⟨outcome, rfl⟩
  | error fault => cases h

end Web
end Registrar
