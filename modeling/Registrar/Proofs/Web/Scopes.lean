import Registrar.Proofs.Kind.Readable
import Registrar.Proofs.Web.Additions

/-!
Callers with scopes. A user's code follows the department, however the user is saved. Main statement:
a caller with scopes changes no user but those whose code the caller covers, and leaves them with such
a code.
-/

namespace Registrar

namespace User

/-- The user's code is the identifier of the department. -/
def IsPlaced (u : User) : Prop := u.code = u.department.map Reference.id

/-- The user has a code, and the caller covers it. -/
def IsCovered (caller : Caller) (u : User) : Prop := ∃ code, u.code = some code ∧ caller.covers code

variable {u x : User} {caller : Caller}

theorem isPlaced_of_prepare (h : prepare u caller = .ok x) : x.IsPlaced := by
  unfold prepare at h
  dsimp only at h
  split at h
  all_goals
    split at h
    · cases h
      rfl
    · cases h

theorem isCovered_of_prepare (restricted : caller.isRestricted) (h : prepare u caller = .ok x) :
    x.IsCovered caller := by
  unfold prepare at h
  dsimp only at h
  split at h
  · next code hcode =>
    split at h
    · next covers =>
      cases h
      exact ⟨code, hcode, covers⟩
    · cases h
  · simp [restricted] at h

theorem isCovered_of_permit (known : kind.isNew u = false) (restricted : caller.isRestricted)
    (h : permit u caller = .ok ()) : u.IsCovered caller := by
  unfold permit at h
  rw [known, restricted] at h
  cases hcode : u.code with
  | none => simp [hcode] at h
  | some code =>
    refine ⟨code, hcode, ?_⟩
    by_contra uncovered
    simp [hcode, uncovered] at h

theorem code_of_decode (h : kind.decode (kind.encode u) = .ok x) : x.code = u.code := by
  have code : (kind.encode x).field? "aclCode" = (kind.encode u).field? "aclCode" :=
    field?_of_decode h nofun rfl
  exact LawfulIdentifier.ofOption_injective (Option.some.inj code)

theorem isPlaced_stable : kind.Stable IsPlaced where
  setId _ _ h := h
  setVersion _ _ h := h

theorem isCovered_stable (caller : Caller) : kind.Stable (IsCovered caller) where
  setId _ _ h := h
  setVersion _ _ h := h

end User

def Caller.CoversRow (caller : Caller) (row : SavedRow) : Prop :=
  ∃ u : User, row.content = User.kind.encode u ∧ u.IsCovered caller

namespace Web

variable {limits : PageLimits} {supply : Supply} {caller : Caller} {job : Desk.Job User}
variable {start s t : Store} {key : String}

theorem isPlaced_of_origin {u : User} (origin : (users limits).Origin job s u) : u.IsPlaced := by
  obtain ⟨_, _, _, _, caller, x, prepared, finished⟩ := origin
  have placed : x.IsPlaced := User.isPlaced_of_prepare prepared
  rcases finished with rfl | ⟨actor, now, rfl⟩
  · exact placed
  · exact placed

theorem placed_apply (p : Posted) {r : Registry} (h : r.store.Shows User.kind User.IsPlaced) :
    (p.apply limits r).store.Shows User.kind User.IsPlaced := by
  refine p.carryOut_cases limits
    (P := fun action => (action r).1.store.Shows User.kind User.IsPlaced) (fun _ => h) ?_ ?_ ?_
  · intro order params _
    exact ((departments limits).deeds_perform ..).shows_other Department.entityType_ne_user h
  · intro order params _
    exact ((roles limits).deeds_perform ..).shows_other Role.entityType_ne_user h
  · intro job _ _ _
    exact ((users limits).deeds_perform ..).shows User.isPlaced_stable
      (fun _ origin => isPlaced_of_origin origin) h

theorem placed_load (supply : Supply) :
    (Seed.load supply {}).1.Shows User.kind User.IsPlaced := by
  refine load_induction (fun _ _ s h => ?_) (fun _ _ s h => ?_) (fun u hu s h => ?_) ?_
  · exact h.save_other Department.entityType_ne_user _ _ _
  · exact h.save_other Role.entityType_ne_user _ _ _
  · refine h.save User.isPlaced_stable ?_ _ _
    simp only [Seed.users, List.mem_cons, List.not_mem_nil, or_false] at hu
    rcases hu with rfl | rfl | rfl <;> rfl
  · intro row hrow
    cases hrow

theorem Reached.placed {r : Registry} (h : Reached limits r) :
    r.store.Shows User.kind User.IsPlaced :=
  h.induction (fun _ hrow => by cases hrow) (fun supply _ => placed_load supply)
    fun p _ placed => placed_apply p placed

/-- The user under the key stays, or the caller covers what was there and what is there now. -/
def Confined (caller : Caller) (key : String) (s t : Store) : Prop :=
  t.row? User.kind.entityType key = s.row? User.kind.entityType key ∨
    (∀ row, s.row? User.kind.entityType key = some row → caller.CoversRow row) ∧
    ∀ row, t.row? User.kind.entityType key = some row → caller.CoversRow row

theorem Confined.save (h : Confined caller key start s) {u : User} (covered : u.IsCovered caller)
    (supply : Supply) (author : Author)
    (before : key = User.kind.key (s.named User.kind supply u) →
      ∀ row, start.row? User.kind.entityType key = some row → caller.CoversRow row) :
    Confined caller key start (s.save User.kind supply author u).1 := by
  have named := Store.named_of_stable (User.isCovered_stable caller) supply covered s
  rcases Store.row?_save_cases User.kind_lawful supply author u s User.kind.entityType key with
    ⟨same, _⟩ | ⟨x, _, _, own, which, _, shown⟩
  · unfold Confined
    rw [same]
    exact h
  · refine .inr ⟨before ?_, fun row hrow => ?_⟩
    · rcases which with rfl | ⟨n, rfl⟩
      · exact own.symm
      · exact own.symm
    rw [shown] at hrow
    cases hrow
    rcases which with rfl | ⟨n, rfl⟩
    · exact ⟨_, rfl, named⟩
    · exact ⟨_, rfl, (User.isCovered_stable caller).setVersion n named⟩

theorem Confined.delete (h : Confined caller key start s) (now : Instant) (author : Author)
    (u : User)
    (before : key = User.kind.key u →
      ∀ row, start.row? User.kind.entityType key = some row → caller.CoversRow row) :
    Confined caller key start (s.delete User.kind now author u).1 := by
  rcases Store.row?_delete_cases (k := User.kind) now author u s User.kind.entityType key with
    ⟨same, _⟩ | ⟨⟨_, _, own⟩, gone⟩
  · unfold Confined
    rw [same]
    exact h
  · refine .inr ⟨before own.symm, fun row hrow => ?_⟩
    rw [gone] at hrow
    cases hrow

/-- The row of a stored user that the caller may handle shows that the caller covers the user. -/
theorem coversRow_of_permit (kept : start.Kept) (placed : start.Shows User.kind User.IsPlaced)
    (restricted : caller.isRestricted) {id : Int} {stored : User}
    (found : start.find? User.kind id = .ok (some stored))
    (permitted : User.permit stored caller = .ok ()) {row : SavedRow}
    (there : start.row? User.kind.entityType (Identifier.text id) = some row) :
    caller.CoversRow row := by
  obtain ⟨row', there', decoded⟩ := Store.row_of_find? found
  cases there.symm.trans there'
  have known := (kept.wellKept.known_of_find? User.kind_lawful found).2
  obtain ⟨code, hcode, covers⟩ := User.isCovered_of_permit known restricted permitted
  obtain ⟨u, shown, _⟩ :=
    placed row (Store.mem_of_row? there) (SavedRow.isAt_iff.1 (Store.isAt_of_row? there)).1
  rw [shown] at decoded
  exact ⟨u, shown, code, (User.code_of_decode decoded).symm.trans hcode, covers⟩

theorem isCovered_of_draft (restricted : caller.isRestricted) {drawn u : User}
    (draft : (users limits).Draft supply caller job drawn u) : u.IsCovered caller := by
  obtain ⟨_, x, _, prepared, finished⟩ := draft.made
  have covered : x.IsCovered caller := User.isCovered_of_prepare restricted prepared
  rcases finished with rfl | rfl
  · exact covered
  · exact covered

theorem confined_course (kept : start.Kept) (placed : start.Shows User.kind User.IsPlaced)
    (restricted : caller.isRestricted) (keeps : job.KeepsId User.kind) {taken : List Int}
    (course : (users limits).Course supply caller job start taken t) (key : String) :
    Confined caller key start t := by
  induction course with
  | none => exact .inl rfl
  | pass before id ih => exact ih
  | @save taken s before id other stored u found draft rules creating checked ih =>
    refine ih.save (isCovered_of_draft restricted draft) supply _ fun here row there => ?_
    have own : s.named User.kind supply u = u ∧ User.kind.key u = Identifier.text id :=
      draft.key_named User.kind_lawful users_keepsId keeps kept.wellKept found s
    rw [here, own.1, own.2] at there
    exact coversRow_of_permit kept placed restricted found draft.permitted there
  | @delete taken s before id other stored found permitted ih =>
    refine ih.delete supply.now _ stored fun here row there => ?_
    have own := (kept.wellKept.known_of_find? User.kind_lawful found).1
    rw [here, Store.key_of_id own] at there
    exact coversRow_of_permit kept placed restricted found permitted there

theorem confined_entered (kept : start.Kept) (restricted : caller.isRestricted)
    (keeps : job.KeepsId User.kind) {u : User}
    (draft : (users limits).Draft supply caller job User.kind.blank u) (author : Author)
    (key : String) : Confined caller key start (start.save User.kind supply author u).1 := by
  obtain ⟨edited, edits, prepared⟩ := draft.prepared
  have nameless : u.id = none := number_of_prepared keeps edits prepared
  have new : User.kind.isNew u := by simp [Kind.isNew, User.kind, nameless]
  refine Confined.save (.inl rfl) (isCovered_of_draft restricted draft) supply author ?_
  intro here row there
  rw [here, Store.key_named_of_isNew User.kind_lawful new] at there
  cases kept.userKeys.vacant.symm.trans there

theorem confined_handled (kept : start.Kept) (placed : start.Shows User.kind User.IsPlaced)
    (restricted : caller.isRestricted) (keeps : job.KeepsId User.kind)
    (handled : (users limits).Handled supply caller job start t) (key : String) :
    Confined caller key start t := by
  cases handled with
  | entered draft checked => exact confined_entered kept restricted keeps draft _ key
  | course course => exact confined_course kept placed restricted keeps course key

/-- Each user has the identifier of the department as code. A caller with scopes changes no user
but those whose code the caller covers, and whoever is there afterwards has a code that the caller
covers, whatever the request. -/
theorem restricted_callers_confined {r : Registry} (reached : Reached limits r) :
    r.store.Shows User.kind User.IsPlaced ∧
    ∀ p : Posted, p.caller.isRestricted → p.post.place = .user → ∀ key,
      r.store.row? User.kind.entityType key ≠
        (p.apply limits r).store.row? User.kind.entityType key →
      (∀ row, r.store.row? User.kind.entityType key = some row → p.caller.CoversRow row) ∧
      ∀ row, (p.apply limits r).store.row? User.kind.entityType key = some row →
        p.caller.CoversRow row := by
  have kept := reached.kept
  have placed := reached.placed
  refine ⟨placed, fun p restricted place key differs => ?_⟩
  have confined : Confined p.caller key r.store (p.apply limits r).store := by
    refine p.carryOut_cases limits
      (P := fun action => Confined p.caller key r.store (action r).1.store) (fun _ => .inl rfl)
      ?_ ?_ ?_
    · intro order params elsewhere
      rw [elsewhere] at place
      cases place
    · intro order params elsewhere
      rw [elsewhere] at place
      cases place
    · intro job _ _ keeps
      exact confined_handled kept placed restricted keeps
        ((users limits).handled_perform p.supply p.caller job r) key
  rcases confined with same | covered
  · exact absurd same.symm differs
  · exact covered

def numbering : Supply := ⟨⟨0, 0⟩, fun n => "t" ++ Number.natText n⟩

theorem numbering_isSound : numbering.IsSound := by
  intro n
  simp [numbering, Text.allBlank, show Text.isBlank 't' = false by decide]

def organisation : Registry := (begin { seeded := true } numbering).1

theorem reached_organisation : Reached {} organisation :=
  ⟨{ seeded := true }, numbering, [], numbering_isSound, rfl⟩

def deputy : Caller := { userId := "deputy", level := some 2, scopes := ["D10"] }

def disabling (id : String) : Posted where
  supply := numbering
  sound := numbering_isSound
  caller := deputy
  post := .userState ⟨.mutation, [("ids", id), ("state", "disable")]⟩

theorem deputy_disables_covered_user :
    Reached {} organisation ∧ (disabling "9").caller.isRestricted ∧
    (disabling "9").post.place = .user ∧
    organisation.store.row? "user" "9" ≠ ((disabling "9").apply {} organisation).store.row? "user" "9" ∧
    ∀ row, organisation.store.row? "user" "9" = some row →
      (disabling "9").caller.CoversRow row := by
  have differs : organisation.store.row? User.kind.entityType "9" ≠
      ((disabling "9").apply {} organisation).store.row? User.kind.entityType "9" := by
    intro same
    have before : (organisation.store.row? "user" "9").map SavedRow.version = some 0 := by
      decide +kernel
    have after : (((disabling "9").apply {} organisation).store.row? "user" "9").map
        SavedRow.version = some 1 := by decide +kernel
    cases before.symm.trans ((congrArg (Option.map SavedRow.version) same).trans after)
  exact ⟨reached_organisation, rfl, rfl, differs,
    ((restricted_callers_confined reached_organisation).2 (disabling "9") rfl rfl "9" differs).1⟩

end Web
end Registrar
