import Registrar.Proofs.Desk.Naming
import Registrar.Proofs.Page.Slices
import Registrar.Proofs.Web.Levels

/-!
What callers get to see of single roles. Lists are cut down to the caller's level; a read of one role, of
its trail or of two of its revisions asks the policy whether the caller may access the role, and the policy
of roles lets everyone. Main statement: such a read shows a role above the caller's level just if the
request names one, and then it answers everyone.
-/

namespace Registrar

open Json

section Answers

variable {α β ε : Type} {x : Except ε α} {b : β}

theorem of_bind_eq_ok {f : α → Except ε β} (h : (x >>= f) = .ok b) :
    ∃ a, x = .ok a ∧ f a = .ok b := by
  cases x with
  | error fault => cases h
  | ok a => exact ⟨a, rfl, h⟩

theorem of_map_eq_ok {f : α → β} (h : x.map f = .ok b) : ∃ a, x = .ok a ∧ f a = b := by
  cases x with
  | error fault => cases h
  | ok a => exact ⟨a, rfl, Except.ok.inj h⟩

theorem of_map_eq_error {f : α → β} {fault : ε} (h : x.map f = .error fault) : x = .error fault := by
  cases x with
  | error other => exact congrArg Except.error (Except.error.inj h)
  | ok a => cases h

end Answers

theorem SavedRow.IsCoherent.textAt {row : SavedRow} (h : row.IsCoherent) :
    Row.textAt row.content "id" = row.key := by
  obtain ⟨v, shown, filled, text⟩ := h.id
  rw [Row.textAt_id shown filled, text]

namespace Store

variable {s t : Store}

def RevisionsNamed (s : Store) : Prop :=
  ∀ rev ∈ s.revisions, Row.textAt rev.content "id" = rev.entityKey

theorem RevisionsNamed.log (h : s.RevisionsNamed) {type : RevisionType} {now : Instant}
    {author : Author} {oldState : Option String} {row : SavedRow} (coherent : row.IsCoherent)
    (revisions : t.revisions = s.log type now author oldState row) : t.RevisionsNamed := by
  intro rev hrev
  rw [revisions, log_eq] at hrev
  rcases List.mem_append.1 hrev with old | new
  · exact h rev old
  · cases List.mem_singleton.1 new
    exact coherent.textAt

theorem RevisionsNamed.change (h : s.RevisionsNamed) (rows : ∀ row ∈ s.rows, row.IsCoherent)
    (change : s.Change t) : t.RevisionsNamed := by
  cases change with
  | idle _ revisions =>
    intro rev hrev
    exact h rev (revisions ▸ hrev)
  | add now author row vacant first coherent _ revisions => exact h.log coherent revisions
  | replace now author old row found next coherent _ revisions => exact h.log coherent revisions
  | remove now author row found _ revisions =>
    exact h.log (rows row (mem_of_row? found)) revisions

end Store

theorem ChangeFilter.mem_of_mem_select {wish : ChangeFilter} {previous : Option Value}
    {trail : List Revision} {rev : Revision} (h : rev ∈ wish.select previous trail) :
    rev ∈ trail := by
  induction trail generalizing previous with
  | nil => cases h
  | cons first rest ih =>
    unfold select at h
    dsimp only at h
    split at h
    · rcases List.mem_cons.1 h with rfl | later
      · exact List.mem_cons_self
      · exact List.mem_cons_of_mem _ (ih later)
    · exact List.mem_cons_of_mem _ (ih h)

namespace Desk

/-- The reads of one record: the record, its trail, and two revisions of it side by side. -/
inductive Look
  | view
  | trail
  | comparison

variable {I E : Type} [Identifier I] (d : Desk I E)

/-- The contents of records that the answer to a read shows. -/
def look (params : Params) (caller : Caller) (store : Store) : Look → Except Error (List Value)
  | .view => (d.view params caller store).map fun e => [d.kind.encode e]
  | .trail => (d.revisions params caller store).map fun page => page.content.map Revision.content
  | .comparison => (d.compareRevisions params caller store).map fun c =>
      (c.left.toList ++ c.right.toList).map Revision.content

variable {d} {params : Params} {caller : Caller} {s : Store}

theorem requestId_of_requiredId {id : I} (h : requiredId params = .ok id) :
    requestId params = .ok (some id) := by
  unfold requiredId at h
  split at h
  · next named =>
    cases h
    exact named
  · cases h
  · cases h

theorem revisions_cases {page : Page Revision} (h : d.revisions params caller s = .ok page) :
    ∃ id, requestId (I := I) params = .ok (some id) ∧ ∀ rev ∈ page.content,
      ∃ own ∈ s.revisions, own.entityKey = Identifier.text id ∧ rev.content = own.content := by
  obtain ⟨id, required, h⟩ := of_bind_eq_ok h
  obtain ⟨_, allowed, h⟩ := of_bind_eq_ok h
  obtain ⟨wish, wished, h⟩ := of_bind_eq_ok h
  refine ⟨id, requestId_of_requiredId required, fun rev hrev => ?_⟩
  obtain ⟨own, kept, rfl⟩ := List.mem_map.1 (List.mem_reverse.1 (Page.mem_of_mem_content h hrev))
  have listed : own ∈ s.revisionsOf d.kind.entityType (Identifier.text id) := by
    cases wish with
    | none => exact kept
    | some wish => exact ChangeFilter.mem_of_mem_select kept
  obtain ⟨there, about⟩ := List.mem_filter.1 listed
  simp only [Bool.and_eq_true, beq_iff_eq] at about
  exact ⟨own, there, about.2, rfl⟩

theorem compareRevisions_cases {c : Comparison} (h : d.compareRevisions params caller s = .ok c) :
    ∃ id, requestId (I := I) params = .ok (some id) ∧ ∀ rev ∈ c.left.toList ++ c.right.toList,
      rev ∈ s.revisions ∧ rev.entityKey = Identifier.text id := by
  obtain ⟨id, required, h⟩ := of_bind_eq_ok h
  obtain ⟨left, _, h⟩ := of_bind_eq_ok h
  obtain ⟨right, _, h⟩ := of_bind_eq_ok h
  obtain ⟨_, allowed, h⟩ := of_bind_eq_ok h
  cases h
  refine ⟨id, requestId_of_requiredId required, fun rev hrev => ?_⟩
  have listed : rev ∈ s.revisionsAt d.kind.entityType (Identifier.text id) [left, right] := by
    rcases List.mem_append.1 hrev with found | found
    · exact List.mem_of_find?_eq_some (Option.mem_toList.1 found)
    · exact List.mem_of_find?_eq_some (Option.mem_toList.1 found)
  obtain ⟨there, about⟩ := List.mem_filter.1 (List.mem_filter.1 listed).1
  simp only [Bool.and_eq_true, beq_iff_eq] at about
  exact ⟨there, about.2⟩

theorem textAt_of_look [LawfulIdentifier I] (law : d.kind.Lawful) (kept : s.WellKept)
    (named : s.RevisionsNamed) {look : Look} {values : List Value}
    (h : d.look params caller s look = .ok values) :
    ∃ id, requestId (I := I) params = .ok (some id) ∧
      ∀ v ∈ values, Row.textAt v "id" = Identifier.text id := by
  cases look with
  | view =>
    obtain ⟨e, answer, rfl⟩ := of_map_eq_ok h
    obtain ⟨id, stored, asked, found, bound⟩ := view_cases answer
    have own := (Kind.id_bind law bound).trans (kept.known_of_find? law found).1
    refine ⟨id, asked, fun v hv => ?_⟩
    cases List.mem_singleton.1 hv
    exact law.textAt_encode own
  | trail =>
    obtain ⟨page, answer, rfl⟩ := of_map_eq_ok h
    obtain ⟨id, asked, about⟩ := revisions_cases answer
    refine ⟨id, asked, fun v hv => ?_⟩
    obtain ⟨rev, hrev, rfl⟩ := List.mem_map.1 hv
    obtain ⟨own, there, key, same⟩ := about rev hrev
    rw [same, named own there, key]
  | comparison =>
    obtain ⟨c, answer, rfl⟩ := of_map_eq_ok h
    obtain ⟨id, asked, about⟩ := compareRevisions_cases answer
    refine ⟨id, asked, fun v hv => ?_⟩
    obtain ⟨rev, hrev, rfl⟩ := List.mem_map.1 hv
    obtain ⟨there, key⟩ := about rev hrev
    rw [named rev there, key]

end Desk

/-- The row shows a role above the caller's level. -/
def SavedRow.IsBeyond (caller : Caller) (row : SavedRow) : Prop :=
  ∃ own, caller.level = some own ∧ row.IsAbove own

namespace Web

variable {limits : PageLimits} {r : Registry} {params : Params} {caller : Caller}

theorem Reached.revisionsNamed (h : Reached limits r) : r.store.RevisionsNamed := by
  have both : (∀ row ∈ r.store.rows, row.IsCoherent) ∧ r.store.RevisionsNamed :=
    h.of_writes (P := fun s => (∀ row ∈ s.rows, row.IsCoherent) ∧ s.RevisionsNamed)
      ⟨fun _ hrow => absurd hrow List.not_mem_nil, fun _ hrev => absurd hrev List.not_mem_nil⟩
      fun w s ⟨rows, named⟩ => ⟨Store.coherent_change rows (Store.change_apply w s),
        named.change rows (Store.change_apply w s)⟩
  exact both.2

/-- The read of a role shows the content of a stored role above the caller's level. -/
def Discloses (limits : PageLimits) (params : Params) (caller : Caller) (s : Store)
    (look : Desk.Look) : Prop :=
  ∃ values v row, (roles limits).look params caller s look = .ok values ∧ v ∈ values ∧
    s.row? Role.kind.entityType (Row.textAt v "id") = some row ∧ row.IsBeyond caller

theorem look_roles (params : Params) (caller anyone : Caller) (s : Store) (look : Desk.Look) :
    (roles limits).look params caller s look = (roles limits).look params anyone s look := by
  cases look <;> rfl

/-- A read of one role, of its trail or of two of its revisions shows the content of a role above the
caller's level just if the request names a role above the level and the same request shows something to
everyone. -/
theorem role_disclosed_iff (reached : Reached limits r) (params : Params) (caller : Caller)
    (look : Desk.Look) :
    Discloses limits params caller r.store look ↔
      ∃ id row, Desk.requestId params = .ok (some id) ∧
        r.store.row? Role.kind.entityType id = some row ∧ row.IsBeyond caller ∧
        ∀ anyone : Caller, ∃ v rest,
          (roles limits).look params anyone r.store look = .ok (v :: rest) := by
  have shown {values : List Value}
      (answer : (roles limits).look params caller r.store look = .ok values) :=
    Desk.textAt_of_look (d := roles limits) Role.kind_lawful reached.kept.wellKept
      reached.revisionsNamed answer
  constructor
  · rintro ⟨values, v, row, answer, hv, there, beyond⟩
    obtain ⟨id, asked, own⟩ := shown answer
    rw [own v hv] at there
    refine ⟨id, row, asked, there, beyond, fun anyone => ?_⟩
    rw [look_roles params anyone caller, answer]
    cases values with
    | nil => cases hv
    | cons first rest => exact ⟨first, rest, rfl⟩
  · rintro ⟨id, row, asked, there, beyond, open_⟩
    obtain ⟨v, rest, answer⟩ := open_ caller
    obtain ⟨other, named, own⟩ := shown answer
    cases asked.symm.trans named
    refine ⟨v :: rest, v, row, answer, List.mem_cons_self, ?_, beyond⟩
    rw [own v List.mem_cons_self]
    exact there

/-- The deputy gets to see no role above when looking at the one of the operators. -/
theorem deputy_views_operations :
    Reached {} organisation ∧ deputy.level = some 2 ∧
    ((roles {}).look ⟨.read, [("id", "t3")]⟩ deputy organisation.store .view).isOk ∧
    ¬Discloses {} ⟨.read, [("id", "t3")]⟩ deputy organisation.store .view := by
  refine ⟨reached_organisation, rfl, by decide +kernel, fun disclosed => ?_⟩
  obtain ⟨id, row, asked, there, ⟨own, level, role, shown, above⟩, _⟩ :=
    (role_disclosed_iff reached_organisation _ _ _).1 disclosed
  cases level
  cases asked
  have stored : (organisation.store.row? Role.kind.entityType "t3").bind
      (fun row => row.content.field? "aclType") = some (.int 2) := by rfl
  rw [show organisation.store.row? Role.kind.entityType "t3" = some row from there, Option.bind_some,
    shown] at stored
  have two : role.level = 2 := Value.int.inj (Option.some.inj stored)
  omega

/-- The deputy gets to see the role of the administrators, in each way in which a role can be read. -/
theorem deputy_sees_administration :
    Reached {} organisation ∧ deputy.level = some 2 ∧ administration.level = 9 ∧
    Discloses {} ⟨.read, [("id", "t1")]⟩ deputy organisation.store .view ∧
    Discloses {} ⟨.read, [("id", "t1")]⟩ deputy organisation.store .trail ∧
    Discloses {} ⟨.read, [("id", "t1"), ("revLeft", "5"), ("revRight", "5")]⟩ deputy
      organisation.store .comparison := by
  have beyond : (Role.kind.row "t1" administration).IsBeyond deputy :=
    ⟨2, rfl, administration, rfl, by decide⟩
  have shown : Row.textAt (Role.kind.encode administration) "id" = "t1" := by decide +kernel
  refine ⟨reached_organisation, rfl, rfl, ?_, ?_, ?_⟩ <;>
    exact ⟨_, Role.kind.encode administration, _, rfl, List.mem_cons_self,
      (congrArg _ shown).trans row?_administration, beyond⟩

end Web
end Registrar
