import Registrar.Proofs.Store.Step

/-!
Where records come from. The current life of a record begins with the revision that added it. Main
statement: if each new record names its author, and each other save leaves some entries of the record as
they were, then the entries of every row show what the revision shows that its life began with.
-/

namespace Registrar

open Json

/-- The current life in a trail begins with the revision, an addition with modifications behind it. -/
def Revision.Begins (first : Revision) (trail : List Revision) : Prop :=
  ∃ front rest, trail = front ++ first :: rest ∧ first.type = .add ∧ ∀ r ∈ rest, r.type = .modify

namespace Revision

variable {first r : Revision} {trail : List Revision}

theorem begins_add (type : r.type = .add) : r.Begins (trail ++ [r]) :=
  ⟨trail, [], rfl, type, by simp⟩

theorem Begins.modify (h : first.Begins trail) (type : r.type = .modify) :
    first.Begins (trail ++ [r]) := by
  obtain ⟨front, rest, split, adds, modifies⟩ := h
  refine ⟨front, rest ++ [r], by simp [split], adds, fun x hx => ?_⟩
  rcases List.mem_append.1 hx with hx | hx
  · exact modifies x hx
  · cases List.mem_singleton.1 hx
    exact type

theorem Begins.mem (h : first.Begins trail) : first ∈ trail := by
  obtain ⟨front, rest, split, _⟩ := h
  simp [split]

end Revision

namespace SavedRow

variable {names : List String} {row old : SavedRow} {trail : List Revision} {r : Revision}

/-- The rows show the same under the names. -/
def Agrees (names : List String) (row old : SavedRow) : Prop :=
  ∀ name ∈ names, row.content.field? name = old.content.field? name

/-- The row shows under the names what the revision shows that its life began with, and the actor of
that revision as the one who created the record. -/
def FoundedOn (names : List String) (row : SavedRow) (trail : List Revision) : Prop :=
  ∃ first : Revision, first.Begins trail ∧
    (∀ name ∈ names, row.content.field? name = first.content.field? name) ∧
    row.content.field? "createdBy" = some (.text first.actor)

theorem foundedOn_add (type : r.type = .add) (shown : r.content = row.content)
    (author : row.content.field? "createdBy" = some (.text r.actor)) :
    row.FoundedOn names (trail ++ [r]) := by
  refine ⟨r, Revision.begins_add type, fun name _ => ?_, author⟩
  rw [shown]

theorem FoundedOn.modify (h : old.FoundedOn names trail) (created : "createdBy" ∈ names)
    (type : r.type = .modify) (same : row.Agrees names old) : row.FoundedOn names (trail ++ [r]) := by
  obtain ⟨first, begins, shown, author⟩ := h
  exact ⟨first, begins.modify type, fun name hname => (same name hname).trans (shown name hname),
    (same _ created).trans author⟩

end SavedRow

namespace Store

variable {s t u : Store} {entityType : String} {names : List String}

/-- All rows of a type are founded on their trails. -/
def Founded (entityType : String) (names : List String) (s : Store) : Prop :=
  ∀ key row, s.row? entityType key = some row → row.FoundedOn names (s.revisionsOf entityType key)

def Retains (entityType : String) (names : List String) (s t : Store) : Prop :=
  ∀ key row, s.row? entityType key = some row →
    ∃ next, t.row? entityType key = some next ∧ next.Agrees names row

theorem retains_of_rows (rows : t.rows = s.rows) : s.Retains entityType names t := by
  intro key row there
  exact ⟨row, (row?_congr rows).trans there, fun _ _ => rfl⟩

theorem Retains.trans (first : s.Retains entityType names t) (then_ : t.Retains entityType names u) :
    s.Retains entityType names u := by
  intro key row there
  obtain ⟨next, there, same⟩ := first key row there
  obtain ⟨last, there, again⟩ := then_ key next there
  exact ⟨last, there, fun name hname => (again name hname).trans (same name hname)⟩

theorem Founded.untouched (h : s.Founded entityType names) (rows : t.rows = s.rows)
    (revisions : t.revisions = s.revisions) : t.Founded entityType names := by
  intro key row there
  rw [row?_congr rows] at there
  rw [revisionsOf_congr revisions]
  exact h key row there

section Written

variable {now : Instant} {author : Author} {old : SavedRow} (row : SavedRow)

theorem Founded.added (h : s.Founded entityType names)
    (vacant : s.row? row.entityType row.key = none) (rows : t.rows = s.rows ++ [row])
    (revisions : t.revisions = s.log .add now author none row)
    (authored : row.entityType = entityType →
      row.content.field? "createdBy" = some (.text author.actor)) : t.Founded entityType names := by
  intro key shown there
  rw [row?_append row vacant rows] at there
  rw [revisionsOf_log revisions]
  split
  · next here =>
    rw [if_pos here] at there
    cases there
    exact SavedRow.foundedOn_add rfl rfl (authored (SavedRow.isAt_iff.1 here).1)
  · next away =>
    rw [if_neg away] at there
    exact h key shown there

theorem Founded.replaced (h : s.Founded entityType names) (created : "createdBy" ∈ names)
    (found : s.row? row.entityType row.key = some old)
    (rows : t.rows = s.rows.map fun r => if r.isAt row.entityType row.key then row else r)
    (revisions : t.revisions = s.log .modify now author old.state row)
    (agrees : row.entityType = entityType → row.Agrees names old) :
    t.Founded entityType names := by
  intro key shown there
  rw [row?_map row found rows] at there
  rw [revisionsOf_log revisions]
  split
  · next here =>
    rw [if_pos here] at there
    cases there
    obtain ⟨rfl, rfl⟩ := SavedRow.isAt_iff.1 here
    exact (h _ old found).modify created rfl (agrees rfl)
  · next away =>
    rw [if_neg away] at there
    exact h key shown there

theorem Founded.removed (h : s.Founded entityType names)
    (rows : t.rows = s.rows.filter fun r => !r.isAt row.entityType row.key)
    (revisions : t.revisions = s.log .delete now author row.state row) :
    t.Founded entityType names := by
  intro key shown there
  rw [row?_filter row rows] at there
  split at there
  · cases there
  · next away =>
    rw [revisionsOf_log revisions, if_neg away]
    exact h key shown there

end Written

section Records

variable {I E : Type} [Identifier I] {k : Kind I E} {supply : Supply} {author : Author} {e : E}

theorem agrees_setVersion (law : k.Lawful) (unversioned : "version" ∉ names) {key : String} {n : Int}
    {x : E} {old : SavedRow} (h : (k.row key x).Agrees names old) :
    (k.row key (k.setVersion n x)).Agrees names old := by
  intro name hname
  have other : name ≠ "version" := fun same => unversioned (same ▸ hname)
  exact (law.field_setVersion n x other).trans (h name hname)

/-- A save leaves the rows of a type founded if a record that it adds names the author, and one that it
puts over a row agrees with the row. -/
theorem Founded.save (h : s.Founded entityType names) (law : k.Lawful) (created : "createdBy" ∈ names)
    (unversioned : "version" ∉ names)
    (adds : k.entityType = entityType → s.row? k.entityType (k.key (s.named k supply e)) = none →
      (k.encode (s.named k supply e)).field? "createdBy" = some (.text author.actor))
    (agrees : k.entityType = entityType → ∀ old,
      s.row? k.entityType (k.key (s.named k supply e)) = some old →
        (k.row (k.key (s.named k supply e)) (s.named k supply e)).Agrees names old) :
    (s.save k supply author e).1.Founded entityType names := by
  have way := s.saving k supply author e
  generalize s.save k supply author e = result at way
  cases way with
  | replaced counted old rows revisions found current next bumped =>
    refine h.replaced (k.row (k.key (s.named k supply e)) next) created found (rows_replace rows)
      (revisions_replace revisions) fun type => ?_
    rw [bumped]
    exact agrees_setVersion law unversioned (agrees type old found)
  | outdated counted old rows revisions found stale => exact h.untouched rows revisions
  | added counted rows revisions vacant first =>
    exact h.added (k.row (k.key (s.named k supply e)) (s.named k supply e)) vacant (rows_add rows)
      (revisions_add revisions) fun type => adds type vacant
  | gone counted rows revisions vacant later => exact h.untouched rows revisions

theorem Founded.delete (h : s.Founded entityType names) (now : Instant) :
    (s.delete k now author e).1.Founded entityType names := by
  unfold Store.delete
  split
  · exact h
  · split
    · next gone _ => exact h.removed gone rfl rfl
    · exact h

theorem retains_save (law : k.Lawful) (unversioned : "version" ∉ names)
    (agrees : ∀ old, s.row? k.entityType (k.key (s.named k supply e)) = some old →
      (k.row (k.key (s.named k supply e)) (s.named k supply e)).Agrees names old) :
    s.Retains k.entityType names (s.save k supply author e).1 := by
  intro key row there
  rcases row?_save_cases law supply author e s k.entityType key with
    ⟨same, _⟩ | ⟨x, done, _, own, which, _, shown⟩
  · exact ⟨row, same.trans there, fun _ _ => rfl⟩
  · refine ⟨_, shown, ?_⟩
    have sameKey : k.key (s.named k supply e) = key := by
      rw [← own, Kind.key, Kind.key, Kind.idText?, Kind.idText?, id_saved law done]
    rw [sameKey] at agrees
    rcases which with rfl | ⟨n, rfl⟩
    · exact agrees row there
    · exact agrees_setVersion law unversioned (agrees row there)

end Records
end Store
end Registrar
