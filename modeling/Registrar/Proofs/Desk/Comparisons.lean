import Registrar.Proofs.Desk.Trails
import Registrar.Proofs.Kind.Lawful
import Registrar.Proofs.Store.Recorded

/-!
What a desk shows of two revisions of a record, side by side. Main statement: if the contents of the record
name others by keys that are not empty, the answer has a row for each field to compare, with a side for each
of the two revisions that the record has; a side shows a plain value as the revision has it, and a reference
as the record is called now that it names.
-/

namespace Registrar

open Json

/-- Some writes have led to the store, and whatever writes they were, one of them made the revision. -/
def Revision.IsMade (s : Store) (rev : Revision) : Prop :=
  (∃ writes, s = .run writes {}) ∧ ∀ writes, s = .run writes {} →
    ∃ front w rest, writes = front ++ w :: rest ∧ Store.Write.Makes w (.run front {}) rev

theorem Revision.isMade_of_mem {s : Store} (written : ∃ writes, s = .run writes {}) {rev : Revision}
    (h : rev ∈ s.revisions) : rev.IsMade s :=
  ⟨written, fun writes same => Store.exists_makes writes (same ▸ h)⟩

def Store.called (s : Store) (entityType key : String) : String :=
  ((s.row? entityType key).map SavedRow.display).getD notAvailable

theorem Resolver.render_ofStore (s : Store) (entityType key : String) :
    (ofStore s).render entityType key = s.called entityType key := by
  unfold render ofStore Store.display Store.display? Store.called
  cases there : s.row? entityType key with
  | none => simp [there]
  | some row => simp [there]

theorem referenceKey?_toValue {key : String} (filled : key ≠ "") :
    referenceKey? (Reference.toValue ⟨key⟩) = some key := by
  show ((some key).filter fun key => decide (key ≠ "")) = some key
  simp [filled]

/-- There is no reference, or one with a key. -/
def Reference.IsFilled (reference : Option Reference) : Prop := reference.map Reference.id ≠ some ""

/-- Each reference among the fields to compare names a record, or it is null. -/
def Json.Value.Refers (content : Value) (s : Schema) : Prop :=
  ∀ f ∈ s.comparable, f.isReference → ∃ reference,
    content.field? f.name = some (.ofOption Reference.toValue reference) ∧ Reference.IsFilled reference

theorem Json.Value.refers_of_field {content : Value} {s : Schema} (name : String)
    {reference : Option Reference} (only : ∀ f ∈ s.comparable, f.isReference → f.name = name)
    (shown : content.field? name = some (.ofOption Reference.toValue reference))
    (filled : Reference.IsFilled reference) : content.Refers s := by
  intro f hf isReference
  rw [only f hf isReference]
  exact ⟨reference, shown, filled⟩

namespace Comparison

/-- What a side of a row shows of a field: nothing of one that is missing or null, the text of a plain
value, and of a reference what the row under its type and key is called now. -/
structure Shows (s : Store) (f : Field) (content : Value) (text : String) : Prop where
  nothing : (∀ v, content.field? f.name = some v → v = .null) → text = ""
  plain {v : Value} : content.field? f.name = some v → v ≠ .null → f.target? = none →
    text = Row.text v
  reference {v : Value} {target : String} : content.field? f.name = some v → v ≠ .null →
    f.target? = some target → ∃ key, v = Reference.toValue ⟨key⟩ ∧ text = s.called target key

theorem shows_fieldText (s : Store) {f : Field} {content : Value}
    (refers : f.isReference → ∃ reference,
      content.field? f.name = some (.ofOption Reference.toValue reference) ∧
        Reference.IsFilled reference) :
    Shows s f content (fieldText (.ofStore s) f content) := by
  have isNull {v : Value} (h : v ≠ .null) : v.isNull = false := by cases v <;> simp_all [Value.isNull]
  refine ⟨fun null => ?_, fun {v} there filled plain => ?_, fun {v target} there filled named => ?_⟩
  · unfold fieldText
    cases there : content.field? f.name with
    | none => rfl
    | some v =>
      rw [null v there]
      rfl
  · simp [fieldText, there, isNull filled, plain]
  · obtain ⟨reference, shown, key⟩ := refers (by simp [Field.isReference, named])
    cases there.symm.trans shown
    cases reference with
    | none => exact absurd rfl filled
    | some ref =>
      obtain ⟨own⟩ := ref
      have own_ne : own ≠ "" := fun empty => key (congrArg some empty)
      refine ⟨own, rfl, ?_⟩
      have notNull : (Reference.toValue ⟨own⟩).isNull = false := rfl
      simp only [fieldText, there, Value.ofOption, Option.getD_some, notNull, named,
        referenceKey?_toValue own_ne, Option.map_some, Resolver.render_ofStore, Bool.false_eq_true,
        if_false]

/-- A side of a row for a revision number: empty if the record has no such revision, else what its content
shows, which one of the writes that led to the store made so. -/
inductive Side (s : Store) (entityType key : String) (number : Int) (f : Field) :
    Option String → Prop
  | missing (vacant : ∀ rev ∈ s.revisions, rev.IsAt entityType key → rev.number ≠ number) :
      Side s entityType key number f none
  | shown {rev : Revision} {text : String} (logged : rev ∈ s.revisions)
      (about : rev.IsAt entityType key) (own : rev.number = number) (made : rev.IsMade s)
      (shows : Shows s f rev.content text) : Side s entityType key number f (some text)

/-- The row is about the field, and has a side for each of the two revision numbers. -/
structure Compares (s : Store) (entityType key : String) (left right : Int) (f : Field)
    (row : ComparedField) : Prop where
  field : row.field = f.name
  label : row.label = f.label
  left : Side s entityType key left f row.left
  right : Side s entityType key right f row.right

variable {s : Store} {entityType key : String} {number : Int}

theorem isAt_of_mem_revisionsOf {rev : Revision} (h : rev ∈ s.revisionsOf entityType key) :
    rev ∈ s.revisions ∧ rev.IsAt entityType key := by
  obtain ⟨logged, about⟩ := List.mem_filter.1 h
  simpa [logged, Revision.IsAt] using about

theorem find?_revisionsAt {numbers : List Int} (h : number ∈ numbers) :
    (s.revisionsAt entityType key numbers).find? (fun r => r.number == number) =
      (s.revisionsOf entityType key).find? fun r => r.number == number := by
  rw [Store.revisionsAt, List.find?_filter]
  congr 1
  funext r
  by_cases same : r.number = number
  · simp [same, h]
  · simp [same]

theorem side_of_revision (written : ∃ writes, s = .run writes {}) {f : Field}
    (refers : ∀ rev ∈ s.revisions, rev.entityType = entityType → f.isReference → ∃ reference,
      rev.content.field? f.name = some (.ofOption Reference.toValue reference) ∧
        Reference.IsFilled reference) :
    Side s entityType key number f
      (((s.revisionsOf entityType key).find? fun r => r.number == number).map fun r =>
        fieldText (.ofStore s) f r.content) := by
  cases found : (s.revisionsOf entityType key).find? fun r => r.number == number with
  | none =>
    refine .missing fun rev logged about same => ?_
    have listed : rev ∈ s.revisionsOf entityType key :=
      List.mem_filter.2 ⟨logged, by simp [about.1, about.2]⟩
    exact List.find?_eq_none.1 found rev listed (beq_iff_eq.2 same)
  | some rev =>
    obtain ⟨logged, about⟩ := isAt_of_mem_revisionsOf (List.mem_of_find?_eq_some found)
    have own := List.find?_some found
    exact .shown logged about (beq_iff_eq.1 own) (Revision.isMade_of_mem written logged)
      (shows_fieldText s (refers rev logged about.1))

end Comparison

/-- The row with its sides exchanged. -/
def ComparedField.swap (row : ComparedField) : ComparedField :=
  { row with left := row.right, right := row.left }

namespace Desk

variable {I E : Type} [Identifier I] {d : Desk I E} {params others : Params} {caller : Caller}
variable {s : Store} {id : I} {left right : Int}

theorem compareRevisions_eq_ok (readable : d.MayRead caller s id)
    (named : requestId params = .ok (some id)) (hleft : revisionNumber params "revLeft" = .ok left)
    (hright : revisionNumber params "revRight" = .ok right) :
    ∃ c, d.compareRevisions params caller s = .ok c ∧
      c.fields = Comparison.rows (.ofStore s) d.kind.schema
        ((s.revisionsOf d.kind.entityType (Identifier.text id)).find? fun r => r.number == left)
        ((s.revisionsOf d.kind.entityType (Identifier.text id)).find? fun r => r.number == right) := by
  let key := Identifier.text id
  refine ⟨.ofTrail (.ofStore s) d.kind.schema key (s.revisionsAt d.kind.entityType key [left, right])
    left right, ?_, ?_⟩
  · simp only [compareRevisions, requiredId_of_requestId named, hleft, hright,
      checkTrail_eq_ok readable, bind, Except.bind]
    rfl
  · simp only [Comparison.ofTrail]
    rw [Comparison.find?_revisionsAt (by simp), Comparison.find?_revisionsAt (by simp)]

theorem compareRevisions_rows [LawfulIdentifier I] (written : ∃ writes, s = .run writes {})
    (refers : ∀ rev ∈ s.revisions, rev.entityType = d.kind.entityType →
      rev.content.Refers d.kind.schema)
    (readable : d.MayRead caller s id)
    (named : requestId params = .ok (some id)) (hleft : revisionNumber params "revLeft" = .ok left)
    (hright : revisionNumber params "revRight" = .ok right) :
    ∃ c, d.compareRevisions params caller s = .ok c ∧
      List.Forall₂ (Comparison.Compares s d.kind.entityType (Identifier.text id) left right)
        d.kind.schema.comparable c.fields ∧
      ∀ (others : Params) (other : I), requestId others = .ok (some other) →
        Identifier.text other = Identifier.text id → revisionNumber others "revLeft" = .ok right →
        revisionNumber others "revRight" = .ok left →
        ∃ back, d.compareRevisions others caller s = .ok back ∧
          back.fields = c.fields.map ComparedField.swap := by
  obtain ⟨c, answer, fields⟩ := compareRevisions_eq_ok readable named hleft hright
  refine ⟨c, answer, ?_, fun others other again same backLeft backRight => ?_⟩
  · rw [fields, Comparison.rows, List.forall₂_map_right_iff, List.forall₂_same]
    intro f hf
    have known := fun rev logged type => refers rev logged type f hf
    exact ⟨rfl, rfl, Comparison.side_of_revision written known,
      Comparison.side_of_revision written known⟩
  · cases LawfulIdentifier.text_injective same
    obtain ⟨back, answer, exchanged⟩ := compareRevisions_eq_ok readable again backLeft backRight
    refine ⟨back, answer, ?_⟩
    rw [exchanged, fields, Comparison.rows, Comparison.rows, List.map_map]
    rfl

end Desk
end Registrar
