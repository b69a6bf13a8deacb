import Registrar.Kind
import Registrar.Revision
import Registrar.Sorting

/-!
The store of records: the saved rows of all kinds, in the order in which they were added, and the
log of all revisions. A save checks the version of the row it replaces. Main statement: a failing
save or delete changes neither rows nor revisions.
-/

namespace Registrar

open Json

/-- What a request takes from outside: the time, and texts for new identifiers by number. -/
structure Supply where
  now : Instant
  textId : Nat → String

structure SavedRow where
  entityType : String
  key : String
  version : Int
  display : String
  state : Option String
  content : Value
deriving Repr

structure Store where
  /-- At most one row for each type and key. -/
  rows : List SavedRow := []
  /-- Every change, the earliest first. -/
  revisions : List Revision := []
  /-- How often a save was tried. -/
  saves : Nat := 0
  /-- How many texts were used as identifiers. -/
  textIds : Nat := 0
deriving Repr

def Kind.row {I E : Type} (k : Kind I E) (key : String) (e : E) : SavedRow where
  entityType := k.entityType
  key := key
  version := k.version e
  display := k.display e
  state := k.state e
  content := k.encode e

namespace SavedRow

def isAt (row : SavedRow) (entityType key : String) : Bool :=
  row.entityType == entityType && row.key == key

end SavedRow

namespace Store

def row? (s : Store) (entityType key : String) : Option SavedRow :=
  s.rows.find? fun row => row.isAt entityType key

/-- Adds a revision that shows a row. A deleted record has no new state. -/
def log (s : Store) (type : RevisionType) (now : Instant) (author : Author)
    (oldState : Option String) (row : SavedRow) : List Revision :=
  s.revisions ++ [{
    number := s.revisions.length + 1
    type
    time := now
    actor := author.actor
    event := some author.event
    entityType := row.entityType
    entityKey := row.key
    oldState
    newState := if type = .delete then none else row.state
    display := row.display
    content := row.content }]

def add (s : Store) (now : Instant) (author : Author) (row : SavedRow) : Store :=
  { s with rows := s.rows ++ [row], revisions := s.log .add now author none row }

/-- Puts a row in the place of the one under the same key. -/
def replace (s : Store) (now : Instant) (author : Author) (old row : SavedRow) : Store :=
  { s with
    rows := s.rows.map fun r => if r.isAt row.entityType row.key then row else r
    revisions := s.log .modify now author old.state row }

def remove (s : Store) (now : Instant) (author : Author) (row : SavedRow) : Store :=
  { s with
    rows := s.rows.filter fun r => !r.isAt row.entityType row.key
    revisions := s.log .delete now author row.state row }

section Records

variable {I E : Type} [Identifier I] (k : Kind I E)

/-- Counts a save, and gives a new record its identifier and the first version. -/
def identify (supply : Supply) (e : E) (s : Store) : Store × E :=
  let s := { s with saves := s.saves + 1 }
  if k.isNew e then
    let fresh : I := Identifier.fresh (supply.textId (s.textIds + 1)) s.saves
    ({ s with textIds := if Identifier.kind I = .text then s.textIds + 1 else s.textIds },
      k.setVersion 0 (k.setId fresh e))
  else (s, e)

/-- Saves a record: over the row with its version, or as a new row if it has the first version. -/
def save (supply : Supply) (author : Author) (e : E) (s : Store) : Store × Except Error E :=
  let (s, e) := s.identify k supply e
  let key := (k.idText? e).getD ""
  match s.row? k.entityType key with
  | some old =>
    if old.version = k.version e then
      let e := k.setVersion (old.version + 1) e
      (s.replace supply.now author old (k.row key e), .ok e)
    else (s, .error (.modified k.entityType key (k.version e) old.version))
  | none =>
    if k.version e = 0 then (s.add supply.now author (k.row key e), .ok e)
    else (s, .error (.gone k.label key))

def delete (now : Instant) (author : Author) (e : E) (s : Store) : Store × Except Error Unit :=
  match k.idText? e with
  | none => (s, .error .unidentified)
  | some key =>
    match s.row? k.entityType key with
    | some row => (s.remove now author row, .ok ())
    | none => (s, .error (.absent k.label key))

/-- The record that a row's data shows. -/
def read (content : Value) : Except Error E :=
  match k.decode content with
  | .ok e => .ok e
  | .error _ => .error (.undecodable k.entityType)

def find? (s : Store) (id : I) : Except Error (Option E) :=
  match s.row? k.entityType (Identifier.text id) with
  | some row => (read k row.content).map some
  | none => .ok none

def get (s : Store) (id : I) : Except Error E :=
  match s.find? k id with
  | .ok (some e) => .ok e
  | .ok none => .error (.absent k.label (Identifier.text id))
  | .error e => .error e

/-- The records with the given identifiers; others are passed over. -/
def findMany (s : Store) (ids : List I) : Except Error (List E) :=
  (ids.mapM (s.find? k)).map fun found => found.filterMap id

def contents (s : Store) (entityType : String) : List Value :=
  (s.rows.filter fun row => row.entityType == entityType).map SavedRow.content

/-- The data of the rows that a filter accepts, if the sort keys put them in order. -/
def search (s : Store) (entityType : String) (f : Filter) (sort : List SortKey) :
    Option (List Value) :=
  Sorting.rows sort ((s.contents entityType).filter f.accepts)

def query (s : Store) (f : Filter) (sort : List SortKey) : Except Error (List E) :=
  match s.search k.entityType f sort with
  | none => .error (.panic .disorder)
  | some found => found.mapM (read k)

end Records

/-- The revisions of one record, the earliest first. -/
def revisionsOf (s : Store) (entityType key : String) : List Revision :=
  s.revisions.filter fun r => r.entityType == entityType && r.entityKey == key

/-- Those of a record's revisions that have one of the numbers. -/
def revisionsAt (s : Store) (entityType key : String) (numbers : List Int) : List Revision :=
  (s.revisionsOf entityType key).filter fun r => numbers.contains r.number

def display? (s : Store) (entityType key : String) : Option String :=
  (s.row? entityType key).map SavedRow.display

def display (s : Store) (entityType key : String) : Except Error String :=
  match s.display? entityType key with
  | some text => .ok text
  | none => .error (.stale entityType key)

section Lemmas

variable {I E : Type} [Identifier I] (k : Kind I E)

theorem identify_rows (supply : Supply) (e : E) (s : Store) :
    (s.identify k supply e).1.rows = s.rows := by
  unfold identify
  dsimp only
  split <;> rfl

theorem identify_revisions (supply : Supply) (e : E) (s : Store) :
    (s.identify k supply e).1.revisions = s.revisions := by
  unfold identify
  dsimp only
  split <;> rfl

theorem save_error {supply : Supply} {author : Author} {e : E} {s : Store} {fault : Error}
    (h : (s.save k supply author e).2 = .error fault) :
    (s.save k supply author e).1.rows = s.rows ∧
      (s.save k supply author e).1.revisions = s.revisions := by
  have hr := identify_rows k supply e s
  have hv := identify_revisions k supply e s
  revert h
  unfold save
  generalize s.identify k supply e = found at hr hv
  obtain ⟨counted, named⟩ := found
  dsimp only
  split <;> split <;> simp_all

theorem delete_error {now : Instant} {author : Author} {e : E} {s : Store} {fault : Error}
    (h : (s.delete k now author e).2 = .error fault) : (s.delete k now author e).1 = s := by
  unfold delete at h ⊢
  split
  · rfl
  · next h₁ =>
    simp only [h₁] at h
    split
    · next h₂ => simp [h₂] at h
    · rfl

end Lemmas
end Store
end Registrar
