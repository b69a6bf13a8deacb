import Registrar.Store

/-!
The tables behind the store. For each type there is a table of rows in the order of their keys; a row
carries the number of the save that added it, and lists of records are put in the order of these numbers.
Versions are numbers of 32 bits: a save over a row with the greatest one ends the request.
-/

namespace Registrar

open Json Number

/-- A row in its table, with the number of the save that added it. -/
structure StoredRow where
  seq : Int
  version : Int
  display : String
  state : Option String
  content : Value
deriving Repr

structure Memory where
  /-- The rows of each type, under the texts of their identifiers. -/
  tables : List (String × List (String × StoredRow)) := []
  revisions : List Revision := []
  saves : Nat := 0
  /-- How many revisions were numbered. -/
  changes : Nat := 0
  textIds : Nat := 0
deriving Repr

def Kind.stored {I E : Type} (k : Kind I E) (seq : Int) (e : E) : StoredRow where
  seq := seq
  version := k.version e
  display := k.display e
  state := k.state e
  content := k.encode e

namespace Memory

def table (m : Memory) (entityType : String) : List (String × StoredRow) :=
  (Entries.get? entityType m.tables).getD []

def row? (m : Memory) (entityType key : String) : Option StoredRow :=
  Entries.get? key (m.table entityType)

/-- Puts a row into its table, over the one under the key if there is one. -/
def keep (entityType key : String) (row : StoredRow) (m : Memory) : Memory :=
  { m with tables := Entries.put entityType (Entries.put key row (m.table entityType)) m.tables }

def drop (entityType key : String) (m : Memory) : Memory :=
  { m with tables :=
      Entries.put entityType ((m.table entityType).filter fun e => e.1 != key) m.tables }

def note (type : RevisionType) (now : Instant) (author : Author) (entityType key : String)
    (oldState : Option String) (row : StoredRow) (m : Memory) : Memory :=
  { m with
    changes := m.changes + 1
    revisions := m.revisions ++ [{
      number := m.changes + 1
      type
      time := now
      actor := author.actor
      event := some author.event
      entityType
      entityKey := key
      oldState
      newState := if type = .delete then none else row.state
      display := row.display
      content := row.content }] }

section Records

variable {I E : Type} [Identifier I] (k : Kind I E)

/-- Counts a save, and gives a new record its identifier and the first version. -/
def identify (supply : Supply) (e : E) (m : Memory) : Memory × E :=
  let m := { m with saves := m.saves + 1 }
  if k.isNew e then
    let fresh : I := Identifier.fresh (supply.textId (m.textIds + 1)) m.saves
    ({ m with textIds := if Identifier.kind I = .text then m.textIds + 1 else m.textIds },
      k.setVersion 0 (k.setId fresh e))
  else (m, e)

/-- The version after a given one, if it is still a number of 32 bits. -/
def nextVersion? (version : Int) : Option Int :=
  if version < maxInt32 then some (version + 1) else none

def save (supply : Supply) (author : Author) (e : E) (m : Memory) : Memory × Except Error E :=
  let (m, e) := m.identify k supply e
  match k.idText? e with
  | none => (m, .error (.stated .store "Entity has no id after assignment"))
  | some key =>
    match m.row? k.entityType key with
    | some old =>
      if old.version = k.version e then
        match nextVersion? old.version with
        | some version =>
          let e := k.setVersion version e
          let row := k.stored old.seq e
          ((m.keep k.entityType key row).note .modify supply.now author k.entityType key old.state row,
            .ok e)
        | none => (m, .error (.panic .overflow))
      else (m, .error (.modified k.entityType key (k.version e) old.version))
    | none =>
      if k.version e = 0 then
        let row := k.stored m.saves e
        ((m.keep k.entityType key row).note .add supply.now author k.entityType key none row, .ok e)
      else (m, .error (.gone k.label key))

def delete (now : Instant) (author : Author) (e : E) (m : Memory) : Memory × Except Error Unit :=
  match k.idText? e with
  | none => (m, .error .unidentified)
  | some key =>
    match m.row? k.entityType key with
    | some row =>
      ((m.drop k.entityType key).note .delete now author k.entityType key row.state row, .ok ())
    | none => (m, .error (.absent k.label key))

def find? (m : Memory) (id : I) : Except Error (Option E) :=
  match m.row? k.entityType (Identifier.text id) with
  | some row => (Store.read k row.content).map some
  | none => .ok none

/-- The data of the rows that a filter accepts, the rows that were added first in front, and then in the
order of the sort keys. -/
def search (m : Memory) (entityType : String) (f : Filter) (sort : List SortKey) :
    Option (List Value) :=
  let accepted := (m.table entityType).filter fun e => f.accepts e.2.content
  let numbered := accepted.map fun e => (e.2.seq, e.2.content)
  (Sorting.sort? (fun a b => decide (a.1 < b.1)) 40 numbered).bind fun found =>
    Sorting.rows sort (found.map Prod.snd)

def query (m : Memory) (f : Filter) (sort : List SortKey) : Except Error (List E) :=
  match m.search k.entityType f sort with
  | none => .error (.panic .disorder)
  | some found => found.mapM (Store.read k)

end Records

/-- The revisions of one record in the order of their numbers. -/
def revisionsOf (m : Memory) (entityType key : String) : Option (List Revision) :=
  Sorting.sort? (fun a b : Revision => decide (a.number < b.number)) 296
    (m.revisions.filter fun r => r.entityType == entityType && r.entityKey == key)

def display? (m : Memory) (entityType key : String) : Option String :=
  (m.row? entityType key).map StoredRow.display

end Memory
end Registrar
