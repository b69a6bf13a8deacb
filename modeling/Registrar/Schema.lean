import Registrar.Number.Digits

/-!
Schemas: what a kind of record declares about its fields. A schema is a chain of layers, its own
first and the common root last; every record has the fields of all layers.
-/

namespace Registrar

inductive ValueType where
  | text
  | boolean
  | integer
  | decimal
  | date
deriving DecidableEq, Repr

inductive FieldKind where
  | value (type : ValueType)
  /-- An association with one record of another type, in data form an object with its `id`. -/
  | reference (target : String)
  | collection
deriving DecidableEq, Repr

inductive DateDisplay where
  | dateOnly
  | dateTime
deriving DecidableEq, Repr

structure Column where
  nullable : Bool := true
  isUnique : Bool := false
  updatable : Bool := true
  length : Nat := 255
  /-- A column for texts of any length. -/
  lob : Bool := false
deriving DecidableEq, Repr

/-- The least and the greatest length of a text; the greatest word means no bound. -/
structure SizeBounds where
  least : Nat
  most : Nat
deriving DecidableEq, Repr

structure Field where
  name : String
  label : String
  kind : FieldKind
  column : Option Column := none
  /-- For an association with a column of its own: whether it may be missing. -/
  joinNullable : Option Bool := none
  dateDisplay : Option DateDisplay := none
  size : Option SizeBounds := none
  isEmail : Bool := false
  pattern : Option String := none
  /-- Shown when two revisions are compared. -/
  comparable : Bool := false
  /-- Request values never reach the field. -/
  bindExempt : Bool := false
  /-- Neither stored nor validated. -/
  isTransient : Bool := false
  tooltips : Option String := none
deriving DecidableEq, Repr

namespace Field

def text (name label : String) : Field := { name, label, kind := .value .text }
def boolean (name label : String) : Field := { name, label, kind := .value .boolean }
def integer (name label : String) : Field := { name, label, kind := .value .integer }
def decimal (name label : String) : Field := { name, label, kind := .value .decimal }
def date (name label : String) (display : Option DateDisplay) : Field :=
  { name, label, kind := .value .date, dateDisplay := display }
def reference (name label target : String) : Field := { name, label, kind := .reference target }
def collection (name label : String) : Field := { name, label, kind := .collection }

def valueType? (f : Field) : Option ValueType :=
  match f.kind with
  | .value type => some type
  | _ => none

def target? (f : Field) : Option String :=
  match f.kind with
  | .reference target => some target
  | _ => none

def isReference (f : Field) : Bool := f.target?.isSome

def isCollection (f : Field) : Bool := f.kind == .collection

def isUnique (f : Field) : Bool := f.column.any Column.isUnique

/-- The field takes a value when a record is created, and none later. -/
def isFixed (f : Field) : Bool := f.column.any fun c => !c.updatable

end Field

/-- The fields that one level of a schema adds. -/
structure Layer where
  entityType : String
  label : String
  fields : List Field
deriving DecidableEq, Repr

/-- A layer and the layers it builds on, the root last. -/
structure Schema where
  own : Layer
  ancestors : List Layer
deriving DecidableEq, Repr

namespace Schema

def entityType (s : Schema) : String := s.own.entityType

def label (s : Schema) : String := s.own.label

def lineage (s : Schema) : List Layer := s.own :: s.ancestors

def isRoot (s : Schema) : Bool := s.ancestors.isEmpty

def extend (parent : Schema) (own : Layer) : Schema := ⟨own, parent.lineage⟩

/-- The fields of all layers, own fields first. -/
def fields (s : Schema) : List Field := s.lineage.flatMap Layer.fields

/-- The fields of all layers but the root. -/
def declared (s : Schema) : List Field := s.lineage.dropLast.flatMap Layer.fields

def find? (s : Schema) (name : String) : Option Field := s.fields.find? fun f => f.name == name

/-- The names that request values never reach. -/
def exempt (s : Schema) : List String := (s.fields.filter Field.bindExempt).map Field.name

def comparable (s : Schema) : List Field := s.fields.filter Field.comparable

def root : Schema where
  own := {
    entityType := "persistable"
    label := "Persistable"
    fields := [.text "id" "ID", .integer "version" "Version"] }
  ancestors := []

/-- The columns that are stamped when a record is first saved. -/
def auditable : Schema := root.extend {
  entityType := "auditable"
  label := "Auditable"
  fields := [
    { Field.text "createdBy" "Created by" with
      column := some { updatable := false, length := 64 }, bindExempt := true },
    { Field.date "createdAt" "Created at" (some .dateTime) with
      column := some { updatable := false }, bindExempt := true }] }

theorem declared_extend (parent : Schema) (own : Layer) :
    (parent.extend own).declared = own.fields ++ parent.declared := by
  simp [declared, extend, lineage]

end Schema
end Registrar
