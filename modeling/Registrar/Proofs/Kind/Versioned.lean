import Registrar.Proofs.Kind.Readable

/-!
Data forms that differ in the version alone. Main statements: what departments, roles and users are read as
differs in the version alone, too.
-/

namespace Registrar

open Json

/-- The data forms of two records that differ in the version, the second one with the version given. -/
structure Json.Value.Revises (a b : List (String × Value)) (n : Int) : Prop where
  others : ∀ name, name ≠ "version" → Entries.get? name b = Entries.get? name a
  version : Entries.get? "version" b = some (.int n)
  fits : Number.fitsInt32 n

open Fields

variable {a b : List (String × Value)} {n : Int}

theorem Department.decode_revises (revises : Value.Revises a b n) {x : Department}
    (h : kind.decode (.object a) = .ok x) :
    kind.decode (.object b) = .ok (kind.setVersion n x) := by
  obtain ⟨fields, ⟨⟩, read⟩ := readFrom_of_decode h
  have same {name : String} (other : name ≠ "version") := revises.others name other
  exact decode_of_readFrom rfl {
    id := (optional?_congr (same (by decide)) _).trans read.id
    version := int32_of_fits revises.version revises.fits
    code := (text?_congr (same (by decide))).trans read.code
    name := (text?_congr (same (by decide))).trans read.name
    parent := (optional?_congr (same (by decide)) _).trans read.parent
    description := (optional?_congr (same (by decide)) _).trans read.description
    createdBy := (optional?_congr (same (by decide)) _).trans read.createdBy
    createdAt := (optional?_congr (same (by decide)) _).trans read.createdAt }

theorem Role.decode_revises (revises : Value.Revises a b n) {x : Role}
    (h : kind.decode (.object a) = .ok x) :
    kind.decode (.object b) = .ok (kind.setVersion n x) := by
  obtain ⟨fields, ⟨⟩, read⟩ := readFrom_of_decode h
  have same {name : String} (other : name ≠ "version") := revises.others name other
  exact decode_of_readFrom rfl {
    id := (optional?_congr (same (by decide)) _).trans read.id
    version := int32_of_fits revises.version revises.fits
    code := (text?_congr (same (by decide))).trans read.code
    name := (text?_congr (same (by decide))).trans read.name
    level := (int32_congr (same (by decide))).trans read.level
    description := (optional?_congr (same (by decide)) _).trans read.description
    disabled := (bool?_congr (same (by decide))).trans read.disabled
    createdBy := (optional?_congr (same (by decide)) _).trans read.createdBy
    createdAt := (optional?_congr (same (by decide)) _).trans read.createdAt }

theorem User.decode_revises (revises : Value.Revises a b n) {x : User}
    (h : kind.decode (.object a) = .ok x) :
    kind.decode (.object b) = .ok (kind.setVersion n x) := by
  obtain ⟨fields, ⟨⟩, read⟩ := readFrom_of_decode h
  have same {name : String} (other : name ≠ "version") := revises.others name other
  exact decode_of_readFrom rfl {
    id := (optional?_congr (same (by decide)) _).trans read.id
    version := int32_of_fits revises.version revises.fits
    signinid := (text?_congr (same (by decide))).trans read.signinid
    nick := (text?_congr (same (by decide))).trans read.nick
    password := (optional?_congr (same (by decide)) _).trans read.password
    email := (optional?_congr (same (by decide)) _).trans read.email
    code := (optional?_congr (same (by decide)) _).trans read.code
    level := (int32_congr (same (by decide))).trans read.level
    department := (optional?_congr (same (by decide)) _).trans read.department
    enabled := (bool?_congr (same (by decide))).trans read.enabled
    createdBy := (optional?_congr (same (by decide)) _).trans read.createdBy
    createdAt := (optional?_congr (same (by decide)) _).trans read.createdAt }

end Registrar
