import Registrar.Proofs.Text.Pieces
import Registrar.Web.Request

/-!
Callers as the headers of a request name them. Main statement: the header of prefixes restricts its
caller to the codes that begin with one of its filled parts just if it has such a part; with commas and
blanks alone, the caller has every code.
-/

namespace Registrar.Web

open Text

/-- The code begins with one of the parts between commas, trimmed, that is not blank. -/
def Grants (value code : String) : Prop :=
  ∃ part, IsPart ',' part value.toList ∧ (∃ c ∈ part, isBlank c = false) ∧
    trimmed part <+: code.toList

/-- The caller has the codes that the value grants, and no others. -/
structure KeepsTo (caller : Caller) (value : String) : Prop where
  restricted : caller.isRestricted
  covers_iff (code : String) : caller.covers code ↔ Grants value code

namespace Request

theorem prefixesOf_eq (raw : String) : prefixesOf raw = filledParts ',' raw := rfl

theorem prefixesOf_trim (raw : String) : prefixesOf (trim raw) = prefixesOf raw :=
  filledParts_trim (by decide) raw

theorem mem_prefixesOf_iff {raw p : String} : p ∈ prefixesOf raw ↔
    ∃ part, IsPart ',' part raw.toList ∧ (∃ c ∈ part, isBlank c = false) ∧
      p = String.ofList (trimmed part) := by
  rw [prefixesOf_eq, mem_filledParts_iff]

theorem prefixesOf_ne_nil_iff (raw : String) :
    prefixesOf raw ≠ [] ↔ ∃ c ∈ raw.toList, c ≠ ',' ∧ isBlank c = false := by
  constructor
  · intro some
    obtain ⟨p, hp⟩ := List.exists_mem_of_ne_nil _ some
    obtain ⟨part, ⟨clean, front, back, parts, _⟩, ⟨c, hc, filled⟩, rfl⟩ := mem_prefixesOf_iff.1 hp
    refine ⟨c, by simp [parts, hc], ?_, filled⟩
    rintro rfl
    exact clean hc
  · rintro ⟨c, hc, other, filled⟩
    obtain ⟨part, piece, here⟩ := exists_piece_of_mem hc other
    have named : String.ofList (trimmed part) ∈ prefixesOf raw :=
      mem_prefixesOf_iff.2 ⟨part, mem_pieces_iff.1 piece, ⟨c, here, filled⟩, rfl⟩
    exact List.ne_nil_of_mem named

variable {q : Request} {name value : String}

theorem scopes_of_header
    (first : q.headers.find? (fun h => lowerAscii h.1 == "x-acl-code-prefixes") = some (name, value))
    (visible : ∀ c ∈ value.toList, isVisible c) :
    ((q.filledHeader? "x-acl-code-prefixes").map prefixesOf).getD [] = prefixesOf value := by
  have header : q.header? "x-acl-code-prefixes" = some value := by
    simp only [header?, first]
    exact if_pos (List.all_eq_true.2 visible)
  have nothing : prefixesOf "" = [] := by
    by_contra some
    simpa using (prefixesOf_ne_nil_iff "").1 some
  simp only [filledHeader?, header]
  split
  · next blank =>
    rw [← prefixesOf_trim, blank, nothing]
    rfl
  · simp [prefixesOf_trim]

theorem scopes_of_caller? {caller : Caller} (h : q.caller? = some caller) :
    caller.scopes = ((q.filledHeader? "x-acl-code-prefixes").map prefixesOf).getD [] := by
  obtain ⟨level, _, rfl⟩ := Option.map_eq_some_iff.1 h
  rfl

end Request

theorem isRestricted_iff (caller : Caller) : caller.isRestricted ↔ caller.scopes ≠ [] := by
  simp [Caller.isRestricted]

theorem covers_iff_of_scopes {caller : Caller} {value : String}
    (scopes : caller.scopes = Request.prefixesOf value) (restricted : caller.isRestricted)
    (code : String) : caller.covers code ↔ Grants value code := by
  have covers : caller.covers code ↔ ∃ p ∈ Request.prefixesOf value, p.toList <+: code.toList := by
    simp [Caller.covers, restricted, scopes, List.isPrefixOf_iff_prefix]
  rw [covers]
  constructor
  · rintro ⟨p, hp, begins⟩
    obtain ⟨part, piece, filled, rfl⟩ := Request.mem_prefixesOf_iff.1 hp
    exact ⟨part, piece, filled, by simpa using begins⟩
  · rintro ⟨part, piece, filled, begins⟩
    exact ⟨_, Request.mem_prefixesOf_iff.2 ⟨part, piece, filled, rfl⟩, by simpa using begins⟩

/-- The caller of a request, if its level can be read, keeps to the header of prefixes just if that has a
character besides commas and blanks; otherwise the caller has every code. -/
theorem scope_kept_iff {q : Request} {name value : String}
    (first : q.headers.find? (fun h => lowerAscii h.1 == "x-acl-code-prefixes") = some (name, value))
    (visible : ∀ c ∈ value.toList, Request.isVisible c) :
    (q.caller? = none ↔ q.level? = none) ∧ ∀ caller, q.caller? = some caller →
      (KeepsTo caller value ↔ ∃ c ∈ value.toList, c ≠ ',' ∧ isBlank c = false) ∧
      (¬KeepsTo caller value → ∀ code, caller.covers code) := by
  refine ⟨Option.map_eq_none_iff, fun caller named => ?_⟩
  have scopes := (Request.scopes_of_caller? named).trans (Request.scopes_of_header first visible)
  have keeps : KeepsTo caller value ↔ caller.isRestricted :=
    ⟨fun kept => kept.restricted, fun restricted => ⟨restricted, covers_iff_of_scopes scopes restricted⟩⟩
  rw [keeps, isRestricted_iff, scopes, Request.prefixesOf_ne_nil_iff]
  refine ⟨Iff.rfl, fun none code => ?_⟩
  refine Caller.covers_of_not_restricted ?_ code
  rw [← Request.prefixesOf_ne_nil_iff, ← scopes, ← isRestricted_iff] at none
  simpa using none

/-- Blanks around the prefixes and commas between them are of no account. -/
theorem planners_keep_to_prefixes :
    let q : Request := { target := "/", headers := [("X-Acl-Code-Prefixes", ", D10 ,,D20 ")] }
    let caller : Caller := { userId := "dev-user", scopes := ["D10", "D20"] }
    q.caller? = some caller ∧ KeepsTo caller ", D10 ,,D20 " := by
  have named : Request.caller?
      { target := "/", headers := [("X-Acl-Code-Prefixes", ", D10 ,,D20 ")] } =
      some { userId := "dev-user", scopes := ["D10", "D20"] } := by decide +kernel
  have visible : ∀ c ∈ ", D10 ,,D20 ".toList, Request.isVisible c :=
    List.all_eq_true.1 (by decide +kernel)
  refine ⟨named, ?_⟩
  exact ((scope_kept_iff rfl visible).2 _ named).1.2 ⟨'D', by decide, by decide, by decide⟩

/-- A header of a comma alone restricts nobody. -/
theorem comma_restricts_nobody :
    let q : Request := { target := "/", headers := [("x-acl-code-prefixes", ",")] }
    q.caller? = some Caller.anonymous ∧ Caller.anonymous.isRestricted = false ∧
      Caller.anonymous.covers "D20" ∧ ¬Grants "," "D20" ∧ ¬KeepsTo Caller.anonymous "," := by
  refine ⟨by decide +kernel, by decide, by decide, ?_, fun kept => ?_⟩
  · rintro ⟨part, ⟨clean, front, back, parts, _⟩, ⟨c, hc, filled⟩, _⟩
    have comma : c ∈ ",".toList := by simp [parts, hc]
    rw [show c = ',' by simpa using comma] at hc
    exact clean hc
  · exact absurd kept.restricted (by decide)

end Registrar.Web
