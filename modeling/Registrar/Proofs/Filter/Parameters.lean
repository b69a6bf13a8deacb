import Registrar.Filter.Request
import Registrar.Proofs.Text.Pieces

/-!
Predicates written as request parameters. The key is cut at its first underscore and the rest of it at the
text `_OR_`, the value at commas. Main statement: a predicate on properties without underscores, whose
values are trimmed, is what its own key and value are read as; and whatever is read has a property at
least, each of them trimmed.
-/

namespace Registrar

open Text

namespace Test

/-- A test takes no values, or some without commas, or just one. -/
def Takes (test : Test) (values : List String) : Prop :=
  match test with
  | .present | .missing => values = []
  | .oneOf | .between | .inScope => values ≠ [] ∧ ∀ v ∈ values, ',' ∉ v.toList
  | _ => ∃ v, values = [v]

variable {test : Test} {values : List String}

theorem underscore_not_mem_code (test : Test) : '_' ∉ test.code.toList := by
  cases test <;> decide

theorem Takes.ne_nil (takes : test.Takes values) (h : test.takesValue) : values ≠ [] := by
  cases test with
  | present | missing => cases h
  | oneOf | between | inScope => exact takes.1
  | _ =>
    obtain ⟨v, rfl⟩ := takes
    exact List.cons_ne_nil v []

end Test

namespace Predicate

variable {test : Test} {properties values : List String}

/-- The key under which a request gives the values of a test on properties. -/
def keyOf (test : Test) (properties : List String) : String :=
  test.code ++ "_" ++ "_OR_".intercalate properties

/-- The values of a test in one text. -/
def rawOf (values : List String) : String := ",".intercalate values

theorem toList_rawOf (values : List String) :
    (rawOf values).toList = [','].intercalate (values.map String.toList) := by
  rw [rawOf, String.toList_intercalate]
  rfl

theorem cut?_keyOf (test : Test) (properties : List String) :
    cut? '_' (keyOf test properties).toList =
      some (test.code.toList, "_OR_".toList.intercalate (properties.map String.toList)) := by
  have key : (keyOf test properties).toList =
      test.code.toList ++ '_' :: "_OR_".toList.intercalate (properties.map String.toList) := by
    simp [keyOf, String.toList_intercalate]
  rw [key]
  exact cut?_append_cons test.underscore_not_mem_code _

theorem isTrimmed_of_mem_propertiesOf {names : List Char} {p : String}
    (h : p ∈ propertiesOf names) : IsTrimmed p := by
  simp only [propertiesOf, List.mem_filter, List.mem_map, decide_eq_true_eq] at h
  obtain ⟨⟨piece, _, rfl⟩, filled⟩ := h
  rw [← String.toList_ofList (l := piece)] at filled ⊢
  exact isTrimmed_trim filled

theorem propertiesOf_intercalate (filled : properties ≠ [])
    (clean : ∀ p ∈ properties, IsTrimmed p ∧ '_' ∉ p.toList) :
    propertiesOf ("_OR_".toList.intercalate (properties.map String.toList)) = properties := by
  have pieces : piecesBetween 0 "_OR_".toList
      ("_OR_".toList.intercalate (properties.map String.toList)) = properties.map String.toList := by
    refine piecesBetween_intercalate (by simpa using filled) fun p hp => ?_
    obtain ⟨property, there, rfl⟩ := List.mem_map.1 hp
    exact (clean property there).2
  have trimmed : properties.map (fun p => String.ofList (Text.trimmed p.toList)) = properties :=
    (List.map_congr_left fun p hp => (clean p hp).1.trim_eq).trans (List.map_id _)
  rw [propertiesOf, pieces, List.map_map, Function.comp_def, trimmed, List.filter_eq_self]
  intro p hp
  simpa using (clean p hp).1.filled

theorem trim_rawOf_ne_empty (given : values ≠ []) (clean : ∀ v ∈ values, IsTrimmed v) :
    trim (rawOf values) ≠ "" := by
  obtain ⟨v, r, rfl⟩ := List.exists_cons_of_ne_nil given
  obtain ⟨c, hc, filled⟩ := (clean v List.mem_cons_self).exists_filled
  refine trim_ne_empty (c := c) ?_ filled
  rw [toList_rawOf, List.map_cons]
  cases r with
  | nil => simpa using hc
  | cons w r =>
    rw [List.intercalate_cons_of_ne_nil (by simp)]
    simp [hc]

theorem trim_rawOf_singleton {v : String} (trimmed : IsTrimmed v) : trim (rawOf [v]) = v :=
  trimmed.trim_eq

theorem filledParts_rawOf (clean : ∀ v ∈ values, IsTrimmed v ∧ ',' ∉ v.toList) :
    filledParts ',' (trim (rawOf values)) = values := by
  rw [filledParts_trim (by decide)]
  exact filledParts_intercalate (toList_rawOf values) clean

theorem valuesOf_rawOf (takes : test.Takes values) (clean : ∀ v ∈ values, IsTrimmed v) :
    test.valuesOf (trim (rawOf values)) = values.map Json.Value.text := by
  have several (whole : ∀ v ∈ values, ',' ∉ v.toList) :
      (filledParts ',' (trim (rawOf values))).map Json.Value.text = values.map .text := by
    rw [filledParts_rawOf fun v hv => ⟨clean v hv, whole v hv⟩]
  have one (v : String) (single : values = [v]) :
      [Json.Value.text (trim (rawOf values))] = values.map .text := by
    subst single
    rw [trim_rawOf_singleton (clean v List.mem_cons_self), List.map_singleton]
  cases test with
  | present | missing =>
    obtain rfl : values = [] := takes
    rfl
  | oneOf | between | inScope => exact several takes.2
  | _ =>
    obtain ⟨v, single⟩ := takes
    exact one v single

theorem ofParam?_keyOf (filled : properties ≠ [])
    (names : ∀ p ∈ properties, IsTrimmed p ∧ '_' ∉ p.toList) (clean : ∀ v ∈ values, IsTrimmed v)
    (takes : test.Takes values) :
    ofParam? (keyOf test properties) (rawOf values) =
      some ⟨test, properties, values.map .text⟩ := by
  have given : (properties.isEmpty || (test.takesValue && trim (rawOf values) == "")) = false := by
    by_cases value : test.takesValue
    · simp [filled, value, trim_rawOf_ne_empty (takes.ne_nil value) clean]
    · simp [filled, value]
  simp only [ofParam?, cut?_keyOf, String.ofList_toList, Test.ofCode?_code,
    propertiesOf_intercalate filled names, given, valuesOf_rawOf takes clean]
  rfl

theorem properties_of_ofParam? {key raw : String} {p : Predicate} (h : ofParam? key raw = some p) :
    p.properties ≠ [] ∧ ∃ names, p.properties = propertiesOf names := by
  unfold ofParam? at h
  split at h
  · cases h
  · next code names cut =>
    split at h
    · cases h
    · next test named =>
      dsimp only at h
      split at h
      · cases h
      · next given =>
        cases h
        simp only [Bool.or_eq_true, not_or, List.isEmpty_iff] at given
        exact ⟨given.1, names, rfl⟩

/-- The key and the value of a predicate are read as that predicate, and what is read from any key and
value is a test on one trimmed property or more. -/
theorem parameters_read_back :
    (∀ test properties values, properties ≠ [] →
      (∀ p ∈ properties, IsTrimmed p ∧ '_' ∉ p.toList) →
      (∀ v ∈ values, IsTrimmed v) → test.Takes values →
      ofParam? (keyOf test properties) (rawOf values) =
        some ⟨test, properties, values.map .text⟩) ∧
    ∀ key raw p, ofParam? key raw = some p →
      p.properties ≠ [] ∧ ∀ property ∈ p.properties, IsTrimmed property := by
  refine ⟨fun test properties values filled names clean takes =>
    ofParam?_keyOf filled names clean takes, fun key raw p read => ?_⟩
  obtain ⟨filled, names, properties⟩ := properties_of_ofParam? read
  refine ⟨filled, fun property there => ?_⟩
  rw [properties] at there
  exact isTrimmed_of_mem_propertiesOf there

/-- A property may be named like the separator, and a value may have blanks inside. -/
theorem scopes_read_back :
    ofParam? "ACLPREFIXS_OR_OR_unit.code_OR_OR" "D10,D 20" =
      some ⟨.inScope, ["OR", "unit.code", "OR"], [.text "D10", .text "D 20"]⟩ := by
  have key : keyOf .inScope ["OR", "unit.code", "OR"] = "ACLPREFIXS_OR_OR_unit.code_OR_OR" := by decide
  have raw : rawOf ["D10", "D 20"] = "D10,D 20" := by decide
  rw [← key, ← raw]
  exact parameters_read_back.1 .inScope ["OR", "unit.code", "OR"] ["D10", "D 20"] (by decide)
    (by decide) (by decide) ⟨by decide, by decide⟩

end Predicate
end Registrar
