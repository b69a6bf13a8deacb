import Registrar.Binding
import Registrar.Proofs.Kind.Lawful

/-!
What binding makes of a record. Main statements: no request changes a record's identifier; a text field
takes the first value under its name as it stands, and a reference the first one under its name with
`.id`, trimmed.
-/

namespace Registrar

open Json

theorem Reference.ofOption_toValue_injective :
    Function.Injective (Value.ofOption Reference.toValue) := by
  rintro (_ | a) (_ | b) same
  · rfl
  · cases same
  · cases same
  · cases a
    cases b
    cases same
    rfl

namespace Params

variable {params : Params} {key : String}

theorem getFilled?_of_unnamed (h : ¬(params.get? key).isSome) : params.getFilled? key = none := by
  rw [getFilled?, Option.not_isSome_iff_eq_none.1 h]

theorem ite_getFilled? :
    (if (params.get? key).isSome then params.getFilled? key else none) = params.getFilled? key := by
  split
  · rfl
  · next unnamed => exact (getFilled?_of_unnamed unnamed).symm

end Params

section Requested

variable {params : Params}

theorem requestedValues_cons {f : Field} {r : List Field} {values : List (String × Value)}
    (h : requestedValues params (f :: r) = .ok values) :
    ∃ own rest, f.requested params = .ok own ∧ requestedValues params r = .ok rest ∧
      values = own.toList.map (fun v => (f.name, v)) ++ rest := by
  unfold requestedValues at h
  split at h
  · cases h
  · next own hown =>
    split at h
    · cases h
    · next rest hrest =>
      cases h
      exact ⟨own, rest, hown, hrest, rfl⟩

theorem name_of_mem_requestedValues {fields : List Field} {values : List (String × Value)}
    (h : requestedValues params fields = .ok values) {pair : String × Value} (hp : pair ∈ values) :
    ∃ f ∈ fields, pair.1 = f.name := by
  induction fields generalizing values with
  | nil =>
    cases h
    cases hp
  | cons f r ih =>
    obtain ⟨own, rest, _, hrest, rfl⟩ := requestedValues_cons h
    rcases List.mem_append.1 hp with hp | hp
    · obtain ⟨v, _, rfl⟩ := List.mem_map.1 hp
      exact ⟨f, List.mem_cons_self, rfl⟩
    · obtain ⟨g, hg, same⟩ := ih hrest hp
      exact ⟨g, List.mem_cons_of_mem _ hg, same⟩

theorem requested_of_requestedValues {fields : List Field} {values : List (String × Value)}
    (h : requestedValues params fields = .ok values)
    (distinct : fields.Pairwise fun f g => f.name ≠ g.name) {f : Field} (hf : f ∈ fields)
    (entries : List (String × Value)) :
    ∃ own, f.requested params = .ok own ∧ Entries.get? f.name (Entries.putAll entries values) =
      own.elim (Entries.get? f.name entries) some := by
  induction fields generalizing values entries with
  | nil => cases hf
  | cons g r ih =>
    obtain ⟨own, rest, hown, hrest, rfl⟩ := requestedValues_cons h
    obtain ⟨apart, distinct⟩ := List.pairwise_cons.1 distinct
    rw [Entries.putAll_append]
    rcases List.mem_cons.1 hf with rfl | hf
    · have after : ∀ pair ∈ rest, pair.1 ≠ f.name := by
        intro pair hp
        obtain ⟨g, hg, same⟩ := name_of_mem_requestedValues hrest hp
        exact same ▸ (apart g hg).symm
      refine ⟨own, hown, (Entries.get?_putAll_of_ne after _).trans ?_⟩
      cases own with
      | none => rfl
      | some v => exact Entries.get?_put_self ..
    · have before : ∀ pair ∈ own.toList.map fun v => (g.name, v), pair.1 ≠ f.name := by
        intro pair hp
        obtain ⟨v, _, rfl⟩ := List.mem_map.1 hp
        exact apart f hf
      obtain ⟨mine, hmine, shown⟩ := ih hrest distinct hf (Entries.putAll entries _)
      exact ⟨mine, hmine, by rw [shown, Entries.get?_putAll_of_ne before]⟩

end Requested

namespace Kind

variable {I E : Type} [Identifier I] {k : Kind I E} {params : Params} {e bound : E}

theorem bind_cases (h : k.bind params e = .ok bound) :
    ∃ entries values, k.encode e = .object entries ∧
      requestedValues params (k.schema.bindable (k.isNew e)) = .ok values ∧
      (values = [] ∧ bound = e ∨ k.decode (.object (Entries.putAll entries values)) = .ok bound) := by
  unfold bind at h
  split at h
  · next entries hentries =>
    split at h
    · cases h
    · next hvalues =>
      cases h
      exact ⟨entries, [], hentries, hvalues, .inl ⟨rfl, rfl⟩⟩
    · next values _ hvalues =>
      split at h
      · next hbound =>
        cases h
        exact ⟨entries, values, hentries, hvalues, .inr hbound⟩
      · cases h
  · cases h

/-- A record is bound to what the request's values make of its data form. -/
theorem bind_of_decode {entries values : List (String × Value)} (shown : k.encode e = .object entries)
    (given : requestedValues params (k.schema.bindable (k.isNew e)) = .ok values)
    (made : k.decode (.object (Entries.putAll entries values)) = .ok bound)
    (none : values = [] → bound = e) : k.bind params e = .ok bound := by
  unfold bind
  rw [shown]
  dsimp only
  rw [given]
  cases values with
  | nil => rw [none rfl]
  | cons pair r => simp only [made]

theorem id_bind [LawfulIdentifier I] (law : k.Lawful) (h : k.bind params e = .ok bound) :
    k.id bound = k.id e := by
  obtain ⟨entries, values, hentries, hvalues, ⟨_, rfl⟩ | decoded⟩ := bind_cases h
  · rfl
  · have untouched : ∀ pair ∈ values, pair.1 ≠ "id" := by
      intro pair hp
      obtain ⟨f, hf, same⟩ := name_of_mem_requestedValues hvalues hp
      have binds := (List.mem_filter.1 hf).2
      intro named
      simp [Schema.binds, ← same, named] at binds
    have shown := law.field_id e
    rw [hentries, Value.field?, ← Entries.get?_putAll_of_ne untouched] at shown
    exact LawfulIdentifier.ofOption_injective (law.decode_id decoded shown)

theorem isNew_bind [LawfulIdentifier I] (law : k.Lawful) (h : k.bind params e = .ok bound) :
    k.isNew bound = k.isNew e := by
  rw [isNew, isNew, id_bind law h]

theorem field_bind (h : k.bind params e = .ok bound)
    (distinct : (k.schema.bindable (k.isNew e)).Pairwise fun f g => f.name ≠ g.name) {f : Field}
    (declared : f ∈ k.schema.bindable (k.isNew e)) :
    ∃ v own, f.requested params = .ok own ∧
      v.field? f.name = own.elim ((k.encode e).field? f.name) some ∧
      (v = k.encode bound ∨ k.decode v = .ok bound) := by
  obtain ⟨entries, values, hentries, hvalues, found⟩ := bind_cases h
  obtain ⟨own, hown, given⟩ := requested_of_requestedValues hvalues distinct declared entries
  refine ⟨.object (Entries.putAll entries values), own, hown, ?_, ?_⟩
  · rw [hentries]
    exact given
  · rcases found with ⟨rfl, rfl⟩ | decoded
    · exact .inl hentries.symm
    · exact .inr decoded

theorem text_bind (name : String) (h : k.bind params e = .ok bound)
    (distinct : (k.schema.bindable (k.isNew e)).Pairwise fun f g => f.name ≠ g.name)
    (declared : ∃ f ∈ k.schema.bindable (k.isNew e), f.name = name ∧ f.kind = .value .text)
    {own : String} (shown : (k.encode e).field? name = some (.text own)) :
    ∃ v : Value, v.field? name = some (.text ((params.get? name).getD own)) ∧
      (v = k.encode bound ∨ k.decode v = .ok bound) := by
  obtain ⟨f, declared, rfl, text⟩ := declared
  obtain ⟨v, value, asked, given, which⟩ := field_bind h distinct declared
  refine ⟨v, ?_, which⟩
  have parameter : f.parameter = f.name := by
    simp [Field.parameter, Field.isReference, Field.target?, text]
  unfold Field.requested at asked
  rw [parameter, text] at asked
  rw [given, shown]
  cases named : params.get? f.name with
  | none =>
    rw [named] at asked
    cases asked
    rfl
  | some raw =>
    rw [named] at asked
    cases asked
    rfl

theorem text_of_bind {text : E → String} (name : String) (h : k.bind params e = .ok bound)
    (distinct : (k.schema.bindable (k.isNew e)).Pairwise fun f g => f.name ≠ g.name)
    (declared : ∃ f ∈ k.schema.bindable (k.isNew e), f.name = name ∧ f.kind = .value .text)
    (shown : ∀ x, (k.encode x).field? name = some (.text (text x)))
    (read : ∀ {v : Value} {x : E} {own : String}, k.decode v = .ok x →
      v.field? name = some (.text own) → text x = own) :
    text bound = (params.get? name).getD (text e) := by
  obtain ⟨v, given, rfl | decoded⟩ := text_bind name h distinct declared (shown e)
  · exact Value.text.inj (Option.some.inj ((shown bound).symm.trans given))
  · exact read decoded given

theorem reference_bind (name target : String) (h : k.bind params e = .ok bound)
    (distinct : (k.schema.bindable (k.isNew e)).Pairwise fun f g => f.name ≠ g.name)
    (declared : ∃ f ∈ k.schema.bindable (k.isNew e), f.name = name ∧ f.kind = .reference target)
    {own : Option Reference}
    (shown : (k.encode e).field? name = some (.ofOption Reference.toValue own)) :
    ∃ (v : Value) (next : Option Reference), v.field? name = some (.ofOption Reference.toValue next) ∧
      next.map Reference.id = (if (params.get? (name ++ ".id")).isSome then
        params.getFilled? (name ++ ".id") else own.map Reference.id) ∧
      (v = k.encode bound ∨ k.decode v = .ok bound) := by
  obtain ⟨f, declared, rfl, association⟩ := declared
  obtain ⟨v, value, asked, given, which⟩ := field_bind h distinct declared
  have parameter : f.parameter = f.name ++ ".id" := by
    simp [Field.parameter, Field.isReference, Field.target?, association]
  unfold Field.requested at asked
  rw [parameter, association] at asked
  rw [shown] at given
  unfold Params.getFilled?
  cases named : params.get? (f.name ++ ".id") with
  | none =>
    rw [named] at asked
    cases asked
    exact ⟨v, own, given, rfl, which⟩
  | some raw =>
    rw [named] at asked
    cases asked
    dsimp only
    by_cases blank : Text.trim raw = ""
    · rw [if_pos blank] at given
      exact ⟨v, none, given, by simp [blank], which⟩
    · rw [if_neg blank] at given
      exact ⟨v, some ⟨Text.trim raw⟩, given, by simp [blank], which⟩

theorem reference_of_bind {point : E → Option Reference} (name target : String)
    (h : k.bind params e = .ok bound)
    (distinct : (k.schema.bindable (k.isNew e)).Pairwise fun f g => f.name ≠ g.name)
    (declared : ∃ f ∈ k.schema.bindable (k.isNew e), f.name = name ∧ f.kind = .reference target)
    (shown : ∀ x, (k.encode x).field? name = some (.ofOption Reference.toValue (point x)))
    (read : ∀ {v : Value} {x : E} {own : Option Reference}, k.decode v = .ok x →
      v.field? name = some (.ofOption Reference.toValue own) → point x = own) :
    (point bound).map Reference.id = if (params.get? (name ++ ".id")).isSome then
      params.getFilled? (name ++ ".id") else (point e).map Reference.id := by
  obtain ⟨v, next, given, same, which⟩ := reference_bind name target h distinct declared (shown e)
  rw [← same]
  rcases which with rfl | decoded
  · have both := Option.some.inj ((shown bound).symm.trans given)
    exact congrArg _ (Reference.ofOption_toValue_injective both)
  · rw [read decoded given]

end Kind

def Department.codeField : Field :=
  { Field.text "code" "Code" with
    column := some { nullable := false, isUnique := true, length := 32 }, comparable := true }

theorem Department.code_bind {params : Params} {e bound : Department}
    (h : kind.bind params e = .ok bound) : bound.code = (params.get? "code").getD e.code := by
  refine Kind.text_of_bind "code" h (by cases kind.isNew e <;> decide)
    (by cases kind.isNew e <;> decide) (fun _ => rfl) fun decoded given => ?_
  obtain ⟨fields, hfields, read⟩ := readFrom_of_decode decoded
  have hcode := read.code
  rw [Fields.text?, Value.fields?_of_field? given hfields] at hcode
  exact (Option.some.inj hcode).symm

end Registrar
