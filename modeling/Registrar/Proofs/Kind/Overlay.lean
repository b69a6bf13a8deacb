import Mathlib.Data.List.Nodup
import Registrar.Desk
import Registrar.Proofs.Kind.Readable

/-!
Requests laid over records. A kind is receptive if values that are laid over its records stay there, each
as its field holds it. Main statement: of a receptive kind, binding gives each field that the request names
its value, leaves all else of the record, and does no more when it is done again.
-/

namespace Registrar

open Json

/-- The values that a request can give to a field: one that points to another record takes nothing but
a reference, or none. -/
def Field.Takes (f : Field) (v : Value) : Prop :=
  f.isReference → ∃ r : Option Reference, v = .ofOption Reference.toValue r

theorem Field.takes_of_requested {f : Field} {params : Params} {v : Value}
    (h : f.requested params = .ok (some v)) : f.Takes v := by
  intro points
  obtain ⟨target, kind⟩ : ∃ target, f.kind = .reference target := by
    cases kind : f.kind <;> simp [isReference, target?, kind] at points ⊢
  unfold requested at h
  rw [kind] at h
  split at h
  · cases h
  · next raw _ =>
    cases h
    by_cases blank : Text.trim raw = ""
    · exact ⟨none, if_pos blank⟩
    · exact ⟨some ⟨Text.trim raw⟩, if_neg blank⟩

theorem Field.requested_of_named {f : Field} {params : Params} {raw : String} {own : Option Value}
    (single : f.isCollection = false) (named : params.get? f.parameter = some raw)
    (h : f.requested params = .ok own) : ∃ v, own = some v := by
  unfold requested at h
  rw [named] at h
  cases kind : f.kind with
  | value type =>
    rw [kind] at h
    obtain ⟨v, _, rfl⟩ : ∃ v, f.convert type raw = .ok v ∧ some v = own := by
      cases given : f.convert type raw with
      | error fault => simp [given, Except.map] at h
      | ok v => exact ⟨v, rfl, by simpa [given, Except.map] using h⟩
    exact ⟨v, rfl⟩
  | reference target =>
    rw [kind] at h
    cases h
    exact ⟨_, rfl⟩
  | collection => simp [isCollection, kind] at single

/-- Values for bindable fields, at most one for each. -/
structure Schema.Offers (s : Schema) (isNew : Bool) (values : List (String × Value)) : Prop where
  distinct : (values.map Prod.fst).Nodup
  field : ∀ pair ∈ values, ∃ f ∈ s.bindable isNew, pair.1 = f.name ∧ f.Takes pair.2

theorem field_of_mem_requestedValues {params : Params} {fields : List Field}
    {values : List (String × Value)} (h : requestedValues params fields = .ok values)
    {pair : String × Value} (hp : pair ∈ values) :
    ∃ f ∈ fields, pair.1 = f.name ∧ f.requested params = .ok (some pair.2) := by
  induction fields generalizing values with
  | nil =>
    cases h
    cases hp
  | cons f r ih =>
    obtain ⟨own, rest, hown, hrest, rfl⟩ := requestedValues_cons h
    rcases List.mem_append.1 hp with hp | hp
    · obtain ⟨v, hv, rfl⟩ := List.mem_map.1 hp
      rw [Option.mem_toList.1 hv] at hown
      exact ⟨f, List.mem_cons_self, rfl, hown⟩
    · obtain ⟨g, hg, given⟩ := ih hrest hp
      exact ⟨g, List.mem_cons_of_mem _ hg, given⟩

theorem mem_requestedValues {params : Params} {fields : List Field} {values : List (String × Value)}
    (h : requestedValues params fields = .ok values) {f : Field} (hf : f ∈ fields) {v : Value}
    (given : f.requested params = .ok (some v)) : (f.name, v) ∈ values := by
  induction fields generalizing values with
  | nil => cases hf
  | cons g r ih =>
    obtain ⟨own, rest, hown, hrest, rfl⟩ := requestedValues_cons h
    rcases List.mem_cons.1 hf with rfl | hf
    · cases hown.symm.trans given
      exact List.mem_append_left _ List.mem_cons_self
    · exact List.mem_append_right _ (ih hrest hf)

theorem requested_ok_of_mem {params : Params} {fields : List Field} {values : List (String × Value)}
    (h : requestedValues params fields = .ok values) {f : Field} (hf : f ∈ fields) :
    ∃ own, f.requested params = .ok own := by
  induction fields generalizing values with
  | nil => cases hf
  | cons g r ih =>
    obtain ⟨own, rest, hown, hrest, _⟩ := requestedValues_cons h
    rcases List.mem_cons.1 hf with rfl | hf
    · exact ⟨own, hown⟩
    · exact ih hrest hf

theorem requestedValues_ok {params : Params} {fields : List Field}
    (h : ∀ f ∈ fields, ∃ own, f.requested params = .ok own) :
    ∃ values, requestedValues params fields = .ok values := by
  induction fields with
  | nil => exact ⟨[], rfl⟩
  | cons f r ih =>
    obtain ⟨own, hown⟩ := h f List.mem_cons_self
    obtain ⟨rest, hrest⟩ := ih fun g hg => h g (List.mem_cons_of_mem _ hg)
    rw [requestedValues, hown]
    dsimp only
    rw [hrest]
    exact ⟨_, rfl⟩

theorem nodup_requestedValues {params : Params} {fields : List Field}
    {values : List (String × Value)} (h : requestedValues params fields = .ok values)
    (distinct : fields.Pairwise fun f g => f.name ≠ g.name) : (values.map Prod.fst).Nodup := by
  induction fields generalizing values with
  | nil =>
    cases h
    exact List.nodup_nil
  | cons f r ih =>
    obtain ⟨own, rest, _, hrest, rfl⟩ := requestedValues_cons h
    obtain ⟨apart, distinct⟩ := List.pairwise_cons.1 distinct
    have tail := ih hrest distinct
    cases own with
    | none => exact tail
    | some v =>
      refine List.nodup_cons.2 ⟨fun again => ?_, tail⟩
      obtain ⟨pair, hp, same⟩ := List.mem_map.1 again
      obtain ⟨g, hg, name⟩ := name_of_mem_requestedValues hrest hp
      exact apart g hg (same.symm.trans name)

theorem offers_requestedValues {params : Params} {s : Schema} {isNew : Bool}
    {values : List (String × Value)} (h : requestedValues params (s.bindable isNew) = .ok values)
    (distinct : (s.bindable isNew).Pairwise fun f g => f.name ≠ g.name) :
    s.Offers isNew values := by
  refine ⟨nodup_requestedValues h distinct, fun pair hp => ?_⟩
  obtain ⟨f, hf, name, given⟩ := field_of_mem_requestedValues h hp
  exact ⟨f, hf, name, Field.takes_of_requested given⟩

namespace Schema

variable {s : Schema} {isNew : Bool} {f : Field}

/-- No request reaches the name: it is the identifier's, or that of an exempt field, or that of a
transient field, a collection or, once the record exists, a fixed column. -/
def IsClosed (s : Schema) (isNew : Bool) (name : String) : Prop :=
  name = "id" ∨ name ∈ s.exempt ∨
    ∃ f ∈ s.fields, f.name = name ∧
      (f.isTransient ∨ f.isCollection ∨ isNew = false ∧ f.isFixed)

theorem mem_bindable : f ∈ s.bindable isNew ↔ f ∈ s.fields ∧ s.binds isNew f :=
  List.mem_filter

theorem single_of_binds (h : s.binds isNew f) : f.isCollection = false := by
  simp only [binds, Bool.and_eq_true, Bool.not_eq_true'] at h
  exact h.1.1.2

theorem distinct_of_fault? {entries : List (String × Value)} {seen : List String}
    {fields : List Field} (h : fault? entries seen fields = none) :
    (∀ f ∈ fields, f.name ∉ seen) ∧ fields.Pairwise fun f g => f.name ≠ g.name := by
  induction fields generalizing seen with
  | nil => exact ⟨fun _ hf => (List.not_mem_nil hf).elim, .nil⟩
  | cons f r ih =>
    unfold fault? at h
    split at h
    · cases h
    · next fresh =>
      split at h
      · cases h
      · split at h
        · cases h
        · obtain ⟨apart, distinct⟩ := ih h
          have fresh : f.name ∉ seen := by simpa using fresh
          refine ⟨fun g hg => ?_, List.pairwise_cons.2 ⟨fun g hg same => ?_, distinct⟩⟩
          · rcases List.mem_cons.1 hg with rfl | hg
            · exact fresh
            · exact fun there => apart g hg (List.mem_cons_of_mem _ there)
          · exact apart g hg (same ▸ List.mem_cons_self)

theorem IsClosed.ne_of_bindable {name : String} (h : s.IsClosed isNew name)
    (distinct : s.fields.Pairwise fun f g => f.name ≠ g.name) (hf : f ∈ s.bindable isNew) :
    f.name ≠ name := by
  obtain ⟨declared, binds⟩ := mem_bindable.1 hf
  simp only [Schema.binds, Bool.and_eq_true, bne_iff_ne, Bool.not_eq_true',
    List.contains_eq_mem, decide_eq_false_iff_not, Bool.or_eq_true] at binds
  obtain ⟨⟨⟨⟨noId, lasting⟩, single⟩, open_⟩, free⟩ := binds
  rintro rfl
  rcases h with id | exempt | ⟨g, hg, same, closed⟩
  · exact noId id
  · exact open_ exempt
  · have names : (s.fields.map Field.name).Nodup := List.pairwise_map.2 distinct
    obtain rfl : g = f := List.inj_on_of_nodup_map names hg declared same
    rcases closed with transient | collection | ⟨old, fixed⟩
    · simp [transient] at lasting
    · simp [collection] at single
    · simp [old, fixed] at free

end Schema

theorem Kind.distinct_of_check {I E : Type} {k : Kind I E} (h : k.check = .ok ()) :
    (∃ entries, k.encode k.blank = .object entries) ∧
      k.schema.fields.Pairwise fun f g => f.name ≠ g.name := by
  unfold check at h
  dsimp only at h
  split at h
  · cases h
  · next none =>
    split at none
    · next entries shown => exact ⟨⟨entries, shown⟩, (Schema.distinct_of_fault? none).2⟩
    · cases none

/-- The field shows what it is read from. -/
def Field.ShowsAsRead (_ : Field) (w u : Value) : Prop := u = w

namespace Kind

variable {I E : Type}

/-- Whatever the other fields show, the second value of the field is read as the first one is. -/
def ReadsAlike (k : Kind I E) (f : Field) (w u : Value) : Prop :=
  ∀ entries, k.decode (.object (Entries.put f.name u entries)) =
    k.decode (.object (Entries.put f.name w entries))

variable [Identifier I]

/-- Values laid over the kind's records stay there: the second value where a field is read from the first
one. -/
structure Receptive (k : Kind I E) (holds : Field → Value → Value → Prop) : Prop where
  /-- A value that a request can give to a field is shown as the field holds it. -/
  shows {v w : Value} {x : E} {isNew : Bool} {f : Field} : k.decode v = .ok x →
    f ∈ k.schema.bindable isNew → f.Takes w → v.field? f.name = some w →
    ∃ u, (k.encode x).field? f.name = some u ∧ holds f w u
  /-- What a record that reads back shows is shown as it was read. -/
  keeps {v : Value} {e x : E} {name : String} : k.decode (k.encode e) = .ok e →
    k.decode v = .ok x → v.field? name = (k.encode e).field? name →
    (k.encode x).field? name = (k.encode e).field? name
  /-- Values once laid over a record are laid over the outcome without effect. -/
  again {e x : E} {entries values : List (String × Value)} {isNew : Bool} :
    k.decode (k.encode e) = .ok e → k.encode e = .object entries →
    k.schema.Offers isNew values → k.decode (.object (Entries.putAll entries values)) = .ok x →
    ∃ own, k.encode x = .object own ∧ k.decode (.object (Entries.putAll own values)) = .ok x

/-- A record with the request's values in it, and as it was in all else. -/
structure LaidOver (k : Kind I E) (holds : Field → Value → Value → Prop) (params : Params)
    (e bound : E) : Prop where
  /-- A bindable field that the request names holds the converted first value under its name. -/
  given : ∀ f ∈ k.schema.bindable (k.isNew e), ∀ raw, params.get? f.parameter = some raw →
    ∃ v u, f.requested params = .ok (some v) ∧ (k.encode bound).field? f.name = some u ∧ holds f v u
  kept : ∀ name,
    (∀ f ∈ k.schema.bindable (k.isNew e), f.name = name → params.get? f.parameter = none) →
    (k.encode bound).field? name = (k.encode e).field? name
  closed : ∀ name, k.schema.IsClosed (k.isNew e) name →
    (k.encode bound).field? name = (k.encode e).field? name
  /-- The same request changes nothing any more. -/
  settled : k.bind params bound = .ok bound

variable {k : Kind I E} {holds : Field → Value → Value → Prop} {params : Params} {e bound : E}

namespace Receptive

variable (receptive : k.Receptive holds) (readsBack : k.decode (k.encode e) = .ok e)
  (distinct : (k.schema.bindable (k.isNew e)).Pairwise fun f g => f.name ≠ g.name)
  (h : k.bind params e = .ok bound)

include receptive distinct h in
theorem field_of_named {f : Field} (hf : f ∈ k.schema.bindable (k.isNew e)) {raw : String}
    (named : params.get? f.parameter = some raw) :
    ∃ v u, f.requested params = .ok (some v) ∧ (k.encode bound).field? f.name = some u ∧
      holds f v u := by
  obtain ⟨entries, values, _, hvalues, found⟩ := bind_cases h
  obtain ⟨own, asked, given⟩ := requested_of_requestedValues hvalues distinct hf entries
  obtain ⟨w, rfl⟩ := Field.requested_of_named
    (Schema.single_of_binds (Schema.mem_bindable.1 hf).2) named asked
  have there : (f.name, w) ∈ values := mem_requestedValues hvalues hf asked
  rcases found with ⟨rfl, _⟩ | decoded
  · cases there
  · obtain ⟨u, shown, held⟩ := receptive.shows decoded hf (Field.takes_of_requested asked) given
    exact ⟨w, u, asked, shown, held⟩

include receptive readsBack h in
theorem field_of_unnamed {name : String}
    (unnamed : ∀ f ∈ k.schema.bindable (k.isNew e), f.name = name →
      params.get? f.parameter = none) :
    (k.encode bound).field? name = (k.encode e).field? name := by
  obtain ⟨entries, values, hentries, hvalues, ⟨_, rfl⟩ | decoded⟩ := bind_cases h
  · rfl
  · have untouched : ∀ pair ∈ values, pair.1 ≠ name := by
      intro pair hp same
      obtain ⟨f, hf, name, asked⟩ := field_of_mem_requestedValues hvalues hp
      rw [Field.requested, unnamed f hf (name.symm.trans same)] at asked
      cases asked
    refine receptive.keeps readsBack decoded ?_
    rw [hentries]
    exact Entries.get?_putAll_of_ne untouched entries

include receptive readsBack distinct h in
theorem bind_again (same : k.isNew bound = k.isNew e) : k.bind params bound = .ok bound := by
  obtain ⟨entries, values, hentries, hvalues, ⟨_, rfl⟩ | decoded⟩ := bind_cases h
  · exact h
  · obtain ⟨own, hown, twice⟩ := receptive.again readsBack hentries
      (offers_requestedValues hvalues distinct) decoded
    exact bind_of_decode hown (same ▸ hvalues) twice fun _ => rfl

end Receptive

/-- Binding gives each field that the request names its value, and leaves all else. -/
theorem Receptive.laidOver [LawfulIdentifier I] (receptive : k.Receptive holds) (law : k.Lawful)
    (declared : k.schema.fields.Pairwise fun f g => f.name ≠ g.name)
    (readsBack : k.decode (k.encode e) = .ok e) (h : k.bind params e = .ok bound) :
    k.LaidOver holds params e bound := by
  have distinct := declared.filter (k.schema.binds (k.isNew e))
  exact {
    given := fun f hf raw named => receptive.field_of_named distinct h hf named
    kept := fun name unnamed => receptive.field_of_unnamed readsBack h unnamed
    closed := fun name closed => receptive.field_of_unnamed readsBack h fun f hf same =>
      absurd same (closed.ne_of_bindable declared hf)
    settled := receptive.bind_again readsBack distinct h (isNew_bind law h) }

end Kind
end Registrar
