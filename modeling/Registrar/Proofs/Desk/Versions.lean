import Registrar.Proofs.Desk.Journal
import Registrar.Proofs.Desk.Orderly
import Registrar.Proofs.Desk.Solitary
import Registrar.Proofs.Desk.Unique
import Registrar.Proofs.Kind.Overlay
import Registrar.Proofs.Kind.Versioned

/-!
Requests that carry a version. The version goes with the record through binding, policy and checks, none of
which ask for it, up to the store. Main statement: if a request with one version would be served, the same
request with another one comes to the save of the same record with that version.
-/

namespace Registrar

open Json

namespace Params

/-- The request has the version, in 32 bits. -/
def Carries (params : Params) (v : Int) : Prop :=
  ∃ raw, params.get? "version" = some raw ∧
    Number.readSigned Number.maxInt64 (Text.trim raw).toList = .ok v ∧ Number.fitsInt32 v

def withVersion (params : Params) (n : Int) : Params :=
  { params with pairs := params.pairs.map fun p =>
      if p.1 = "version" then (p.1, Number.intText n) else p }

variable {params : Params} {n : Int} {key : String}

theorem get?_withVersion_of_ne (h : key ≠ "version") :
    (params.withVersion n).get? key = params.get? key := by
  obtain ⟨verb, pairs⟩ := params
  unfold withVersion get?
  dsimp only
  induction pairs with
  | nil => rfl
  | cons p r ih =>
    rw [List.map_cons, List.find?_cons, List.find?_cons]
    by_cases version : p.1 = "version"
    · have other : (p.1 == key) = false := beq_false_of_ne fun same => h (same.symm.trans version)
      simp only [if_pos version, other]
      exact ih
    · rw [if_neg version]
      cases p.1 == key with
      | true => rfl
      | false => exact ih

theorem isSome_get?_withVersion :
    ((params.withVersion n).get? "version").isSome = (params.get? "version").isSome := by
  obtain ⟨verb, pairs⟩ := params
  unfold withVersion get?
  dsimp only
  induction pairs with
  | nil => rfl
  | cons p r ih =>
    by_cases version : p.1 = "version"
    · simp [version]
    · simpa [version] using ih

end Params

/-- Requests that give a list of fields the same values, all but one of them, lay the same over the
entries under all other names. -/
theorem get?_putAll_of_alike {params other : Params} {fields : List Field}
    {values others : List (String × Value)} (h : requestedValues params fields = .ok values)
    (h' : requestedValues other fields = .ok others)
    (distinct : fields.Pairwise fun f g => f.name ≠ g.name) {name : String}
    (alike : ∀ f ∈ fields, f.name = name → f.requested other = f.requested params)
    (entries : List (String × Value)) :
    Entries.get? name (Entries.putAll entries others) =
      Entries.get? name (Entries.putAll entries values) := by
  by_cases declared : ∃ f ∈ fields, f.name = name
  · obtain ⟨f, hf, rfl⟩ := declared
    obtain ⟨own, asked, shown⟩ := requested_of_requestedValues h distinct hf entries
    obtain ⟨own', asked', shown'⟩ := requested_of_requestedValues h' distinct hf entries
    obtain rfl : own' = own := by
      rw [alike f hf rfl, asked] at asked'
      exact (Except.ok.inj asked').symm
    rw [shown, shown']
  · have untouched {p : Params} {vs : List (String × Value)}
        (hvs : requestedValues p fields = .ok vs) : ∀ pair ∈ vs, pair.1 ≠ name := by
      intro pair hp same
      obtain ⟨f, hf, own⟩ := name_of_mem_requestedValues hvs hp
      exact declared ⟨f, hf, own.symm.trans same⟩
    rw [Entries.get?_putAll_of_ne (untouched h), Entries.get?_putAll_of_ne (untouched h')]

def Field.version : Field := .integer "version" "Version"

theorem Field.requested_version {params : Params} {v : Int} (h : params.Carries v) :
    Field.version.requested params = .ok (some (.int v)) := by
  obtain ⟨raw, named, read, _⟩ := h
  have filled : Text.trim raw ≠ "" := by
    intro blank
    rw [blank] at read
    cases read
  have given : Field.version.convert .integer raw = .ok (.int v) := by
    refine (if_neg filled).trans ?_
    rw [convert.read, ValueType.read?, read]
    rfl
  have parameter : Field.version.parameter = "version" := rfl
  rw [requested, parameter, named]
  exact congrArg (Except.map some) given

section Updates

variable {I E : Type} [Identifier I] [DecidableEq I] {d : Desk I E} {supply : Supply}
variable {occasion : Occasion} {e x : E} {r : Registry}

theorem Desk.of_update_ok {saved : E} (h : (d.update supply occasion e r).2 = .ok saved) :
    d.policy.refuseUpdate e occasion.caller = none ∧
    ∃ x, d.policy.prepare e occasion.caller = .ok x ∧
      d.check (r.rules.rules d.kind.schema).1 false x r.store = .ok () := by
  unfold update at h
  split at h
  · cases h
  · next allowed =>
    split at h
    · cases h
    · next x prepared =>
      refine ⟨allowed, x, prepared, ?_⟩
      unfold commit rules at h
      dsimp only at h
      split at h
      · cases h
      · next checked => exact checked

variable (supply) in
theorem Desk.update_of_checked (allowed : d.policy.refuseUpdate e occasion.caller = none)
    (prepared : d.policy.prepare e occasion.caller = .ok x)
    (checked : d.check (r.rules.rules d.kind.schema).1 false x r.store = .ok ()) :
    (d.update supply occasion e r).1.store = (r.store.save d.kind supply occasion.author x).1 ∧
      (d.update supply occasion e r).2 = (r.store.save d.kind supply occasion.author x).2 := by
  unfold update
  rw [allowed]
  dsimp only
  rw [prepared]
  unfold commit rules
  dsimp only
  rw [checked]
  exact ⟨rfl, rfl⟩

end Updates

/-- The desk binds the version of a record that is there, and asks no more about it. -/
structure Desk.Unversioned {I E : Type} (d : Desk I E) : Prop where
  binds : Field.version ∈ d.kind.schema.bindable false
  sole : ∀ f ∈ d.kind.schema.bindable false, f.parameter = "version" → f.name = "version"
  distinct : (d.kind.schema.bindable false).Pairwise fun f g => f.name ≠ g.name
  decode {a b : List (String × Value)} {n : Int} (revises : Value.Revises a b n) {x : E} :
    d.kind.decode (.object a) = .ok x → d.kind.decode (.object b) = .ok (d.kind.setVersion n x)
  free : (RuleSet.ofSchema d.kind.schema).Frees "version"
  keeps : ∀ f ∈ d.kind.schema.declared, f.isUnique → d.kind.Keeps f.name
  refuseUpdate (n : Int) (e : E) (caller : Caller) :
    d.policy.refuseUpdate (d.kind.setVersion n e) caller = d.policy.refuseUpdate e caller
  prepare {n : Int} {e x : E} {caller : Caller} : d.policy.prepare e caller = .ok x →
    d.policy.prepare (d.kind.setVersion n e) caller = .ok (d.kind.setVersion n x)

namespace Desk.Unversioned

variable {I E : Type} [Identifier I] {d : Desk I E} (unversioned : d.Unversioned)
variable {params : Params} {caller : Caller} {n v : Int}

include unversioned

omit [Identifier I] in
theorem requested_withVersion {f : Field} (hf : f ∈ d.kind.schema.bindable false)
    (other : f.name ≠ "version") : f.requested params = f.requested (params.withVersion n) := by
  have elsewhere : f.parameter ≠ "version" := fun same => other (unversioned.sole f hf same)
  rw [Field.requested, Field.requested, Params.get?_withVersion_of_ne elsewhere]

omit [Identifier I] in
theorem requestedValues_carrying (carries : params.Carries v) {values : List (String × Value)}
    (h : requestedValues (params.withVersion n) (d.kind.schema.bindable false) = .ok values) :
    ∃ others, requestedValues params (d.kind.schema.bindable false) = .ok others ∧
      ("version", .int v) ∈ others := by
  have asked := Field.requested_version carries
  obtain ⟨others, hothers⟩ : ∃ others,
      requestedValues params (d.kind.schema.bindable false) = .ok others := by
    refine requestedValues_ok fun f hf => ?_
    by_cases version : f.name = "version"
    · have names : ((d.kind.schema.bindable false).map Field.name).Nodup :=
        List.pairwise_map.2 unversioned.distinct
      obtain rfl : f = Field.version :=
        List.inj_on_of_nodup_map names hf unversioned.binds version
      exact ⟨_, asked⟩
    · rw [unversioned.requested_withVersion hf version]
      exact requested_ok_of_mem h hf
  exact ⟨others, hothers, mem_requestedValues hothers unversioned.binds asked⟩

omit [Identifier I] in
theorem requestedValues_ne_nil (carries : params.Carries v) {values : List (String × Value)}
    (h : requestedValues (params.withVersion n) (d.kind.schema.bindable false) = .ok values) :
    values ≠ [] := by
  obtain ⟨raw, named, _⟩ := carries
  have there : ((params.withVersion n).get? "version").isSome := by
    rw [Params.isSome_get?_withVersion, named]
    rfl
  obtain ⟨text, given⟩ := Option.isSome_iff_exists.1 there
  obtain ⟨own, hown⟩ := requested_ok_of_mem h unversioned.binds
  obtain ⟨w, rfl⟩ := Field.requested_of_named (f := Field.version) rfl given hown
  exact List.ne_nil_of_mem (mem_requestedValues h unversioned.binds hown)

theorem bind {drawn e : E} (known : d.kind.isNew drawn = false) (carries : params.Carries v)
    (bound : d.kind.bind (params.withVersion n) drawn = .ok e) :
    d.kind.bind params drawn = .ok (d.kind.setVersion v e) := by
  obtain ⟨entries, values, hentries, hvalues, found⟩ := Kind.bind_cases bound
  rw [known] at hvalues
  obtain ⟨others, hothers, there⟩ := unversioned.requestedValues_carrying carries hvalues
  have decoded := found.resolve_left fun none =>
    unversioned.requestedValues_ne_nil carries hvalues none.1
  have revises : Value.Revises (Entries.putAll entries values) (Entries.putAll entries others) v := {
    others := fun name other => get?_putAll_of_alike hvalues hothers unversioned.distinct
      (fun f hf same => unversioned.requested_withVersion hf (same ▸ other)) entries
    version := by
      obtain ⟨own, hown, given⟩ := requested_of_requestedValues hothers unversioned.distinct
        unversioned.binds entries
      cases hown.symm.trans (Field.requested_version carries)
      exact given
    fits := carries.choose_spec.2.2 }
  exact Kind.bind_of_decode hentries (known ▸ hothers) (unversioned.decode revises decoded)
    fun none => absurd none (List.ne_nil_of_mem there)

variable {supply : Supply} {occasion : Occasion} {r : Registry} {e x : E}

theorem check [DecidableEq I] (law : d.kind.Lawful) {rules : RuleSet}
    (free : rules.Frees "version") (creating : Bool) (x : E) (s : Store) :
    d.check rules creating (d.kind.setVersion n x) s = d.check rules creating x s := by
  have same : rules.validate d.kind.schema (d.kind.encode (d.kind.setVersion n x)) =
      rules.validate d.kind.schema (d.kind.encode x) := by
    rw [RuleSet.validate, RuleSet.validate,
      RuleSet.violations_congr free _ fun _ other => law.field_setVersion n x other]
  unfold Desk.check
  rw [same]
  split
  · rfl
  · refine forM_congr fun f hf => ?_
    obtain ⟨declared, unique⟩ := List.mem_filter.1 hf
    rw [clash, clash, (unversioned.keeps f declared unique x).2 n, law.id_setVersion]

/-- If a record is updated, the same record of another version is updated just if that is the version of its
row, and refused as modified otherwise. -/
theorem update [LawfulIdentifier I] [DecidableEq I] (law : d.kind.Lawful) (keeps : d.KeepsId)
    (rules : r.rules.Knows d.kind.schema) {id : I} (hid : d.kind.id e = some id)
    (known : d.kind.isNew e = false) {row : SavedRow}
    (found : r.store.row? d.kind.entityType (Identifier.text id) = some row)
    (done : ∃ saved, (d.update supply occasion e r).2 = .ok saved) :
    (v = row.version → ∃ next,
      (d.update supply occasion (d.kind.setVersion v e) r).2 = .ok next ∧
      d.kind.version next = v + 1 ∧
      (d.update supply occasion (d.kind.setVersion v e) r).1.store.row? d.kind.entityType
        (Identifier.text id) = some (d.kind.row (Identifier.text id) next)) ∧
    (v ≠ row.version → (d.update supply occasion (d.kind.setVersion v e) r).2 =
      .error (.modified d.kind.entityType (Identifier.text id) v row.version)) := by
  obtain ⟨saved, done⟩ := done
  obtain ⟨allowed, x, prepared, checked⟩ := Desk.of_update_ok done
  have free : (r.rules.rules d.kind.schema).1.Frees "version" := by
    rw [rules.rules_eq]
    exact unversioned.free
  rw [← unversioned.check law free (n := v)] at checked
  rw [← unversioned.refuseUpdate v] at allowed
  obtain ⟨store, answer⟩ := Desk.update_of_checked supply allowed
    (unversioned.prepare prepared) checked
  have own : d.kind.id (d.kind.setVersion v x) = some id := by
    rw [law.id_setVersion, keeps.prepare known prepared, hid]
  have isSet := Store.isSet_of_id hid known
  have version := law.version_setVersion v x
  rw [store, answer]
  refine ⟨fun current => ?_, fun stale => ?_⟩
  · obtain ⟨done, _, there⟩ := r.store.save_over supply occasion.author own isSet found
      (current.symm.trans version.symm)
    refine ⟨_, done, ?_, there⟩
    rw [law.version_setVersion, current]
  · obtain ⟨refused, _⟩ := r.store.save_stale supply occasion.author own isSet found
      (fun same => stale (version.symm.trans same.symm))
    rw [refused, version]

end Desk.Unversioned
end Registrar
