import Registrar.Proofs.Desk.Lasting
import Registrar.Proofs.Kind.Faithful

/-!
Views of single records. A view binds the request's values like a change does. Main statements: of a record
that the caller may access a view makes what binding makes of it, and that shows the record as it is just if
the request gives each field that it names the value that is there.
-/

namespace Registrar

open Json

theorem exists_error_of_requestedValues {params : Params} {fields : List Field} {fault : Error}
    (h : requestedValues params fields = .error fault) :
    ∃ f ∈ fields, f.requested params = .error fault := by
  induction fields with
  | nil => cases h
  | cons f r ih =>
    unfold requestedValues at h
    split at h
    · next refused =>
      cases h
      exact ⟨f, List.mem_cons_self, refused⟩
    · split at h
      · next refused =>
        cases h
        obtain ⟨g, hg, given⟩ := ih refused
        exact ⟨g, List.mem_cons_of_mem _ hg, given⟩
      · cases h

theorem Field.requested_of_unnamed {f : Field} {params : Params}
    (h : params.get? f.parameter = none) : f.requested params = .ok none := by
  rw [requested, h]

theorem Field.isSome_of_requested {f : Field} {params : Params}
    (h : f.requested params ≠ .ok none) : (params.get? f.parameter).isSome := by
  cases named : params.get? f.parameter with
  | none => exact absurd (requested_of_unnamed named) h
  | some raw => rfl

namespace Kind

variable {I E : Type} [Identifier I] {k : Kind I E} {params : Params} {e : E}

theorem bind_error_cases {entries : List (String × Value)} {fault : Error}
    (shown : k.encode e = .object entries) (h : k.bind params e = .error fault) :
    ∃ f ∈ k.schema.bindable (k.isNew e), (params.get? f.parameter).isSome ∧
      (f.requested params = .error fault ∨ ∃ u, fault = .unreadable k.label u) := by
  unfold bind at h
  rw [shown] at h
  dsimp only at h
  split at h
  · next refused =>
    cases h
    obtain ⟨f, hf, given⟩ := exists_error_of_requestedValues refused
    exact ⟨f, hf, Field.isSome_of_requested (by rw [given]; nofun), .inl given⟩
  · cases h
  · next values filled given =>
    obtain ⟨pair, hp⟩ := List.exists_mem_of_ne_nil values filled
    obtain ⟨f, hf, _, asked⟩ := field_of_mem_requestedValues given hp
    split at h
    · cases h
    · next u _ =>
      cases h
      exact ⟨f, hf, Field.isSome_of_requested (by rw [asked]; nofun), .inr ⟨u, rfl⟩⟩

/-- The record has the values that the request gives to its fields. -/
def HasRequested (k : Kind I E) (params : Params) (e : E) : Prop :=
  ∀ f ∈ k.schema.bindable (k.isNew e), ∀ raw, params.get? f.parameter = some raw →
    ∃ v, f.requested params = .ok (some v) ∧ (k.encode e).field? f.name = some v

theorem bind_of_hasRequested
    (congr : ∀ {a b : List (String × Value)}, (∀ name, Entries.get? name a = Entries.get? name b) →
      k.decode (.object a) = k.decode (.object b))
    (distinct : (k.schema.bindable (k.isNew e)).Pairwise fun f g => f.name ≠ g.name)
    {entries : List (String × Value)} (shown : k.encode e = .object entries)
    (readsBack : k.decode (k.encode e) = .ok e) (has : k.HasRequested params e) :
    k.bind params e = .ok e := by
  obtain ⟨values, given⟩ : ∃ values,
      requestedValues params (k.schema.bindable (k.isNew e)) = .ok values := by
    refine requestedValues_ok fun f hf => ?_
    cases named : params.get? f.parameter with
    | none => exact ⟨none, Field.requested_of_unnamed named⟩
    | some raw =>
      obtain ⟨v, asked, _⟩ := has f hf raw named
      exact ⟨some v, asked⟩
  have there : ∀ name, Entries.get? name (Entries.putAll entries values) =
      Entries.get? name entries := by
    intro name
    rw [Entries.get?_putAll (nodup_requestedValues given distinct)]
    cases laid : Entries.get? name values with
    | none => rfl
    | some w =>
      obtain ⟨f, hf, same, asked⟩ :=
        field_of_mem_requestedValues given (Entries.mem_of_get? laid)
      obtain rfl : name = f.name := same
      obtain ⟨raw, named⟩ :=
        Option.isSome_iff_exists.1 (Field.isSome_of_requested (f := f) (by rw [asked]; nofun))
      obtain ⟨v, asked', own⟩ := has f hf raw named
      cases asked.symm.trans asked'
      rw [shown] at own
      exact own.symm
  rw [shown] at readsBack
  exact bind_of_decode shown given ((congr there).trans readsBack) fun _ => rfl

theorem eq_of_decode [LawfulIdentifier I] {P : E → Prop} (law : k.Lawful) (reads : k.Reads)
    (legible : k.Legible P) {x : E} (he : P e) (h : k.decode (k.encode e) = .ok x) : x = e := by
  obtain ⟨fields, shown, id, version⟩ := reads _ _ h
  have sameId := LawfulIdentifier.ofOption_injective (law.decode_id h (law.field_id e))
  have sameVersion := Value.int.inj (law.decode_version h (law.field_version e))
  refine Except.ok.inj (h.symm.trans (legible e he (fun i hi => ?_) ?_))
  · rw [sameId, hi] at id
    obtain ⟨v, own, read⟩ := Fields.of_optional?_some id
    have given := shown _ _ (law.field_id e)
    rw [hi] at given
    cases own.symm.trans given
    exact read
  · rw [← sameVersion]
    exact Fields.fits_of_int32 version

end Kind

namespace Desk

variable {I E : Type} [Identifier I] {d : Desk I E} {params : Params} {caller : Caller} {s : Store}

def Opens {I E : Type} (d : Desk I E) (caller : Caller) (row : SavedRow) : Prop :=
  ∃ e, d.kind.decode row.content = .ok e ∧ d.policy.permit e caller = .ok ()

theorem view_of_found {id : I} {drawn : E} (named : requestId params = .ok (some id))
    (found : s.find? d.kind id = .ok (some drawn))
    (permitted : d.policy.permit drawn caller = .ok ()) :
    d.view params caller s = d.kind.bind params drawn := by
  simp only [view, Desk.named, named, Store.get, found, Except.map, fill, permitted]

end Desk
end Registrar
