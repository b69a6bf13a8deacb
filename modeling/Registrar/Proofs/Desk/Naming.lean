import Registrar.Proofs.Desk.Removal
import Registrar.Proofs.Desk.Single
import Registrar.Proofs.Page.Slices
import Registrar.Proofs.Text.Pieces

/-!
Names of records. A request names a record by the text of its identifier; the text is trimmed and names
nothing with a minus in front where one record is asked for, and it is cut at commas where several are.
Main statements: the first reading gives a text back just if it is trimmed and has no minus in front, the
second just if it is trimmed and has no comma; and of two requests that name a record by the text of its
identifier, views and updates get to it just with the first, deletes take it away just with the second.
-/

namespace Registrar

open Json

namespace Text

/-- A text that is read as it stands where one record is asked for. -/
def NamesOne (s : String) : Prop := IsTrimmed s ∧ s.toList.head? ≠ some '-'

/-- A text that is read as it stands where several records are asked for. -/
def NamesListed (s : String) : Prop := IsTrimmed s ∧ ',' ∉ s.toList

instance (s : String) : Decidable (NamesOne s) := inferInstanceAs (Decidable (_ ∧ _))

instance (s : String) : Decidable (NamesListed s) := inferInstanceAs (Decidable (_ ∧ _))

theorem IsTrimmed.not_allBlank {s : String} (h : IsTrimmed s) : allBlank s = false := by
  refine Bool.eq_false_iff.2 fun blank => h.filled ?_
  have front : s.toList.dropWhile isBlank = [] := List.dropWhile_eq_nil_iff.2 fun c hc =>
    List.all_eq_true.1 blank c hc
  rw [← h.trim_eq, trim, Text.trimmed, trimStart, front]
  rfl

theorem names_of_plain {s : String} (filled : s ≠ "")
    (plain : ∀ c ∈ s.toList, isBlank c = false ∧ c ≠ '-' ∧ c ≠ ',') : NamesOne s ∧ NamesListed s := by
  have trimmed : IsTrimmed s := ⟨filled, trim_of_no_blanks fun c hc => (plain c hc).1⟩
  exact ⟨⟨trimmed, fun minus => (plain '-' (List.mem_of_mem_head? minus)).2.1 rfl⟩,
    trimmed, fun comma => (plain ',' comma).2.2 rfl⟩

end Text

namespace Number

theorem names_natText (n : Nat) : Text.NamesOne (natText n) ∧ Text.NamesListed (natText n) := by
  refine Text.names_of_plain (fun empty => ?_) fun c hc => ?_
  · cases (congrArg Text.allBlank empty).symm.trans (not_allBlank_natText n)
  · have digit := isDigit_of_mem_natText hc
    refine ⟨not_isBlank_of_isDigit digit, ne_minus_of_isDigit digit, ?_⟩
    rintro rfl
    exact absurd digit (by decide)

end Number

namespace Identifier

section Generic

variable {I : Type} [Identifier I] {id : I}

theorem resolve_of_names (names : Text.NamesOne (text id)) (parsed : parse (text id) = .ok id)
    (isSet : isUnset id = false) : resolve (some (text id)) = .ok (some id) := by
  have same := names.1.trim_eq
  rw [resolve_of_filled (by rw [same]; exact names.1.filled) (by rw [same]; exact names.2), same, parsed]
  simp [Except.map, isSet]

theorem parseAll_of_names [DecidableEq I] (names : Text.NamesListed (text id))
    (parsed : parse (text id) = .ok id) : parseAll [text id] = .ok [id] := by
  have alone : split [text id] = [text id] := by
    rw [split_eq, parts, List.flatMap_singleton, Text.filledParts_of_isTrimmed names.1 names.2]
    rfl
  rw [parseAll, alone]
  simp [parseTokens, parsed, List.eraseDups_cons]

end Generic

theorem resolve_text_iff {s : String} : resolve (some s) = .ok (some s) ↔ Text.NamesOne s := by
  refine ⟨fun resolved => ?_, fun names => resolve_of_names names rfl names.1.not_allBlank⟩
  by_cases absent : Text.trim s = "" ∨ (Text.trim s).toList.head? = some '-'
  · rw [resolve_of_absent absent] at resolved
    cases resolved
  · obtain ⟨filled, unsigned⟩ := not_or.1 absent
    rw [resolve_of_filled filled unsigned] at resolved
    have same : Text.trim s = s := by
      by_cases unset : isUnset (Text.trim s)
      · simp [parse, Except.map, unset] at resolved
      · simpa [parse, Except.map, unset] using resolved
    rw [same] at filled unsigned
    exact ⟨⟨filled, same⟩, unsigned⟩

theorem mem_split_text_iff {s : String} : s ∈ split [s] ↔ Text.NamesListed s := by
  refine ⟨fun h => ⟨isTrimmed_of_mem_split h, comma_not_mem_of_mem_split h⟩, fun names => ?_⟩
  rw [mem_split_iff]
  exact ⟨s, List.mem_singleton_self s, by simp [Text.filledParts_of_isTrimmed names.1 names.2]⟩

theorem parse_natText {n : Nat} (positive : 0 < n) (fits : Number.fitsInt64 n) :
    parse (Number.natText n) = .ok (n : Int) ∧ isUnset (n : Int) = false := by
  simp only [Number.fitsInt64, Bool.and_eq_true, decide_eq_true_eq] at fits
  have below : n ≤ Number.maxInt64 := by omega
  have read := Number.readSigned_natText below
  refine ⟨by simp only [parse, read], ?_⟩
  simp only [isUnset, decide_eq_false_iff_not]
  omega

end Identifier

theorem requestedValues_of_silent {params : Params} {fields : List Field}
    (silent : ∀ f ∈ fields, params.get? f.parameter = none) : requestedValues params fields = .ok [] := by
  induction fields with
  | nil => rfl
  | cons f r ih =>
    have first : f.requested params = .ok none := by
      rw [Field.requested, silent f List.mem_cons_self]
    rw [requestedValues, first]
    dsimp only
    rw [ih fun g hg => silent g (List.mem_cons_of_mem _ hg)]
    rfl

theorem Field.parameter_ne_id {f : Field} (other : f.name ≠ "id") : f.parameter ≠ "id" := by
  unfold Field.parameter
  split
  · intro same
    have lengths := congrArg String.length same
    rw [String.length_append] at lengths
    have three : ".id".length = 3 := by decide
    have two : "id".length = 2 := by decide
    omega
  · exact other

theorem Kind.bind_id_alone {I E : Type} [Identifier I] {k : Kind I E} (law : k.Lawful) (verb : Verb)
    (key : String) (e : E) : k.bind ⟨verb, [("id", key)]⟩ e = .ok e := by
  have silent : requestedValues ⟨verb, [("id", key)]⟩ (k.schema.bindable (k.isNew e)) = .ok [] := by
    refine requestedValues_of_silent fun f hf => ?_
    have binds := (List.mem_filter.1 hf).2
    have other : f.name ≠ "id" := by
      intro named
      simp [Schema.binds, named] at binds
    simp [Params.get?, Ne.symm (Field.parameter_ne_id other)]
  have shown := law.field_id e
  unfold bind
  cases encoded : k.encode e with
  | object entries =>
    dsimp only
    rw [silent]
  | _ =>
    rw [encoded] at shown
    cases shown

namespace Desk

section Named

variable {I E : Type} [Identifier I] [DecidableEq I] (d : Desk I E)

/-- Requests that name a record by the key get to the record: a view shows it, and an update is one of
this record with the request's values in it, which leaves all rows but that under the key. -/
structure Reaches (r : Registry) (caller : Caller) (key : String) (e : E) : Prop where
  views : d.view ⟨.read, [("id", key)]⟩ caller r.store = .ok e
  updates (supply : Supply) {params : Params} : params.get? "id" = some key →
    d.doUpdate supply params caller r =
      match d.kind.bind params e with
      | .error fault => (r, .error fault)
      | .ok x =>
        ((d.update supply ⟨caller, "do-update"⟩ x r).1,
          (d.update supply ⟨caller, "do-update"⟩ x r).2.map fun saved =>
            .success "Updated" (some (d.kind.encode saved)))
  leaves (supply : Supply) {params : Params} {outcome : Outcome} : params.get? "id" = some key →
    (d.doUpdate supply params caller r).2 = .ok outcome →
    r.store.Overwrites d.kind.entityType key (d.doUpdate supply params caller r).1.store

/-- A delete that names the key takes away the row under it and no other one. -/
def Deletes (r : Registry) (caller : Caller) (key : String) : Prop :=
  ∀ (supply : Supply) (params : Params), params.getAll "ids" = [key] →
    (d.doDelete supply params caller r).2 = .ok (.success "Delete completed: 1 record(s)") ∧
    (d.doDelete supply params caller r).1.store.rows =
      r.store.rows.filter fun row => !row.isAt d.kind.entityType key

/-- A delete that names the key fails and leaves all rows. -/
def Spares (r : Registry) (caller : Caller) (key : String) : Prop :=
  ∀ (supply : Supply) (params : Params), params.getAll "ids" = [key] →
    (∃ outcome, (d.doDelete supply params caller r).2 = .ok outcome ∧ outcome.type = .failure) ∧
    (d.doDelete supply params caller r).1.store.rows = r.store.rows

theorem deleted_one :
    Batch.classify "Delete" 1 [] = .success "Delete completed: 1 record(s)" := by
  have message : (Batch.classify "Delete" 1 []).message = "Delete completed: 1 record(s)" := by
    decide +kernel
  exact congrArg (fun text => Outcome.success text) message

variable {d} {r : Registry} {caller : Caller} {id : I} {e : E}

omit [DecidableEq I] in
theorem view_cases {params : Params} {s : Store} (h : d.view params caller s = .ok e) :
    ∃ id stored, requestId (I := I) params = .ok (some id) ∧ s.find? d.kind id = .ok (some stored) ∧
      d.kind.bind params stored = .ok e := by
  unfold view named fill at h
  cases named : requestId (I := I) params with
  | error fault => simp [named] at h
  | ok id? =>
    cases id? with
    | none => simp [named] at h
    | some id =>
      cases found : s.find? d.kind id with
      | error fault => simp [named, Store.get, found, Except.map] at h
      | ok stored? =>
        cases stored? with
        | none => simp [named, Store.get, found, Except.map] at h
        | some stored =>
          simp only [named, Store.get, found, Except.map] at h
          split at h
          · exact ⟨id, stored, rfl, found, h⟩
          · cases h

variable [LawfulIdentifier I]

section Found

variable (law : d.kind.Lawful) (kept : r.store.WellKept)
  (found : r.store.find? d.kind id = .ok (some e)) (permitted : d.policy.permit e caller = .ok ())

include law kept found permitted

theorem reaches_of_found (named : Identifier.resolve (some (Identifier.text id)) = .ok (some id))
    (keeps : d.KeepsId) (blank : d.kind.isNew d.kind.blank) :
    d.Reaches r caller (Identifier.text id) e := by
  have known := (kept.known_of_find? law found).2
  have working {params : Params} (asked : params.get? "id" = some (Identifier.text id)) :
      d.working params caller r.store = d.kind.bind params e := by
    simp only [Desk.working, Desk.named, requestId, asked, named, Store.get, found, Except.map,
      Option.getD_some, fill, permitted]
  refine ⟨?_, fun supply {params} asked => ?_, fun supply {params outcome} asked answered => ?_⟩
  · have asked : (⟨.read, [("id", Identifier.text id)]⟩ : Params).get? "id" =
        some (Identifier.text id) := by simp [Params.get?]
    simp only [view, Desk.named, requestId, asked, named, Store.get, found, Except.map, fill,
      permitted]
    exact Kind.bind_id_alone law ..
  · rw [doUpdate, report, working asked]
    cases bound : d.kind.bind params e with
    | error fault => rfl
    | ok x =>
      have stillKnown := (Kind.isNew_bind law bound).trans known
      dsimp only
      rw [if_neg (Bool.eq_false_iff.1 stillKnown)]
  · have served : d.Served supply caller params r.store (d.doUpdate supply params caller r).1.store
        (d.doUpdate supply params caller r).2 := served_doUpdate law kept blank
    obtain ⟨row, there, _⟩ := Store.row_of_find? found
    generalize (d.doUpdate supply params caller r).1.store = t at served ⊢
    rw [answered] at served
    have asks : requestId params = .ok (some id) := by rw [requestId, asked, named]
    cases served with
    | entered unnamed => cases asks.symm.trans unnamed
    | @revised id' drawn e' x saved _ named' found' bound allowed prepared _ _ _ saves message =>
      cases asks.symm.trans named'
      have key := key_revised law keeps kept found' bound prepared saves
      have result : (r.store.save d.kind supply _ x).1 = t := congrArg Prod.fst saves
      rw [Store.key_saved_named law saves] at key
      rw [← result, ← key]
      rw [← key] at there
      exact Store.overwrites_of_found law (congrArg Prod.snd saves) there

section Listed

variable (listed : Identifier.parseAll [Identifier.text id] = .ok [id])

include listed

theorem doDelete_one (supply : Supply) {params : Params}
    (asked : params.getAll "ids" = [Identifier.text id]) :
    d.doDelete supply params caller r =
      match d.policy.refuseDelete e caller with
      | some refusal => (r, .ok (Batch.classify "Delete" 1
          [(Identifier.text id, (Error.refused refusal).message)]))
      | none => ({ r with store := (r.store.delete d.kind supply.now ⟨caller.userId, "do-delete"⟩ e).1 },
          .ok (.success "Delete completed: 1 record(s)")) := by
  have known := (kept.known_of_find? law found).2
  have key := kept.idText?_of_find? law found
  obtain ⟨row, there, _⟩ := Store.row_of_find? found
  have parsed : Identifier.parseAll (params.getAll "ids") = .ok [id] := by
    rw [asked, listed]
  have targets := d.targets_eq parsed fun i hi => ⟨some e, List.mem_singleton.1 hi ▸ found⟩
  have record : d.target r.store id = ⟨Identifier.text id, .ok e⟩ := by
    simp only [target, found]
  rw [List.map_singleton, record] at targets
  unfold doDelete batch
  rw [targets]
  dsimp only
  cases allowed : d.policy.refuseDelete e caller with
  | some refusal =>
    have step : d.discard supply caller e r = (r, .error (.refused refusal)) := by
      simp [discard, permitted, known, allowed]
    simp only [Batch.execute, Batch.run, Batch.step, step]
    rfl
  | none =>
    have gone := (r.store.delete_found supply.now ⟨caller.userId, "do-delete"⟩ key there).1
    have step : d.discard supply caller e r =
        ({ r with store := (r.store.delete d.kind supply.now ⟨caller.userId, "do-delete"⟩ e).1 },
          .ok ()) := by
      simp [discard, permitted, known, allowed, gone]
    simp only [Batch.execute, Batch.run, Batch.step, step, List.length_singleton, deleted_one]

theorem deletes_of_found (allowed : d.policy.refuseDelete e caller = none) :
    d.Deletes r caller (Identifier.text id) := by
  intro supply params asked
  have key := kept.idText?_of_find? law found
  obtain ⟨row, there, _⟩ := Store.row_of_find? found
  rw [doDelete_one law kept found permitted listed supply asked, allowed]
  exact ⟨rfl, (r.store.delete_found supply.now ⟨caller.userId, "do-delete"⟩ key there).2.1⟩

theorem spares_of_found {refusal : Refusal} (refused : d.policy.refuseDelete e caller = some refusal) :
    d.Spares r caller (Identifier.text id) := by
  intro supply params asked
  rw [doDelete_one law kept found permitted listed supply asked, refused]
  exact ⟨⟨_, rfl, rfl⟩, rfl⟩

end Listed
end Found
end Named

section Texts

variable {E : Type} {d : Desk String E} {r : Registry} {caller : Caller} {key : String} {e : E}
variable (law : d.kind.Lawful) (kept : r.store.WellKept)

include law kept

/-- What a view of the key shows has another identifier if the key is not read as it stands. -/
theorem names_of_reaches (own : Row.textAt (d.kind.encode e) "id" = key)
    (reaches : d.Reaches r caller key e) : Text.NamesOne key := by
  obtain ⟨id, stored, named, found, bound⟩ := view_cases reaches.views
  rw [Kind.bind_id_alone law] at bound
  cases bound
  have same : id = key := (law.textAt_encode (kept.known_of_find? law found).1).symm.trans own
  have asked : (⟨.read, [("id", key)]⟩ : Params).get? "id" = some key := by simp [Params.get?]
  rw [requestId, asked, same] at named
  exact Identifier.resolve_text_iff.1 named

/-- A delete of the key leaves the row under it if the key is not read as it stands. -/
theorem names_of_deletes {row : SavedRow} (there : r.store.row? d.kind.entityType key = some row)
    (supply : Supply) (deletes : d.Deletes r caller key) : Text.NamesListed key := by
  have asked : (⟨.mutation, [("ids", key)]⟩ : Params).getAll "ids" = [key] := by simp [Params.getAll]
  obtain ⟨done, rows⟩ := deletes supply _ asked
  rcases (row?_doDelete law kept done).2 key with stays | ⟨id, e, removes, rfl⟩
  · have gone : (r.store.rows.filter fun row => !row.isAt d.kind.entityType key).find?
        (·.isAt d.kind.entityType key) = none := by simp
    rw [Store.row?, rows, gone, there] at stays
    cases stays
  · obtain ⟨token, listed, parsed⟩ := removes.listed
    cases parsed
    rw [asked] at listed
    exact Identifier.mem_split_text_iff.1 listed

variable (found : r.store.find? d.kind key = .ok (some e)) (permitted : d.policy.permit e caller = .ok ())

include found permitted

theorem reaches_text_iff (keeps : d.KeepsId) (blank : d.kind.isNew d.kind.blank) :
    (∃ x, d.kind.encode x = d.kind.encode e ∧ d.Reaches r caller key x) ↔ Text.NamesOne key := by
  have own : Row.textAt (d.kind.encode e) "id" = key :=
    law.textAt_encode (kept.known_of_find? law found).1
  refine ⟨fun ⟨x, same, reaches⟩ => names_of_reaches law kept (by rw [same, own]) reaches,
    fun names => ⟨e, rfl, ?_⟩⟩
  exact reaches_of_found law kept found permitted (Identifier.resolve_text_iff.2 names) keeps blank

theorem deletes_text_iff (supply : Supply) :
    d.Deletes r caller key ↔ Text.NamesListed key ∧ d.policy.refuseDelete e caller = none := by
  have listed (names : Text.NamesListed key) : Identifier.parseAll [key] = .ok [key] :=
    Identifier.parseAll_of_names names rfl
  refine ⟨fun deletes => ?_, fun ⟨names, allowed⟩ =>
    deletes_of_found law kept found permitted (listed names) allowed⟩
  obtain ⟨row, there, _⟩ := Store.row_of_find? found
  have names : Text.NamesListed key := names_of_deletes law kept there supply deletes
  refine ⟨names, ?_⟩
  cases refused : d.policy.refuseDelete e caller with
  | none => rfl
  | some refusal =>
    have asked : (⟨.mutation, [("ids", key)]⟩ : Params).getAll "ids" = [key] := by
      simp [Params.getAll]
    have spares := spares_of_found law kept found permitted (listed names) refused
    obtain ⟨⟨outcome, failed, failure⟩, _⟩ := spares supply _ asked
    cases failed.symm.trans (deletes supply _ asked).1
    cases failure

end Texts
end Desk
end Registrar
