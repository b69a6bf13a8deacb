import Registrar.Proofs.Kind.Overlay

/-!
Faithful kinds: departments, roles, users and all freeform records that show their entries show what
they are read from as it stands; with a date that requests reach a kind may show another text of the same
time. Main statement: if the schema fits the records of a faithful kind, binding lays the request's values
over a record that reads back and changes nothing else, once and for all.
-/

namespace Registrar

open Json

namespace Kind

variable {I E : Type} {k : Kind I E} {time : E → Option Instant}

theorem Dated.readsBack (dated : k.Dated time) {v : Value} {e : E} (h : k.decode v = .ok e) :
    ∀ t, time e = some t → t.ReadsBack := by
  intro t ht
  obtain ⟨_, _, read⟩ := dated.decode h
  exact Fields.readsBack_of_instant (ht ▸ read)

/-- The kind's records are read from the entries of their names alone, and show what they are read from:
the second value where a field is read from the first one. -/
structure Faithful [Identifier I] (k : Kind I E) (holds : Field → Value → Value → Prop) : Prop where
  object : ∀ e, ∃ entries, k.encode e = .object entries
  congr {a b : List (String × Value)} : (∀ name, Entries.get? name a = Entries.get? name b) →
    k.decode (.object a) = k.decode (.object b)
  shows {v w : Value} {x : E} {isNew : Bool} {f : Field} : k.decode v = .ok x →
    f ∈ k.schema.bindable isNew → f.Takes w → v.field? f.name = some w →
    ∃ u, (k.encode x).field? f.name = some u ∧ holds f w u
  /-- What a record that reads back shows is shown as it was read. -/
  keeps {v : Value} {e x : E} {name : String} : k.decode (k.encode e) = .ok e →
    k.decode v = .ok x → v.field? name = (k.encode e).field? name →
    (k.encode x).field? name = (k.encode e).field? name

theorem Faithful.receptive [Identifier I] {holds : Field → Value → Value → Prop}
    (faithful : k.Faithful holds) : k.Receptive holds where
  shows := faithful.shows
  keeps := faithful.keeps
  again {e x entries values isNew} readsBack shown offers decoded := by
    obtain ⟨own, hown⟩ := faithful.object x
    refine ⟨own, hown, (faithful.congr fun name => ?_).trans decoded⟩
    rw [Entries.get?_putAll offers.distinct, Entries.get?_putAll offers.distinct]
    cases given : Entries.get? name values with
    | some w => rfl
    | none =>
      -- What is not given again is as the record showed it before.
      have same : (Value.object (Entries.putAll entries values)).field? name =
          (k.encode e).field? name := by
        rw [shown, Value.field?, Entries.get?_putAll offers.distinct, given]
        rfl
      have still := faithful.keeps readsBack decoded same
      rw [hown, shown] at still
      exact still

end Kind

theorem Json.Value.fields?_congr {a b : List (String × Value)}
    (h : ∀ name, Entries.get? name a = Entries.get? name b) (names : List String) :
    (Value.object a).fields? names = (Value.object b).fields? names :=
  congrArg some (funext h)

namespace Department

theorem decode_congr {a b : List (String × Value)}
    (same : ∀ name, Entries.get? name a = Entries.get? name b) :
    kind.decode (.object a) = kind.decode (.object b) := by
  show ofValue (.object a) = ofValue (.object b)
  unfold ofValue
  rw [Value.fields?_congr same]

theorem kind_faithful : kind.Faithful Field.ShowsAsRead := by
  refine ⟨fun _ => ⟨_, rfl⟩, decode_congr, fun {v w x isNew f} h hf takes given => ?_,
    fun readsBack h => field?_of_decode h fun _ => kind_dated.readsBack readsBack⟩
  have declared : ∀ isNew, ∀ f ∈ schema.bindable isNew, (Entries.get? f.name layout).isSome ∧
      (f.name = "parent" → f.isReference) ∧ f.name ≠ "createdAt" := by decide
  obtain ⟨listed, points, undated⟩ := declared isNew f hf
  obtain ⟨shows, entry⟩ := Option.isSome_iff_exists.1 listed
  rw [field?_encode, entry]
  exact ⟨_, rfl, shows_read h (Entries.mem_of_get? entry) given (fun own => takes (points own))
    fun own => absurd own undated⟩

end Department

namespace Role

theorem decode_congr {a b : List (String × Value)}
    (same : ∀ name, Entries.get? name a = Entries.get? name b) :
    kind.decode (.object a) = kind.decode (.object b) := by
  show ofValue (.object a) = ofValue (.object b)
  unfold ofValue
  rw [Value.fields?_congr same]

theorem kind_faithful : kind.Faithful Field.ShowsAsRead := by
  refine ⟨fun _ => ⟨_, rfl⟩, decode_congr, fun {v w x isNew f} h hf _ given => ?_,
    fun readsBack h => field?_of_decode h fun _ => kind_dated.readsBack readsBack⟩
  have declared : ∀ isNew, ∀ f ∈ schema.bindable isNew, (Entries.get? f.name layout).isSome ∧
      f.name ≠ "createdAt" := by decide
  obtain ⟨listed, undated⟩ := declared isNew f hf
  obtain ⟨shows, entry⟩ := Option.isSome_iff_exists.1 listed
  rw [field?_encode, entry]
  exact ⟨_, rfl, shows_read h (Entries.mem_of_get? entry) given fun own => absurd own undated⟩

end Role

namespace User

theorem decode_congr {a b : List (String × Value)}
    (same : ∀ name, Entries.get? name a = Entries.get? name b) :
    kind.decode (.object a) = kind.decode (.object b) := by
  show ofValue (.object a) = ofValue (.object b)
  unfold ofValue
  rw [Value.fields?_congr same]

theorem kind_faithful : kind.Faithful Field.ShowsAsRead := by
  refine ⟨fun _ => ⟨_, rfl⟩, decode_congr, fun {v w x isNew f} h hf takes given => ?_,
    fun readsBack h => field?_of_decode h fun _ => kind_dated.readsBack readsBack⟩
  have declared : ∀ isNew, ∀ f ∈ schema.bindable isNew, (Entries.get? f.name layout).isSome ∧
      (f.name = "department" → f.isReference) ∧ f.name ≠ "createdAt" := by decide
  obtain ⟨listed, points, undated⟩ := declared isNew f hf
  obtain ⟨shows, entry⟩ := Option.isSome_iff_exists.1 listed
  rw [field?_encode, entry]
  exact ⟨_, rfl, shows_read h (Entries.mem_of_get? entry) given (fun own => takes (points own))
    fun own => absurd own undated⟩

end User

namespace Entries

variable {β : Type} {p : String → Bool} {key : String}

end Entries

namespace Freeform

variable {I : Type} [Identifier I]

/-- The entries have no identifier and no version among them. -/
def Bare (entries : List (String × Value)) : Prop := rest entries = entries

theorem bare_iff {entries : List (String × Value)} :
    Bare entries ↔ ∀ e ∈ entries, e.1 ≠ "id" ∧ e.1 ≠ "version" := by
  simp [Bare, rest]

theorem Bare.put {entries : List (String × Value)} (bare : Bare entries) {key : String}
    (id : key ≠ "id") (version : key ≠ "version") (v : Value) : Bare (Entries.put key v entries) := by
  rw [bare_iff] at bare ⊢
  intro e he
  rcases Entries.mem_put he with rfl | he
  · exact ⟨id, version⟩
  · exact bare e he

end Freeform

namespace Kind

/-- Where its schema fits the kind, binding gives each bindable field that the request names the converted
first value under its name, as the field holds it, leaves all else of a record as it is, and does no more
when it is done again. -/
def BindsOver {I E : Type} [Identifier I] (k : Kind I E) (holds : Field → Value → Value → Prop) : Prop :=
  k.check = .ok () → ∀ (params : Params) (e bound : E), k.decode (k.encode e) = .ok e →
    k.bind params e = .ok bound → k.LaidOver holds params e bound

theorem Receptive.bindsOver {I E : Type} [Identifier I] [LawfulIdentifier I] {k : Kind I E}
    {holds : Field → Value → Value → Prop} (receptive : k.Receptive holds) (law : k.Lawful) :
    k.BindsOver holds := fun fit _ _ _ readsBack h =>
  receptive.laidOver law (distinct_of_check fit).2 readsBack h

end Kind

namespace Freeform

end Freeform

namespace Department

def openKind : Kind String Department :=
  { kind with
    schema := Schema.root.extend {
      entityType := "department"
      label := "Department"
      fields := [.text "code" "Code", .date "createdAt" "Created at" (some .dateTime)] } }

theorem openKind_lawful : openKind.Lawful := { kind_lawful with }

theorem ofFields?_of_same_time {fields others : Fields} {version : Int}
    (same : ∀ name, name ≠ "createdAt" → others name = fields name)
    (time : others.optional? Value.instant? "createdAt" =
      fields.optional? Value.instant? "createdAt") :
    ofFields? others version = ofFields? fields version := by
  rw [ofFields?, ofFields?, Fields.optional?_congr (same "id" (by decide)),
    Fields.text?_congr (same "code" (by decide)), Fields.text?_congr (same "name" (by decide)),
    Fields.optional?_congr (same "parent" (by decide)),
    Fields.optional?_congr (same "description" (by decide)),
    Fields.optional?_congr (same "createdBy" (by decide)), time]

theorem decode_of_same_time {a b : List (String × Value)}
    (same : ∀ name, name ≠ "createdAt" → Entries.get? name a = Entries.get? name b)
    (time : Fields.optional? Value.instant? (fun name => Entries.get? name a) "createdAt" =
      Fields.optional? Value.instant? (fun name => Entries.get? name b) "createdAt") :
    openKind.decode (.object a) = openKind.decode (.object b) := by
  have version : Fields.int32 (fun name => Entries.get? name a) "version" =
      Fields.int32 (fun name => Entries.get? name b) "version" :=
    Fields.int32_congr (same "version" (by decide))
  show ofValue (.object a) = ofValue (.object b)
  simp only [ofValue, Value.fields?, version, ofFields?_of_same_time same time]

theorem openKind_faithful : openKind.Faithful openKind.ReadsAlike := by
  refine ⟨fun _ => ⟨_, rfl⟩, decode_congr,
    fun {v w x isNew f} (h : kind.decode v = .ok x) hf _ given => ?_,
    fun readsBack h => field?_of_decode h fun _ => kind_dated.readsBack (v := openKind.encode _) readsBack⟩
  have declared : ∀ isNew, ∀ f ∈ openKind.schema.bindable isNew,
      (Entries.get? f.name layout).isSome ∧ f.name ≠ "parent" := by decide
  obtain ⟨listed, single⟩ := declared isNew f hf
  by_cases dated : f.name = "createdAt"
  · obtain ⟨fields, hfields, read⟩ := readFrom_of_decode h
    have shown : fields "createdAt" = some w := Value.fields?_of_field? (dated ▸ given) hfields
    refine ⟨Instant.shown x.createdAt, dated ▸ kind_dated.field x, fun entries => ?_⟩
    rw [dated]
    refine decode_of_same_time (fun name other => ?_) ?_
    · rw [Entries.get?_put_of_ne other, Entries.get?_put_of_ne other]
    · have again : ∀ t, x.createdAt = some t → t.ReadsBack := fun t ht =>
        Fields.readsBack_of_instant (ht ▸ read.createdAt)
      rw [Fields.instant_of_option (Entries.get?_put_self ..) again, ← read.createdAt]
      exact Fields.optional?_congr (shown.trans (Entries.get?_put_self ..).symm) _
  · obtain ⟨shows, entry⟩ := Option.isSome_iff_exists.1 listed
    refine ⟨w, ?_, fun _ => rfl⟩
    show (kind.encode x).field? f.name = some w
    rw [field?_encode, entry]
    exact congrArg some (shows_read h (Entries.mem_of_get? entry) given
      (fun own => absurd own single) fun own => absurd own dated)

/-- A time with an offset is shown as the same one in UTC, and not as the text that is given. -/
theorem offset_shown_in_utc :
    openKind.check = .ok () ∧
    ∃ e bound : Department,
      openKind.decode (openKind.encode e) = .ok e ∧
      openKind.bind ⟨.mutation, [("createdAt", "2024-05-01T02:00:00+02:00")]⟩ e = .ok bound ∧
      (openKind.encode bound).field? "createdAt" = some (.text "2024-05-01T00:00:00Z") ∧
      openKind.LaidOver openKind.ReadsAlike
        ⟨.mutation, [("createdAt", "2024-05-01T02:00:00+02:00")]⟩ e bound ∧
      ¬openKind.LaidOver Field.ShowsAsRead
        ⟨.mutation, [("createdAt", "2024-05-01T02:00:00+02:00")]⟩ e bound := by
  have fit : openKind.check = .ok () := by decide
  have laid : openKind.bind ⟨.mutation, [("createdAt", "2024-05-01T02:00:00+02:00")]⟩ {} =
      .ok { createdAt := some ⟨1714521600, 0⟩ } := by decide +kernel
  have utc : (⟨1714521600, 0⟩ : Instant).text = "2024-05-01T00:00:00Z" := by decide +kernel
  have shown : (openKind.encode { createdAt := some ⟨1714521600, 0⟩ }).field? "createdAt" =
      some (.text "2024-05-01T00:00:00Z") := by
    rw [← utc]
    exact kind_dated.field _
  refine ⟨fit, {}, _, rfl, laid, shown,
    openKind_faithful.receptive.bindsOver openKind_lawful fit _ _ _ rfl laid, fun literal => ?_⟩
  obtain ⟨v, _, given, held, rfl⟩ := literal.given
    (.date "createdAt" "Created at" (some .dateTime)) (by decide) _ rfl
  cases given
  have other : Text.trim "2024-05-01T02:00:00+02:00" = "2024-05-01T00:00:00Z" :=
    Value.text.inj (Option.some.inj (held.symm.trans shown))
  exact absurd other (by decide +kernel)

end Department
end Registrar
