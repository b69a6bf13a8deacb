import Registrar.Proofs.Desk.Viewing
import Registrar.Proofs.Store.Trail
import Registrar.Proofs.Web.Batches
import Registrar.Proofs.Web.Disclosure
import Registrar.Proofs.Web.Legible
import Registrar.Proofs.Web.Taken

/-!
Views of single records at the service. Main statement: a view of a record that the caller may access shows
it as it was last saved, with the request's values laid over it, so exactly as it was saved just if each
field that the request names has the value already.
-/

namespace Registrar

open Json

section Desks

variable {I E : Type} [Identifier I] [LawfulIdentifier I] {d : Desk I E} {params : Params}
variable {caller : Caller} {s : Store} {P : E → Prop} {id : I} {row : SavedRow}

theorem Desk.view_of_row (law : d.kind.Lawful) (reads : d.kind.Reads) (legible : d.kind.Legible P)
    (kept : s.WellKept) (shows : s.Shows d.kind P) (named : requestId params = .ok (some id))
    (there : s.row? d.kind.entityType (Identifier.text id) = some row)
    (opens : d.Opens caller row) :
    ∃ e, row.content = d.kind.encode e ∧ d.kind.decode (d.kind.encode e) = .ok e ∧
      d.kind.isNew e = false ∧ d.view params caller s = d.kind.bind params e := by
  obtain ⟨e, shown, he, hid, _, isSet⟩ := kept.of_row? law shows there
  obtain ⟨x, decoded, permitted⟩ := opens
  rw [shown] at decoded
  obtain rfl := Kind.eq_of_decode law reads legible he decoded
  refine ⟨x, shown, decoded, Store.isNew_of_id hid isSet, view_of_found named ?_ permitted⟩
  simp only [Store.find?, there, shown, Store.read_eq_ok_iff.2 decoded, Except.map]

end Desks

namespace Web

variable {limits : PageLimits} {params : Params} {caller : Caller} {r : Registry}

/-- Each record and its trail are what one change after another makes of them. -/
theorem Reached.life (h : Reached limits r) (entityType key : String) :
    Life (r.store.row? entityType key) (r.store.revisionsOf entityType key) :=
  h.of_writes (P := fun s => Life (s.row? entityType key) (s.revisionsOf entityType key))
    .unknown fun w s life => Store.life_change life (Store.change_apply w s)

def Section.schema : Section → Schema
  | .department => Department.schema
  | .role => Role.schema
  | .user => User.schema

def Section.view (limits : PageLimits) (params : Params) (caller : Caller) (s : Store) :
    Section → Except Error Value
  | .department => ((departments limits).view params caller s).map Department.kind.encode
  | .role => ((roles limits).view params caller s).map Role.kind.encode
  | .user => ((users limits).view params caller s).map User.kind.encode

def Section.Opens (limits : PageLimits) (caller : Caller) (row : SavedRow) : Section → Prop
  | .department => (departments limits).Opens caller row
  | .role => (roles limits).Opens caller row
  | .user => (users limits).Opens caller row

/-- The answer shows the content with the request's values laid over it, or it refuses a value or what
the values make of the record. -/
structure Lays (s : Schema) (params : Params) (content : Value) (answer : Except Error Value) :
    Prop where
  given {shown : Value} : answer = .ok shown → ∀ f ∈ s.bindable false, ∀ raw,
    params.get? f.parameter = some raw →
    ∃ v, f.requested params = .ok (some v) ∧ shown.field? f.name = some v
  kept {shown : Value} : answer = .ok shown → ∀ name,
    (∀ f ∈ s.bindable false, f.name = name → params.get? f.parameter = none) →
    shown.field? name = content.field? name
  refused {fault : Error} : answer = .error fault → ∃ f ∈ s.bindable false,
    (params.get? f.parameter).isSome ∧
    (f.requested params = .error fault ∨ ∃ u, fault = .unreadable s.label u)
  unchanged : answer = .ok content ↔ ∀ f ∈ s.bindable false, ∀ raw,
    params.get? f.parameter = some raw →
    ∃ v, f.requested params = .ok (some v) ∧ content.field? f.name = some v

theorem lays_view {I E : Type} [Identifier I] [LawfulIdentifier I] {d : Desk I E} {P : E → Prop}
    {id : I} {row : SavedRow} (law : d.kind.Lawful) (faithful : d.kind.Faithful Field.ShowsAsRead)
    (reads : d.kind.Reads) (legible : d.kind.Legible P)
    (distinct : (d.kind.schema.bindable false).Pairwise fun f g => f.name ≠ g.name)
    (kept : r.store.WellKept) (shows : r.store.Shows d.kind P)
    (named : Desk.requestId params = .ok (some id))
    (there : r.store.row? d.kind.entityType (Identifier.text id) = some row)
    (opens : d.Opens caller row) :
    Lays d.kind.schema params row.content
      ((d.view params caller r.store).map d.kind.encode) := by
  obtain ⟨e, shown, readsBack, known, viewed⟩ :=
    Desk.view_of_row law reads legible kept shows named there opens
  obtain ⟨entries, hentries⟩ := faithful.object e
  rw [viewed, shown]
  rw [← known] at distinct
  refine ⟨fun answer => ?_, fun answer => ?_, fun answer => ?_, fun answer => ?_, fun has => ?_⟩
  · obtain ⟨bound, h, rfl⟩ := of_map_eq_ok answer
    intro f hf raw asked
    rw [← known] at hf
    obtain ⟨_, _, given, held, rfl⟩ := faithful.receptive.field_of_named distinct h hf asked
    exact ⟨_, given, held⟩
  · obtain ⟨bound, h, rfl⟩ := of_map_eq_ok answer
    rw [← known]
    exact fun name unnamed => faithful.receptive.field_of_unnamed readsBack h unnamed
  · rw [← known]
    exact Kind.bind_error_cases hentries (of_map_eq_error answer)
  · obtain ⟨bound, h, same⟩ := of_map_eq_ok answer
    intro f hf raw asked
    rw [← known] at hf
    obtain ⟨_, _, given, held, rfl⟩ := faithful.receptive.field_of_named distinct h hf asked
    exact ⟨_, given, same ▸ held⟩
  · rw [← known] at has
    rw [Kind.bind_of_hasRequested faithful.congr distinct hentries readsBack has]
    rfl

/-- A view of a record that the caller may access shows it as it was last saved, with the values laid over
it that the request gives to its fields; it is refused only for such a value, and it shows the record exactly
as it was saved just if each field that the request names has the value already. -/
theorem view_lays_over {place : Section} {key : String} {row : SavedRow}
    (reached : ReachedInTime limits r) (named : place.Names params key)
    (there : r.store.row? place.name key = some row) (opens : place.Opens limits caller row) :
    (∃ last, (r.store.revisionsOf place.name key).getLast? = some last ∧
      row.content = last.content) ∧
    Lays place.schema params row.content (place.view limits params caller r.store) := by
  have kept := reached.reached.kept.wellKept
  refine ⟨?_, ?_⟩
  · have life := reached.reached.life place.name key
    rw [there] at life
    obtain ⟨last, newest, _, _, shown, _⟩ := life.last_of_some
    exact ⟨last, newest, shown⟩
  · cases place with
    | department =>
      obtain ⟨id, named, rfl⟩ := named
      have distinct : (Department.schema.bindable false).Pairwise fun f g => f.name ≠ g.name := by
        decide
      exact lays_view (d := departments limits) Department.kind_lawful Department.kind_faithful
        Department.kind_reads Department.legible distinct kept reached.legible.departments named there
        opens
    | role =>
      obtain ⟨id, named, rfl⟩ := named
      have distinct : (Role.schema.bindable false).Pairwise fun f g => f.name ≠ g.name := by decide
      exact lays_view (d := roles limits) Role.kind_lawful Role.kind_faithful Role.kind_reads
        Role.legible distinct kept reached.legible.roles named there opens
    | user =>
      obtain ⟨id, named, rfl⟩ := named
      have distinct : (User.schema.bindable false).Pairwise fun f g => f.name ≠ g.name := by decide
      exact lays_view (d := users limits) User.kind_lawful User.kind_faithful User.kind_reads
        User.legible distinct kept reached.legible.users named there opens

def administrator : User :=
  { id := some 8, signinid := "admin", nick := "Administrator"
    email := some "admin@example.com", code := some "D10", level := 9, department := some ⟨"D10"⟩
    enabled := true, createdBy := some "system", createdAt := some ⟨0, 0⟩ }

theorem row?_administrator : organisation.store.row? User.kind.entityType "8" =
    some (User.kind.row "8" administrator) := by rfl

theorem opens_administrator : (users {}).Opens deputy (User.kind.row "8" administrator) :=
  ⟨administrator, by rfl, by decide +kernel⟩

def calling (nick : String) : Params :=
  ⟨.read, [("id", " 8 "), ("nick", nick), ("password", "x"), ("limit", "1")]⟩

def nickField : Field :=
  { Field.text "nick" "Nickname" with column := some { length := 64 }, comparable := true }

/-- The deputy sees the administrator as saved if the nickname is the administrator's. -/
theorem administrator_viewed_unchanged :
    ReachedInTime {} organisation ∧ Section.user.Names (calling "Administrator") "8" ∧
    organisation.store.row? "user" "8" = some (User.kind.row "8" administrator) ∧
    Section.user.Opens {} deputy (User.kind.row "8" administrator) ∧
    Section.user.view {} (calling "Administrator") deputy organisation.store =
      .ok (User.kind.encode administrator) := by
  have named : Section.user.Names (calling "Administrator") "8" := ⟨8, by decide +kernel, by decide⟩
  refine ⟨organisation_in_time, named, row?_administrator, opens_administrator,
    (view_lays_over organisation_in_time named row?_administrator opens_administrator).2.unchanged.2
      fun f hf raw asked => ?_⟩
  have only : ∀ f ∈ User.schema.bindable false,
      ((calling "Administrator").get? f.parameter).isSome → f = nickField := by decide +kernel
  obtain rfl := only f hf (by rw [asked]; rfl)
  exact ⟨.text "Administrator", by rfl, rfl⟩

/-- The deputy sees the administrator as "X" although no save has given that nickname. -/
theorem administrator_viewed_as_other :
    ReachedInTime {} organisation ∧ Section.user.Names (calling "X") "8" ∧
    organisation.store.row? "user" "8" = some (User.kind.row "8" administrator) ∧
    Section.user.Opens {} deputy (User.kind.row "8" administrator) ∧
    Section.user.view {} (calling "X") deputy organisation.store =
      .ok (User.kind.encode { administrator with nick := "X" }) ∧
    Section.user.view {} (calling "X") deputy organisation.store ≠
      .ok (User.kind.encode administrator) := by
  have viewed : Section.user.view {} (calling "X") deputy organisation.store =
      .ok (User.kind.encode { administrator with nick := "X" }) := by rfl
  refine ⟨organisation_in_time, ⟨8, by decide +kernel, by decide⟩, row?_administrator,
    opens_administrator, viewed, fun unchanged => ?_⟩
  have same := Except.ok.inj (viewed.symm.trans unchanged)
  have nicks : some (Value.text "X") = some (Value.text "Administrator") :=
    congrArg (fun v => v.field? "nick") same
  exact absurd (Value.text.inj (Option.some.inj nicks)) (by decide)

end Web
end Registrar
