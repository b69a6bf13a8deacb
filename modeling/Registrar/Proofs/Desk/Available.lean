import Registrar.Desk.Listing
import Registrar.Proofs.Desk.Orderly
import Registrar.Proofs.Desk.Taken
import Registrar.Proofs.Desk.Twins

/-!
The check whether a text is free, which forms make, beside the guard of unique columns, which changes pass.
The first trims the text, the second takes it as it is. Main statements: each of the two answers by whose
text clashes with the text in question, and trimming changes nothing in that if the text has no blanks at
its ends, is blank or is a number.
-/

namespace Registrar

open Json Row

namespace Row

theorem number?_trim (s : String) : number? (.text (Text.trim s)) = number? (.text s) := by
  rw [number?, number?, Text.toList_trim, Text.trimmed_trimmed]

theorem clashes_of_plain {held text : String} (plain : number? (.text text) = none) :
    Clashes held text ↔ held = text := by
  constructor
  · intro clash
    refine (same_of_compare? clash).resolve_right ?_
    rintro ⟨n, -, ofText⟩
    rw [amount?, plain] at ofText
    cases ofText
  · rintro rfl
    rw [Clashes, compare?_self_iff, Value.IsNan, plain]
    exact (Option.some_ne_none _).symm

theorem clashes_trim_of_number {held text : String} (number : number? (.text text) ≠ none) :
    Clashes held (Text.trim text) ↔ Clashes held text := by
  obtain ⟨x, hx⟩ := Option.ne_none_iff_exists'.1 number
  have trimmed := (number?_trim text).trans hx
  unfold Clashes
  cases hy : number? (.text held) with
  | some y => simp only [compare?, hx, hy, trimmed]
  | none =>
    -- The text forms are compared, but a text that is no number is none of the two.
    have apart {s : String} (hs : number? (.text s) = some x) :
        compare? (.text held) (.text s) ≠ some .eq := by
      intro same
      rw [compare?, hy] at same
      have equal : held = s := Std.LawfulEqCmp.compare_eq_iff_eq.1 (Option.some_inj.1 same)
      rw [equal, hs] at hy
      cases hy
    exact ⟨fun same => absurd same (apart trimmed), fun same => absurd same (apart hx)⟩

theorem not_clashes_of_blank {held text : String} (filled : Text.allBlank held = false)
    (blank : Text.allBlank text) : ¬Clashes held text := by
  have plain : number? (.text text) = none := Classical.byContradiction fun number => by
    rw [not_blank_of_number? number] at blank
    cases blank
  rw [clashes_of_plain plain]
  rintro rfl
  rw [filled] at blank
  cases blank

def SameTrimmed (text : String) : Prop :=
  Text.trim text = text ∨ Text.allBlank text ∨ number? (.text text) ≠ none

theorem SameTrimmed.clashes_iff {held text : String} (h : SameTrimmed text)
    (filled : Text.allBlank held = false) :
    Clashes held (Text.trim text) ↔ Clashes held text := by
  rcases h with whole | blank | number
  · rw [whole]
  · rw [Text.trim_eq_empty_of_allBlank blank]
    exact ⟨fun clash => absurd clash (not_clashes_of_blank filled rfl),
      fun clash => absurd clash (not_clashes_of_blank filled blank)⟩
  · exact clashes_trim_of_number number

end Row

namespace RuleSet

theorem filled_of_required {rules : RuleSet} {s : Schema} {record : Value} {name : String}
    (required : rules.any fun rule => rule.1 == name && rule.2.required)
    (checked : isForClients name = false) (valid : rules.violations s record = []) :
    Text.allBlank (valueText record name) = false := by
  obtain ⟨⟨own, c⟩, hrule, named⟩ := List.any_eq_true.1 required
  simp only [Bool.and_eq_true, beq_iff_eq] at named
  obtain ⟨rfl, needed⟩ := named
  have passed := List.flatMap_eq_nil_iff.1 valid (own, c) hrule
  dsimp only at passed
  rw [checked, if_neg Bool.false_ne_true, Constraints.check] at passed
  refine Bool.eq_false_iff.2 fun blank => ?_
  rw [if_pos blank, if_pos needed] at passed
  cases passed

end RuleSet

/-- Each row of the type has a text in the column that is not blank. -/
def Store.FilledAt (entityType column : String) (s : Store) : Prop :=
  ∀ row ∈ s.rows, row.entityType = entityType →
    ∃ held, extract row.content column = some (.text held) ∧ Text.allBlank held = false

theorem Store.Shows.filledAt {I E : Type} {k : Kind I E} {s : Store} {column : String}
    (value : E → String) (passes : s.Shows k k.Passes)
    (required : (RuleSet.ofSchema k.schema).any fun rule => rule.1 == column && rule.2.required)
    (checked : RuleSet.isForClients column = false)
    (shows : ∀ e, extract (k.encode e) column = some (.text (value e)))
    (own : ∀ e, RuleSet.valueText (k.encode e) column = value e) :
    s.FilledAt k.entityType column := fun row hrow type => by
  obtain ⟨e, shown, valid⟩ := passes row hrow type
  refine ⟨value e, shown ▸ shows e, ?_⟩
  rw [← own e]
  exact RuleSet.filled_of_required required checked valid

theorem Store.query_all_iff {I E : Type} {k : Kind I E} {s : Store} {f : Filter} {P : E → Prop} :
    (∃ found, s.query k f [] = .ok found ∧ ∀ e ∈ found, P e) ↔
      ∀ row ∈ s.rows, row.entityType = k.entityType → f.accepts row.content →
        ∃ e, k.decode row.content = .ok e ∧ P e := by
  constructor
  · rintro ⟨found, query, all⟩ row hrow type accepted
    obtain ⟨e, he, decoded⟩ := mem_query query hrow type accepted
    exact ⟨e, decoded, all e he⟩
  · intro all
    have of_content {v : Value} (there : v ∈ s.contents k.entityType) (accepted : f.accepts v) :
        ∃ e, k.decode v = .ok e ∧ P e := by
      obtain ⟨row, hrow, rfl⟩ := List.mem_map.1 there
      obtain ⟨hrow, type⟩ := List.mem_filter.1 hrow
      exact all row hrow (eq_of_beq type) accepted
    have readable : s.CanRead k f := fun v there accepted => by
      obtain ⟨e, decoded, _⟩ := of_content there accepted
      exact ⟨e, decoded⟩
    obtain ⟨found, query⟩ := readable.query (Sorting.rows_nil _)
    refine ⟨found, query, fun e he => ?_⟩
    obtain ⟨v, listed, read⟩ := mem_of_mem_mapM (query_unsorted s k f ▸ query) he
    obtain ⟨there, accepted⟩ := List.mem_filter.1 listed
    obtain ⟨x, decoded, hx⟩ := of_content there accepted
    cases (read_eq_ok_iff.1 read).symm.trans decoded
    exact hx

/-- The parameters ask whether the text is free in the column. -/
structure Params.AsksFor (params : Params) (column text : String) : Prop where
  element : params.getFilled? "element" = some column
  alone : params.getFilled? "additional" = none ∧ params.getFilled? "additional2" = none
  given : params.get? column = some text

theorem Params.AsksFor.accepts_iff {params : Params} {column text held : String} {row : Value}
    (asks : params.AsksFor column text) (there : extract row column = some (.text held))
    (filled : Text.allBlank held = false) :
    ({ client := [matching params column] } : Filter).accepts row ↔
      Clashes held (Text.trim text) := by
  rw [matching, getFilled?, asks.given]
  dsimp only
  by_cases blank : Text.trim text = ""
  · rw [if_pos blank, blank]
    have missed : ({ client := [.missing column] } : Filter).accepts row = false := by
      simp [Filter.accepts, Predicate.holds, Predicate.missing, Predicate.holdsFor, there]
    rw [missed]
    exact ⟨fun seen => absurd seen Bool.false_ne_true,
      fun clash => absurd clash (not_clashes_of_blank filled rfl)⟩
  · rw [if_neg blank, Filter.accepts_equal_iff, there]
    constructor
    · rintro ⟨_, ⟨⟩, clash⟩
      exact clash
    · intro clash
      exact ⟨_, rfl, clash⟩

namespace Desk

variable {I E : Type} [Identifier I] [DecidableEq I] {d : Desk I E} {params : Params}
variable {column text : String} {creating : Bool} {e : E} {s : Store} {value : E → String}

/-- The columns that are declared unique let the record pass. -/
def Clears (d : Desk I E) (creating : Bool) (e : E) (s : Store) : Prop :=
  (d.kind.schema.declared.filter Field.isUnique).forM (d.clash creating e s) = .ok ()

/-- A record with the text in the column: a new one for a request that names none, else the one that the
request names. -/
inductive Drafts (d : Desk I E) (column text : String) (params : Params) : Bool → E → Prop
  | new {e : E} (shows : extract (d.kind.encode e) column = some (.text text))
      (named : requestId (I := I) params = .ok none) : Drafts d column text params true e
  | known {e : E} {id : I} (shows : extract (d.kind.encode e) column = some (.text text))
      (own : d.kind.id e = some id) (named : requestId params = .ok (some id)) :
      Drafts d column text params false e

/-- What forms are told of the text is what the unique columns make of each record with it. -/
def Agrees (d : Desk I E) (column text : String) (params : Params) (s : Store) : Prop :=
  ∀ creating e, d.Drafts column text params creating e →
    (d.checkUnique params s = .ok true ↔ d.Clears creating e s)

/-- Each row with a text that clashes can be read and is the one that the request names. -/
def Free (d : Desk I E) (column : String) (params : Params) (s : Store) (text : String) : Prop :=
  ∀ row ∈ s.rows, row.entityType = d.kind.entityType →
    ∀ held, extract row.content column = some (.text held) → Clashes held text →
    ∃ e id, d.kind.decode row.content = .ok e ∧ d.kind.id e = some id ∧
      requestId params = .ok (some id)

omit [DecidableEq I] in
theorem Free.congr {other : String} (filled : s.FilledAt d.kind.entityType column)
    (same : ∀ held, Text.allBlank held = false → (Clashes held text ↔ Clashes held other)) :
    d.Free column params s text ↔ d.Free column params s other := by
  have clashes {row : SavedRow} (hrow : row ∈ s.rows) (type : row.entityType = d.kind.entityType)
      {held : String} (there : extract row.content column = some (.text held)) :
      Clashes held text ↔ Clashes held other := by
    obtain ⟨own, shown, full⟩ := filled row hrow type
    cases there.symm.trans shown
    exact same held full
  exact ⟨fun free row hrow type held there clash =>
      free row hrow type held there ((clashes hrow type there).2 clash),
    fun free row hrow type held there clash =>
      free row hrow type held there ((clashes hrow type there).1 clash)⟩

theorem checkUnique_eq_true_iff (asks : params.AsksFor column text) {own : Option I}
    (named : requestId params = .ok own) (filled : s.FilledAt d.kind.entityType column) :
    d.checkUnique params s = .ok true ↔ d.Free column params s (Text.trim text) := by
  have answer : d.checkUnique params s = .ok true ↔
      ∃ found, s.query d.kind { client := [matching params column] } [] = .ok found ∧
        ∀ e ∈ found, ∃ id, d.kind.id e = some id ∧ own = some id := by
    simp only [checkUnique, named, asks.element, asks.alone.1, asks.alone.2, List.filterMap_cons,
      List.filterMap_nil, List.map_cons, List.map_nil]
    cases s.query d.kind { client := [matching params column] } [] with
    | error fault => simp
    | ok found =>
      cases own with
      | none => simp
      | some id => simp
  rw [answer, Store.query_all_iff]
  refine forall₃_congr fun row hrow type => ?_
  obtain ⟨held, there, full⟩ := filled row hrow type
  rw [asks.accepts_iff there full]
  constructor
  · intro all other own' clash
    cases own'.symm.trans there
    obtain ⟨e, decoded, id, hid, rfl⟩ := all clash
    exact ⟨e, id, decoded, hid, named⟩
  · intro free clash
    obtain ⟨e, id, decoded, hid, named'⟩ := free held there clash
    cases named.symm.trans named'
    exact ⟨e, decoded, id, hid, rfl⟩

omit [Identifier I] in
theorem clash_eq_ok_iff {f : Field} (shows : extract (d.kind.encode e) f.name = some (.text text)) :
    d.clash creating e s f = .ok () ↔ ∀ row ∈ s.rows, row.entityType = d.kind.entityType →
      ∀ held, extract row.content f.name = some held → compare? held (.text text) = some .eq →
      ∃ other, d.kind.decode row.content = .ok other ∧ creating = false ∧
        d.kind.id other = d.kind.id e := by
  have answer : d.clash creating e s f = .ok () ↔
      ∃ found, s.query d.kind { client := [.equal f.name (.text text)] } [] = .ok found ∧
        ∀ other ∈ found, creating = false ∧ d.kind.id other = d.kind.id e := by
    simp only [clash, shows]
    cases s.query d.kind { client := [.equal f.name (.text text)] } [] with
    | error fault => simp
    | ok found => cases creating <;> simp
  rw [answer, Store.query_all_iff]
  refine forall₃_congr fun row hrow type => ?_
  rw [Filter.accepts_equal_iff]
  constructor
  · intro all held there clash
    exact all ⟨held, there, clash⟩
  · rintro all ⟨held, there, clash⟩
    exact all held there clash

/-- The unique columns let a record with a text pass just if the text is free as it is. -/
theorem clears_iff (texts : d.Column column value) (unique : ∃ f ∈ d.kind.schema.declared, f.isUnique)
    (draft : d.Drafts column text params creating e)
    (filled : s.FilledAt d.kind.entityType column) :
    d.Clears creating e s ↔ d.Free column params s text := by
  have shows : extract (d.kind.encode e) column = some (.text text) := by cases draft <;> assumption
  have passes {f : Field} (declared : f ∈ d.kind.schema.declared) (guards : f.isUnique) :
      d.clash creating e s f = .ok () ↔ d.Free column params s text := by
    obtain rfl := texts.alone f declared guards
    rw [clash_eq_ok_iff shows]
    refine forall₃_congr fun row hrow type => ⟨fun all held there clash => ?_,
      fun free shown there clash => ?_⟩
    · obtain ⟨other, decoded, known, same⟩ := all _ there clash
      cases draft with
      | new _ _ => cases known
      | known _ own named => exact ⟨other, _, decoded, same.trans own, named⟩
    · obtain ⟨held, own, _⟩ := filled row hrow type
      cases own.symm.trans there
      obtain ⟨other, id, decoded, hid, named⟩ := free held there clash
      cases draft with
      | new _ unnamed => cases unnamed.symm.trans named
      | known _ own named' =>
        cases named.symm.trans named'
        exact ⟨other, decoded, rfl, hid.trans own.symm⟩
  rw [Clears, forM_eq_ok_iff]
  constructor
  · intro all
    obtain ⟨f, declared, guards⟩ := unique
    exact (passes declared guards).1 (all f (List.mem_filter.2 ⟨declared, guards⟩))
  · intro free f hf
    obtain ⟨declared, guards⟩ := List.mem_filter.1 hf
    exact (passes declared guards).2 free

/-- The two checks agree on a text just if trimming leaves it as free as it is. -/
theorem agrees_iff (asks : params.AsksFor column text) {own : Option I}
    (named : requestId params = .ok own) (filled : s.FilledAt d.kind.entityType column)
    (texts : d.Column column value) (unique : ∃ f ∈ d.kind.schema.declared, f.isUnique)
    (drafted : ∃ e, value e = text ∧ d.kind.id e = own) :
    (d.Agrees column text params s ↔
      (d.Free column params s (Text.trim text) ↔ d.Free column params s text)) ∧
    (SameTrimmed text → d.Agrees column text params s) := by
  have asked := checkUnique_eq_true_iff (d := d) asks named filled
  have whether : d.Agrees column text params s ↔
      (d.Free column params s (Text.trim text) ↔ d.Free column params s text) := by
    constructor
    · intro agrees
      obtain ⟨e, rfl, rfl⟩ := drafted
      have draft : ∃ creating, d.Drafts column (value e) params creating e := by
        cases hid : d.kind.id e with
        | none => exact ⟨true, .new (texts.shows e) (named.trans (congrArg _ hid))⟩
        | some id => exact ⟨false, .known (texts.shows e) hid (named.trans (congrArg _ hid))⟩
      obtain ⟨creating, draft⟩ := draft
      exact asked.symm.trans ((agrees _ _ draft).trans (clears_iff texts unique draft filled))
    · intro same creating e draft
      exact asked.trans (same.trans (clears_iff texts unique draft filled).symm)
  exact ⟨whether, fun same => whether.2 (Free.congr filled fun _ full => same.clashes_iff full)⟩

end Desk
end Registrar
