import Registrar.Proofs.Desk.Journal
import Registrar.Proofs.Row.Order

/-!
What it means that a value is taken. Nothing but the guard of unique columns says so, and the guard has
found a row that agrees with the record. Main statement: a request is refused as one for a taken text only
where the column of another row has this text, or the text of the same number.
-/

namespace Registrar

open Json Row

/-- The answer is no refusal of a taken value. -/
def Untaken {α : Type} (answer : Except Error α) : Prop :=
  ∀ label text, answer ≠ .error (.taken label text)

section Answers

variable {I E : Type} {k : Kind I E} {s : Store}

theorem untaken_ok {α : Type} (x : α) : Untaken (.ok x) := fun _ _ => nofun

theorem Untaken.of_error {α β : Type} {answer : Except Error α} (h : Untaken answer) {fault : Error}
    (refused : answer = .error fault) : Untaken (.error fault : Except Error β) := by
  rintro label text ⟨⟩
  exact h label text refused

theorem Untaken.map {α β : Type} {answer : Except Error α} (h : Untaken answer) (f : α → β) :
    Untaken (answer.map f) := by
  cases answer with
  | ok x => exact untaken_ok (f x)
  | error fault => exact h.of_error rfl

theorem untaken_mapM {α β : Type} {read : α → Except Error β} {l : List α}
    (h : ∀ x ∈ l, Untaken (read x)) : Untaken (l.mapM read) := by
  intro label text refused
  obtain ⟨x, hx, fault⟩ := exists_error_of_mapM refused
  exact h x hx label text fault

theorem untaken_resolve [Identifier I] (parses : ∀ raw, Untaken (Identifier.parse raw : Except Error I))
    (raw : Option String) : Untaken (Identifier.resolve raw : Except Error (Option I)) := by
  unfold Identifier.resolve
  split
  · exact untaken_ok _
  · next raw =>
    dsimp only
    split
    · exact untaken_ok _
    · exact untaken_ok _
    · split
      · next refused => exact (parses _).of_error refused
      · exact untaken_ok _

theorem untaken_read (content : Value) : Untaken (Store.read k content) := by
  unfold Store.read
  split
  · exact untaken_ok _
  · exact fun _ _ => nofun

theorem untaken_query (f : Filter) (sort : List SortKey) : Untaken (s.query k f sort) := by
  unfold Store.query
  split
  · exact fun _ _ => nofun
  · exact untaken_mapM fun content _ => untaken_read content

theorem untaken_get [Identifier I] (id : I) : Untaken (s.get k id) := by
  have found : Untaken (s.find? k id) := by
    unfold Store.find?
    split
    · exact (untaken_read _).map some
    · exact untaken_ok _
  unfold Store.get
  split
  · exact untaken_ok _
  · exact fun _ _ => nofun
  · next refused => exact found.of_error refused

theorem untaken_requested (f : Field) (params : Params) : Untaken (f.requested params) := by
  have converted (type : ValueType) (raw : String) : Untaken (f.convert type raw) := by
    have read (text : String) : Untaken (Field.convert.read f type raw text) := by
      unfold Field.convert.read
      split
      · exact untaken_ok _
      · exact fun _ _ => nofun
    unfold Field.convert
    dsimp only
    split
    · exact untaken_ok _
    · split
      · exact untaken_ok _
      · exact read _
    · split
      · exact untaken_ok _
      · exact read _
  unfold Field.requested
  split
  · exact untaken_ok _
  · split
    · exact (converted _ _).map some
    · exact untaken_ok _
    · exact untaken_ok _

theorem untaken_requestedValues (params : Params) (fields : List Field) :
    Untaken (requestedValues params fields) := by
  induction fields with
  | nil => exact untaken_ok _
  | cons f r ih =>
    unfold requestedValues
    split
    · next refused => exact (untaken_requested f params).of_error refused
    · split
      · next refused => exact ih.of_error refused
      · exact untaken_ok _

theorem untaken_bind [Identifier I] (params : Params) (e : E) : Untaken (k.bind params e) := by
  unfold Kind.bind
  split
  · split
    · next refused => exact (untaken_requestedValues params _).of_error refused
    · exact untaken_ok _
    · split
      · exact untaken_ok _
      · exact fun _ _ => nofun
  · exact fun _ _ => nofun

theorem untaken_validate (rules : RuleSet) (schema : Schema) (record : Value) :
    Untaken (rules.validate schema record) := by
  unfold RuleSet.validate
  split
  · exact untaken_ok _
  · exact fun _ _ => nofun

theorem untaken_save [Identifier I] (supply : Supply) (author : Author) (e : E) :
    Untaken (s.save k supply author e).2 := by
  unfold Store.save
  dsimp only
  split
  · split
    · exact untaken_ok _
    · exact fun _ _ => nofun
  · split
    · exact untaken_ok _
    · exact fun _ _ => nofun

end Answers

namespace Desk

variable {I E : Type} [Identifier I] {d : Desk I E}

/-- Neither the desk's policy nor the form of identifiers says that a value is taken. -/
structure Candid (d : Desk I E) : Prop where
  parse (raw : String) : Untaken (Identifier.parse raw : Except Error I)
  permit (e : E) (caller : Caller) : Untaken (d.policy.permit e caller)
  prepare (e : E) (caller : Caller) : Untaken (d.policy.prepare e caller)

theorem Candid.working (candid : d.Candid) (params : Params) (caller : Caller) (s : Store) :
    Untaken (d.working params caller s) := by
  have named : Untaken (d.named params s) := by
    unfold Desk.named requestId
    split
    · exact (untaken_get _).map some
    · exact untaken_ok _
    · next refused => exact (untaken_resolve candid.parse _).of_error refused
  have filled (e : E) : Untaken (d.fill params caller e) := by
    unfold Desk.fill
    split
    · exact untaken_bind params e
    · next refused => exact (candid.permit e caller).of_error refused
  unfold Desk.working
  split
  · exact filled _
  · next refused => exact named.of_error refused

end Desk

/-- The two texts are of one number. -/
def SameAmount (s t : String) : Prop := ∃ n, amount? (.text s) = some n ∧ amount? (.text t) = some n

/-- The guard takes the two texts for one. -/
def Row.Clashes (held text : String) : Prop := compare? (.text held) (.text text) = some .eq

theorem clashes_of_same {held text : String} (h : SameAmount held text) : Clashes held text := by
  obtain ⟨n, ofHeld, ofText⟩ := h
  obtain ⟨x, hx, hm⟩ := Option.bind_eq_some_iff.1 ofHeld
  obtain ⟨y, hy, hn⟩ := Option.bind_eq_some_iff.1 ofText
  rw [Clashes, compare?, hx, hy]
  dsimp only
  rw [Number.Double.compare?, hm, hn]
  exact congrArg some (Int.compare_eq_eq.2 rfl)

theorem same_of_compare? {held text : String} (h : compare? (.text held) (.text text) = some .eq) :
    held = text ∨ SameAmount held text := by
  unfold compare? at h
  split at h
  · next x y hx hy =>
    right
    unfold Number.Double.compare? at h
    split at h
    · next m n hm hn =>
      have same : m = n := Int.compare_eq_eq.1 (Option.some_inj.1 h)
      refine ⟨m, ?_, ?_⟩
      · rw [amount?, hx, Option.bind_some, hm]
      · rw [amount?, hy, Option.bind_some, hn, same]
    · cases h
  · exact .inl (Std.LawfulEqCmp.compare_eq_iff_eq.1 (Option.some_inj.1 h))

theorem Filter.accepts_equal_iff {row v : Value} {column : String} :
    ({ client := [.equal column v] } : Filter).accepts row ↔
      ∃ there, extract row column = some there ∧ compare? there v = some .eq := by
  cases there : extract row column <;>
    simp [accepts, Predicate.holds, Predicate.equal, Predicate.holdsFor, Predicate.order?,
      Predicate.isEqual, there]

theorem exists_error_of_forM {α ε : Type} {check : α → Except ε Unit} {l : List α} {fault : ε}
    (h : l.forM check = .error fault) : ∃ x ∈ l, check x = .error fault := by
  induction l with
  | nil => cases h
  | cons x r ih =>
    have step : (x :: r).forM check = (check x >>= fun _ => r.forM check) := rfl
    rw [step] at h
    cases first : check x with
    | error other =>
      rw [first] at h
      exact ⟨x, List.mem_cons_self, first.trans h⟩
    | ok =>
      rw [first] at h
      obtain ⟨y, hy, refused⟩ := ih h
      exact ⟨y, List.mem_cons_of_mem _ hy, refused⟩

namespace Desk

variable {I E : Type} [DecidableEq I] {d : Desk I E} {creating : Bool} {e : E} {s : Store}
variable {label text : String}

theorem of_clash_taken {f : Field} (h : d.clash creating e s f = .error (.taken label text)) :
    ∃ value, extract (d.kind.encode e) f.name = some value ∧ Row.text value = text ∧
    ∃ row ∈ s.rows, row.entityType = d.kind.entityType ∧
      (∃ other, d.kind.decode row.content = .ok other ∧
        (creating = true ∨ d.kind.id other ≠ d.kind.id e)) ∧
      ∃ there, extract row.content f.name = some there ∧ compare? there value = some .eq := by
  unfold clash at h
  split at h
  · cases h
  · next value shown =>
    split at h
    · next refused => exact absurd h ((untaken_query _ _).of_error refused label text)
    · next others query =>
      split at h
      · next seen =>
        cases h
        obtain ⟨other, listed, differs⟩ := List.any_eq_true.1 seen
        obtain ⟨content, found, read⟩ := mem_of_mem_mapM (Store.query_unsorted s d.kind _ ▸ query) listed
        obtain ⟨there, accepted⟩ := List.mem_filter.1 found
        obtain ⟨row, hrow, rfl⟩ := List.mem_map.1 there
        obtain ⟨hrow, type⟩ := List.mem_filter.1 hrow
        refine ⟨value, shown, rfl, row, hrow, eq_of_beq type, ⟨other, Store.read_eq_ok_iff.1 read, ?_⟩,
          Filter.accepts_equal_iff.1 accepted⟩
        simpa using differs
      · cases h

/-- Each record has a text in the column, which no other unique column is beside, and the desk leaves it
as it is. -/
structure Column (d : Desk I E) (column : String) (value : E → String) : Prop where
  shows (e : E) : extract (d.kind.encode e) column = some (.text (value e))
  alone : ∀ f ∈ d.kind.schema.declared, f.isUnique → f.name = column
  prepare {e x : E} {caller : Caller} : d.policy.prepare e caller = .ok x → value x = value e
  stamp (actor : String) (now : Instant) (e : E) : value (d.kind.stamp actor now e) = value e

variable {column : String} {value : E → String}

/-- A row of another record than the one that a request names has the text, or one of the same number. -/
def Rival [Identifier I] (d : Desk I E) (column : String) (params : Params) (s : Store) (text : String) :
    Prop :=
  ∃ row ∈ s.rows, row.entityType = d.kind.entityType ∧
    (∀ id : I, requestId params = .ok (some id) → row.key ≠ Identifier.text id) ∧
    ∃ held, extract row.content column = some (.text held) ∧ (held = text ∨ SameAmount held text)

theorem of_check_taken (texts : d.Column column value) (shows : s.Shows d.kind fun _ => True)
    {rules : RuleSet} (h : d.check rules creating e s = .error (.taken label text)) :
    value e = text ∧ ∃ row ∈ s.rows, row.entityType = d.kind.entityType ∧
      (∃ other, d.kind.decode row.content = .ok other ∧
        (creating = true ∨ d.kind.id other ≠ d.kind.id e)) ∧
      ∃ held, extract row.content column = some (.text held) ∧
        (held = text ∨ SameAmount held text) := by
  unfold check at h
  split at h
  · next refused => exact absurd h ((untaken_validate _ _ _).of_error refused label text)
  · obtain ⟨f, hf, clashes⟩ := exists_error_of_forM h
    obtain ⟨declared, unique⟩ := List.mem_filter.1 hf
    obtain ⟨v, shown, rfl, row, hrow, type, other, there, held, agrees⟩ := of_clash_taken clashes
    obtain ⟨stored, content, -⟩ := shows row hrow type
    rw [texts.alone f declared unique] at shown held
    obtain rfl := Option.some_inj.1 ((texts.shows e).symm.trans shown)
    rw [content] at held
    obtain rfl := Option.some_inj.1 ((texts.shows stored).symm.trans held)
    refine ⟨rfl, row, hrow, type, other, value stored, ?_, same_of_compare? agrees⟩
    rw [content]
    exact texts.shows stored

section Requests

variable [Identifier I] {supply : Supply} {caller : Caller} {occasion : Occasion} {r : Registry}
variable {params : Params}

theorem of_commit_taken (h : (d.commit supply occasion creating e r).2 = .error (.taken label text)) :
    ∃ rules, d.check rules creating e r.store = .error (.taken label text) := by
  unfold commit at h
  dsimp only [rules] at h
  split at h
  · next fault refused =>
    cases h
    exact ⟨_, refused⟩
  · exact absurd h (untaken_save supply occasion.author e label text)

theorem of_create_taken (candid : d.Candid)
    (h : (d.create supply occasion e r).2 = .error (.taken label text)) :
    ∃ x rules, d.policy.prepare e occasion.caller = .ok x ∧
      d.check rules true (d.kind.stamp occasion.caller.userId supply.now x) r.store =
        .error (.taken label text) := by
  unfold create at h
  split at h
  · cases h
  · split at h
    · next refused => exact absurd h ((candid.prepare _ _).of_error refused label text)
    · next x prepared =>
      obtain ⟨rules, checked⟩ := of_commit_taken h
      exact ⟨x, rules, prepared, checked⟩

theorem of_update_taken (candid : d.Candid)
    (h : (d.update supply occasion e r).2 = .error (.taken label text)) :
    ∃ x rules, d.policy.prepare e occasion.caller = .ok x ∧
      d.check rules false x r.store = .error (.taken label text) := by
  unfold update at h
  split at h
  · cases h
  · split at h
    · next refused => exact absurd h ((candid.prepare _ _).of_error refused label text)
    · next x prepared =>
      obtain ⟨rules, checked⟩ := of_commit_taken h
      exact ⟨x, rules, prepared, checked⟩

variable (candid : d.Candid) (texts : d.Column column value)
  (shows : r.store.Shows d.kind fun _ => True)

include candid texts shows

theorem rival_of_create (unnamed : requestId (I := I) params = .ok none)
    (h : (d.create supply occasion e r).2 = .error (.taken label text)) :
    value e = text ∧ d.Rival column params r.store text := by
  obtain ⟨x, rules, prepared, checked⟩ := of_create_taken candid h
  obtain ⟨own, row, hrow, type, -, held⟩ := of_check_taken texts shows checked
  refine ⟨?_, row, hrow, type, fun id named => ?_, held⟩
  · rw [← own, texts.stamp, texts.prepare prepared]
  · cases unnamed.symm.trans named

theorem rival_of_update [LawfulIdentifier I] (law : d.kind.Lawful) (kept : r.store.WellKept)
    (keeps : d.KeepsId) {id : I} (named : requestId params = .ok (some id)) (hid : d.kind.id e = some id)
    (known : d.kind.isNew e = false)
    (h : (d.update supply occasion e r).2 = .error (.taken label text)) :
    value e = text ∧ d.Rival column params r.store text := by
  obtain ⟨x, rules, prepared, checked⟩ := of_update_taken candid h
  obtain ⟨own, row, hrow, type, ⟨other, decoded, differs⟩, held⟩ :=
    of_check_taken texts shows checked
  refine ⟨(texts.prepare prepared).symm.trans own, row, hrow, type, fun id' named' key => ?_, held⟩
  obtain rfl : id = id' := by
    cases named.symm.trans named'
    rfl
  obtain ⟨i, otherId, -, text⟩ := kept.key_of_decode law hrow decoded
  obtain rfl : i = id := LawfulIdentifier.text_injective (text.trans key)
  refine absurd (otherId.trans ?_) (differs.resolve_left Bool.false_ne_true)
  rw [keeps.prepare known prepared, hid]

variable (supply) in
theorem rival_of_report [LawfulIdentifier I] (law : d.kind.Lawful) (kept : r.store.WellKept)
    (keeps : d.KeepsId) (blank : d.kind.isNew d.kind.blank) {message : String} {change : E → Action E}
    (entering : ∀ e, d.kind.isNew e → (change e r).2 = .error (.taken label text) →
      ∃ event, (d.create supply ⟨caller, event⟩ e r).2 = .error (.taken label text))
    (revising : ∀ e, d.kind.isNew e = false → (change e r).2 = .error (.taken label text) →
      ∃ event, (d.update supply ⟨caller, event⟩ e r).2 = .error (.taken label text))
    (h : (d.report message params caller change r).2 = .error (.taken label text)) :
    ∃ e, d.working params caller r.store = .ok e ∧ value e = text ∧
      d.Rival column params r.store text := by
  unfold report at h
  split at h
  · next refused =>
    exact absurd h ((candid.working params caller r.store).of_error refused label text)
  · next e worked =>
    have refused : (change e r).2 = .error (.taken label text) := by
      dsimp only at h
      cases answer : (change e r).2 with
      | ok saved =>
        rw [answer] at h
        cases h
      | error fault =>
        rw [answer] at h
        cases h
        rfl
    refine ⟨e, worked, ?_⟩
    obtain ⟨drawn, bound, ⟨unnamed, rfl⟩ | ⟨id, named, found⟩⟩ := d.of_working worked
    · obtain ⟨event, created⟩ := entering e ((Kind.isNew_bind law bound).trans blank) refused
      exact rival_of_create candid texts shows unnamed created
    · obtain ⟨hid, known⟩ := kept.known_of_find? law found
      have stillKnown := (Kind.isNew_bind law bound).trans known
      obtain ⟨event, updated⟩ := revising e stillKnown refused
      exact rival_of_update candid texts shows law kept keeps named
        ((Kind.id_bind law bound).trans hid) stillKnown updated

variable [LawfulIdentifier I] (law : d.kind.Lawful) (kept : r.store.WellKept) (keeps : d.KeepsId)
  (blank : d.kind.isNew d.kind.blank)

include law kept keeps blank

theorem rival_of_doCreate (h : (d.doCreate supply params caller r).2 = .error (.taken label text)) :
    ∃ e, d.working params caller r.store = .ok e ∧ value e = text ∧
      d.Rival column params r.store text := by
  refine rival_of_report supply candid texts shows law kept keeps blank (fun e new refused => ?_)
    (fun e known refused => ?_) h
  · rw [if_pos new] at refused
    exact ⟨_, refused⟩
  · rw [if_neg (Bool.eq_false_iff.1 known)] at refused
    cases refused

theorem rival_of_doUpdate (h : (d.doUpdate supply params caller r).2 = .error (.taken label text)) :
    ∃ e, d.working params caller r.store = .ok e ∧ value e = text ∧
      d.Rival column params r.store text := by
  refine rival_of_report supply candid texts shows law kept keeps blank (fun e new refused => ?_)
    (fun e known refused => ?_) h
  · rw [if_pos new] at refused
    cases refused
  · rw [if_neg (Bool.eq_false_iff.1 known)] at refused
    exact ⟨_, refused⟩

theorem rival_of_doSave (h : (d.doSave supply params caller r).2 = .error (.taken label text)) :
    ∃ e, d.working params caller r.store = .ok e ∧ value e = text ∧
      d.Rival column params r.store text := by
  refine rival_of_report supply candid texts shows law kept keeps blank (fun e new refused => ?_)
    (fun e known refused => ?_) h
  · rw [save, if_pos new] at refused
    exact ⟨_, refused⟩
  · rw [save, if_neg (Bool.eq_false_iff.1 known)] at refused
    exact ⟨_, refused⟩

end Requests
end Desk
end Registrar
