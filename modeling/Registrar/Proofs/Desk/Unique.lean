import Registrar.Proofs.Desk.Twins

/-!
Unique columns. The guard compares texts of numbers as numbers, and what is not a number compares with
nothing. Main statement: no two rows of a type have a value of a unique column in common unless it
reads as "not a number", and values that do read so are not unique.
-/

namespace Registrar

open Json

/-- Neither the identifier nor the version of a record shows in the column. -/
def Kind.Keeps {I E : Type} (k : Kind I E) (column : String) : Prop :=
  ∀ e, (∀ i, Row.extract (k.encode (k.setId i e)) column = Row.extract (k.encode e) column) ∧
    ∀ n, Row.extract (k.encode (k.setVersion n e)) column = Row.extract (k.encode e) column

theorem Row.extract_congr {v w : Value} {column key : String} {rest : List String}
    (path : Text.split '.' column = key :: rest) (h : v.field? key = w.field? key) :
    extract v column = extract w column := by
  rw [extract, extract, path, descend, descend, h]

theorem Kind.Lawful.keeps {I E : Type} [Identifier I] {k : Kind I E} (law : k.Lawful)
    {column : String} (key : String) (rest : List String)
    (path : Text.split '.' column = key :: rest) (noId : key ≠ "id") (noVersion : key ≠ "version") :
    k.Keeps column := fun e =>
  ⟨fun i => Row.extract_congr path (law.field_setId i e noId),
    fun n => Row.extract_congr path (law.field_setVersion n e noVersion)⟩

namespace Store

/-- No two rows of a type have one of the values in common in a column. -/
def UniqueFor (P : Value → Prop) (entityType column : String) (s : Store) : Prop :=
  (s.rows.filter fun row => row.entityType == entityType).Pairwise fun a b =>
    ∀ v, P v → Row.extract a.content column = some v → Row.extract b.content column ≠ some v

/-- Rows of a type that share a value have the same key, except for values that are not numbers. -/
def Distinct (entityType column : String) (s : Store) : Prop :=
  ∀ a ∈ s.rows, ∀ b ∈ s.rows, a.entityType = entityType → b.entityType = entityType →
    ∀ v, Row.extract a.content column = some v → Row.extract b.content column = some v →
      ¬v.IsNan → a.key = b.key

variable {I E : Type} [Identifier I] [LawfulIdentifier I] [DecidableEq I] {d : Desk I E}
variable {entityType column : String} {s : Store}

omit [LawfulIdentifier I] [DecidableEq I] in
theorem extract_named {k : Kind I E} (keeps : k.Keeps column) (supply : Supply) (e : E) :
    Row.extract (k.encode (s.named k supply e)) column = Row.extract (k.encode e) column := by
  by_cases new : k.isNew e
  · rw [named_of_isNew k new, (keeps _).2, (keeps _).1]
  · rw [named_of_not_isNew k (Bool.eq_false_iff.2 new)]

/-- A row that shares a value with a record that passes the guard is the one the record replaces. -/
theorem key_of_check (kept : s.WellKept) (law : d.kind.Lawful) {rules : RuleSet} {creating : Bool}
    {e : E} (checked : d.check rules creating e s = .ok ()) {f : Field}
    (declared : f ∈ d.kind.schema.declared) (unique : f.isUnique) (supply : Supply)
    {row : SavedRow} (hrow : row ∈ s.rows) (type : row.entityType = d.kind.entityType) {v : Value}
    (hv : Row.extract row.content f.name = some v)
    (same : Row.extract (d.kind.encode e) f.name = some v) (shown : ¬v.IsNan) :
    row.key = d.kind.key (s.named d.kind supply e) := by
  obtain ⟨_, other, decoded, sameId⟩ :=
    Desk.same_of_clash (Desk.clash_of_check checked declared unique) same shown hrow type hv
  obtain ⟨i, hid, isSet, text⟩ := kept.key_of_decode law hrow decoded
  rw [sameId] at hid
  rw [named_of_not_isNew d.kind (isNew_of_id hid isSet), key_of_id hid, text]

omit [LawfulIdentifier I] [DecidableEq I] in
theorem extract_saved {k : Kind I E} (keeps : k.Keeps column) {supply : Supply} {e x : E}
    (hx : x = s.named k supply e ∨ ∃ n, x = k.setVersion n (s.named k supply e)) :
    Row.extract (k.encode x) column = Row.extract (k.encode e) column := by
  rcases hx with rfl | ⟨n, rfl⟩
  · exact extract_named keeps supply e
  · rw [(keeps _).2, extract_named keeps]

omit [LawfulIdentifier I] [DecidableEq I] in
theorem Distinct.save_over {k : Kind I E} (h : s.Distinct entityType column)
    (keeps : k.entityType = entityType → k.Keeps column) (supply : Supply) (author : Author) {e : E}
    (placed : k.entityType = entityType → ∀ row ∈ s.rows, row.entityType = entityType → ∀ v,
      Row.extract row.content column = some v → Row.extract (k.encode e) column = some v →
      ¬v.IsNan → row.key = k.key (s.named k supply e)) :
    (s.save k supply author e).1.Distinct entityType column := by
  intro a ha b hb typeA typeB v hva hvb notNan
  rcases mem_rows_save ha with ha | ⟨x, hx, rfl⟩ <;>
    rcases mem_rows_save hb with hb | ⟨y, hy, rfl⟩
  · exact h a ha b hb typeA typeB v hva hvb notNan
  · exact placed typeB a ha typeA v hva ((extract_saved (keeps typeB) hy).symm.trans hvb) notNan
  · exact (placed typeA b hb typeB v hvb ((extract_saved (keeps typeA) hx).symm.trans hva)
      notNan).symm
  · rfl

theorem Distinct.save (h : s.Distinct entityType column) (kept : s.WellKept)
    (law : d.kind.Lawful) {rules : RuleSet} {creating : Bool} {e : E}
    (checked : d.check rules creating e s = .ok ())
    (guarded : d.kind.entityType = entityType → d.kind.Keeps column ∧
      ∃ f ∈ d.kind.schema.declared, f.isUnique ∧ f.name = column)
    (supply : Supply) (author : Author) :
    (s.save d.kind supply author e).1.Distinct entityType column := by
  refine h.save_over (fun type => (guarded type).1) supply author
    fun type' row hrow type v hv same notNan => ?_
  obtain ⟨_, f, declared, unique, rfl⟩ := guarded type'
  exact key_of_check kept law checked declared unique supply hrow (type.trans type'.symm) hv same
    notNan

omit [LawfulIdentifier I] [DecidableEq I] in
theorem Distinct.save_other {k : Kind I E} (h : s.Distinct entityType column)
    (other : k.entityType ≠ entityType) (supply : Supply) (author : Author) (e : E) :
    (s.save k supply author e).1.Distinct entityType column :=
  h.save_over (fun type => absurd type other) supply author fun type => absurd type other

omit [LawfulIdentifier I] [DecidableEq I] in
theorem Distinct.delete {k : Kind I E} (h : s.Distinct entityType column) (now : Instant)
    (author : Author) (e : E) : (s.delete k now author e).1.Distinct entityType column :=
  fun a ha b hb => h a (mem_rows_delete ha) b (mem_rows_delete hb)

theorem Distinct.uniqueFor (h : s.Distinct entityType column) (kept : s.WellKept) :
    s.UniqueFor (fun v => ¬v.IsNan) entityType column := by
  refine (kept.oneRowEach.filter _).imp_of_mem fun {a b} ha hb apart v notNan hva hvb => ?_
  obtain ⟨ha, typeA⟩ := List.mem_filter.1 ha
  obtain ⟨hb, typeB⟩ := List.mem_filter.1 hb
  have sameKey := h a ha b hb (eq_of_beq typeA) (eq_of_beq typeB) v hva hvb notNan
  have there := SavedRow.isAt_iff.2 ⟨(eq_of_beq typeA).trans (eq_of_beq typeB).symm, sameKey⟩
  rw [apart] at there
  cases there

end Store

namespace Request

/-- A request about records of the type goes to a desk that declares the column unique. -/
def Guards (q : Request) (entityType column : String) : Prop :=
  q.desk.kind.entityType = entityType → q.desk.kind.Keeps column ∧
    ∃ f ∈ q.desk.kind.schema.declared, f.isUnique ∧ f.name = column

theorem distinct_apply {q : Request} {entityType column : String}
    (guards : q.Guards entityType column) {r : Registry} (kept : r.store.WellKept)
    (h : r.store.Distinct entityType column) : (q.apply r).store.Distinct entityType column := by
  have both : (q.apply r).store.WellKept ∧ (q.apply r).store.Distinct entityType column := by
    refine (q.deeds_apply r).preserves
      (P := fun s => s.WellKept ∧ s.Distinct entityType column) ?_ ?_ ⟨kept, h⟩
    · intro s author e rules creating checked ⟨kept, h⟩
      exact ⟨kept.save q.law q.sound author e, h.save kept q.law checked guards q.supply author⟩
    · intro s now author e ⟨kept, h⟩
      exact ⟨kept.delete now author e, h.delete now author e⟩
  exact both.2

theorem guards_joining (signinid : String) {q : Request}
    (hq : q ∈ [User.joining signinid, User.joining signinid]) : q.Guards "user" "signinid" := by
  have keeps : User.kind.Keeps "signinid" :=
    User.kind_lawful.keeps "signinid" [] (by decide) (by decide) (by decide)
  have declared : User.signinField ∈ User.schema.declared := by decide
  simp only [List.mem_cons, List.not_mem_nil, or_false, or_self] at hq
  rw [hq]
  exact fun _ => ⟨keeps, User.signinField, declared, by decide, rfl⟩

theorem not_uniqueFor_joining_twice {signinid : String} (nan : (Value.text signinid).IsNan)
    (short : signinid.toList.length ≤ 64) {P : Value → Prop} (h : P (.text signinid)) :
    ¬(run [User.joining signinid, User.joining signinid] {}).store.UniqueFor P "user"
      "signinid" := by
  intro unique
  rw [Store.UniqueFor, User.rows_joining_twice nan short] at unique
  exact List.rel_of_pairwise_cons unique List.mem_cons_self (.text signinid) h rfl rfl

/-- Whatever clients ask for, no two rows of a type have a value in common in a column that is
declared unique, as long as the value does not read as "not a number". The sign-in names that do
read so, up to the greatest length, are those that two users can have. -/
theorem unique_unless_nan {entityType column : String} {requests : List Request}
    (guards : ∀ q ∈ requests, q.Guards entityType column) :
    (run requests {}).store.UniqueFor (fun v => ¬v.IsNan) entityType column ∧
    ∀ signinid : String, (Value.text signinid).IsNan → signinid.toList.length ≤ 64 →
      ∃ twins : List Request, (∀ q ∈ twins, q.Guards "user" "signinid") ∧
        ¬(run twins {}).store.UniqueFor (fun v => v = .text signinid) "user" "signinid" := by
  have reached : (run requests {}).store.WellKept ∧
      (run requests {}).store.Distinct entityType column :=
    run_induction (P := fun r => r.store.WellKept ∧ r.store.Distinct entityType column)
      (fun q hq r ⟨kept, h⟩ => ⟨q.wellKept_apply kept, distinct_apply (guards q hq) kept h⟩)
      ⟨Store.wellKept_of_no_rows rfl, fun a ha => absurd ha List.not_mem_nil⟩
  exact ⟨reached.2.uniqueFor reached.1, fun signinid nan short =>
    ⟨[User.joining signinid, User.joining signinid], fun q hq => guards_joining signinid hq,
      not_uniqueFor_joining_twice nan short rfl⟩⟩

theorem erin_unique :
    (run [User.joining "erin", User.joining "erin"] {}).store.UniqueFor (fun v => ¬v.IsNan) "user"
      "signinid" :=
  (unique_unless_nan fun _ hq => guards_joining "erin" hq).1

/-- Two users are both called "nan". -/
theorem nan_not_unique :
    (∀ q ∈ [User.joining "nan", User.joining "nan"], q.Guards "user" "signinid") ∧
    ¬(run [User.joining "nan", User.joining "nan"] {}).store.UniqueFor (fun _ => True) "user"
      "signinid" := by
  have nan : (Value.text "nan").IsNan := (Value.isNan_text_iff _).2 (by decide)
  exact ⟨fun _ hq => guards_joining "nan" hq, not_uniqueFor_joining_twice nan (by decide) trivial⟩

end Request
end Registrar
