import Registrar.Proofs.Desk.Run

/-!
Records that keep the rules of their kind. A desk checks each record that it saves, by the rules that the
registry has found for the kind, and what the store sets after the check, the identifier and the version,
no rule is about. Main statement: if the rows of a kind pass its rules, they do so after every request at
any desk.
-/

namespace Registrar

open Json

/-- The constraints let every text pass. -/
def Constraints.IsIdle (c : Constraints) : Prop :=
  c.required = false ∧ c.maxLength = none ∧ c.minLength = none ∧ c.isEmail = false ∧
    c.pattern = none

instance (c : Constraints) : Decidable c.IsIdle := inferInstanceAs (Decidable (_ ∧ _))

theorem Constraints.IsIdle.check {c : Constraints} (h : c.IsIdle) (label text : String) :
    c.check label text = [] := by
  obtain ⟨required, longest, shortest, email, pattern⟩ := h
  simp [Constraints.check, violations, required, longest, shortest, email, pattern]

namespace RuleSet

/-- The rules ask nothing of the value under the name. -/
def Frees (rules : RuleSet) (name : String) : Prop :=
  ∀ rule ∈ rules, rule.1 = name → rule.2.IsIdle

instance (rules : RuleSet) (name : String) : Decidable (rules.Frees name) :=
  inferInstanceAs (Decidable (∀ rule ∈ rules, _ → _))

theorem violations_congr {rules : RuleSet} {name : String} (free : rules.Frees name) (s : Schema)
    {a b : Value} (same : ∀ key, key ≠ name → a.field? key = b.field? key) :
    rules.violations s a = rules.violations s b := by
  unfold violations
  rw [List.flatMap_def, List.flatMap_def]
  refine congrArg List.flatten (List.map_congr_left fun rule hrule => ?_)
  dsimp only
  split
  · rfl
  · by_cases named : rule.1 = name
    · rw [(free rule hrule named).check, (free rule hrule named).check]
    · rw [valueText, valueText, same rule.1 named]

end RuleSet

namespace RuleCache

variable {cache : RuleCache} {s : Schema}

/-- What the memory has under the type's name, if anything, are the rules of the schema. -/
def Knows (cache : RuleCache) (s : Schema) : Prop :=
  ∀ rules, cache.find? s.entityType = some rules → rules = RuleSet.ofSchema s

theorem Knows.rules_eq (h : cache.Knows s) : (cache.rules s).1 = RuleSet.ofSchema s := by
  unfold rules
  split
  · next rules found => exact h rules found
  · rfl

theorem Knows.after_self (h : cache.Knows s) : (cache.rules s).2.Knows s := by
  intro rules found
  rw [find?_rules_self, h.rules_eq] at found
  exact (Option.some.inj found).symm

theorem Knows.after_other (h : cache.Knows s) {other : Schema}
    (apart : other.entityType ≠ s.entityType) : (cache.rules other).2.Knows s := by
  unfold rules
  split
  · exact h
  · intro rules found
    refine h rules ?_
    simpa [find?, apart] using found

end RuleCache

/-- The record's data form keeps the rules of the kind. -/
def Kind.Passes {I E : Type} (k : Kind I E) (e : E) : Prop :=
  (RuleSet.ofSchema k.schema).violations k.schema (k.encode e) = []

theorem Kind.Lawful.stable_passes {I E : Type} [Identifier I] {k : Kind I E} (law : k.Lawful)
    (id : (RuleSet.ofSchema k.schema).Frees "id")
    (version : (RuleSet.ofSchema k.schema).Frees "version") : k.Stable k.Passes where
  setId i _ h := (RuleSet.violations_congr id _ fun _ other => law.field_setId i _ other).trans h
  setVersion n _ h :=
    (RuleSet.violations_congr version _ fun _ other => law.field_setVersion n _ other).trans h

/-- The registry knows the rules of the kind, and its rows of the kind show records that keep them. -/
structure Registry.Orderly {I E : Type} (k : Kind I E) (r : Registry) : Prop where
  known : r.rules.Knows k.schema
  passes : r.store.Shows k k.Passes

namespace Desk

variable {I E : Type} [Identifier I] [DecidableEq I] {d : Desk I E}

/-- Neither the saves that pass the desk's check nor its deletes take the property away. -/
structure Keeps (d : Desk I E) (supply : Supply) (P : Registry → Prop) : Prop where
  commit (occasion : Occasion) (creating : Bool) (e : E) {r : Registry} :
    P r → P (d.commit supply occasion creating e r).1
  delete (author : Author) (e : E) {r : Registry} :
    P r → P { r with store := (r.store.delete d.kind supply.now author e).1 }

namespace Keeps

variable {supply : Supply} {P : Registry → Prop} (keeps : d.Keeps supply P) {r : Registry}

include keeps

theorem create (occasion : Occasion) (e : E) (h : P r) : P (d.create supply occasion e r).1 := by
  unfold Desk.create
  split
  · exact h
  · split
    · exact h
    · exact keeps.commit occasion true _ h

theorem update (occasion : Occasion) (e : E) (h : P r) : P (d.update supply occasion e r).1 := by
  unfold Desk.update
  split
  · exact h
  · split
    · exact h
    · exact keeps.commit occasion false _ h

theorem amend (occasion : Occasion) (change : E → E) (e : E) (h : P r) :
    P (d.amend supply occasion change e r).1 := by
  unfold Desk.amend
  split
  · exact h
  · exact keeps.update occasion (change e) h

theorem perform (caller : Caller) (job : Job E) (h : P r) : P (d.perform supply caller job r).1 := by
  cases job with
  | create params =>
    rw [Desk.perform, doCreate]
    refine report_keeps _ params (fun e => ?_) h
    split
    · exact keeps.create _ e h
    · exact h
  | update params =>
    rw [Desk.perform, doUpdate]
    refine report_keeps _ params (fun e => ?_) h
    split
    · exact h
    · exact keeps.update _ e h
  | save params =>
    rw [Desk.perform, doSave]
    refine report_keeps _ params (fun e => ?_) h
    unfold Desk.save
    split
    · exact keeps.create _ e h
    · exact keeps.update _ e h
  | delete params =>
    refine batch_keeps _ params (fun e r h => ?_) h
    exact discard_keeps e (fun author => keeps.delete author e h) h
  | batch name event change params =>
    exact batch_keeps name params (fun e _ h => keeps.amend ⟨caller, event⟩ change e h) h

end Keeps

omit [Identifier I] in
theorem violations_of_check {rules : RuleSet} {creating : Bool} {e : E} {s : Store}
    (h : d.check rules creating e s = .ok ()) :
    rules.violations d.kind.schema (d.kind.encode e) = [] := by
  unfold check at h
  split at h
  · cases h
  · next valid => exact RuleSet.validate_eq_ok_iff.1 valid

/-- A desk leaves the rows of its kind in order: what it saves has passed the rules that are known. -/
theorem keeps_orderly (stable : d.kind.Stable d.kind.Passes) (supply : Supply) :
    d.Keeps supply (Registry.Orderly d.kind) where
  commit occasion creating e r h := by
    unfold commit rules
    dsimp only
    split
    · exact ⟨h.known.after_self, h.passes⟩
    · next checked =>
      have passes : d.kind.Passes e := by
        rw [h.known.rules_eq] at checked
        exact violations_of_check checked
      exact ⟨h.known.after_self, h.passes.save stable passes supply _⟩
  delete author e r h := ⟨h.known, h.passes.delete _ author e⟩

theorem keeps_orderly_other {J F : Type} {k : Kind J F}
    (apart : d.kind.entityType ≠ k.entityType) (supply : Supply) :
    d.Keeps supply (Registry.Orderly k) where
  commit occasion creating e r h := by
    unfold commit rules
    dsimp only
    split
    · exact ⟨h.known.after_other apart, h.passes⟩
    · exact ⟨h.known.after_other apart, h.passes.save_other apart supply _ e⟩
  delete author e r h := ⟨h.known, h.passes.delete _ author e⟩

end Desk
end Registrar
