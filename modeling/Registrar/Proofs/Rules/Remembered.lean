import Registrar.Proofs.Distinct
import Registrar.Rules.Cache

/-!
What the memory of rules answers. It has each name that it has been asked for once, with the rules of the
first schema of that name. Main statement: schemas asked for one after another are answered with the rules
of the first one of their name, none if that one cannot be compiled; and calls that overlap, which look for
rules first and keep their own later, are answered by the schemas in the order in which they are kept.
-/

namespace Registrar

namespace Schema

variable {asked : List Schema} {s t : Schema} {name : String}

/-- Of the schemas asked for, this is the first one of its name. -/
def IsFirst (asked : List Schema) (t : Schema) : Prop :=
  ∃ front rest, asked = front ++ t :: rest ∧ ∀ u ∈ front, u.entityType ≠ t.entityType

/-- The first schema of the name. -/
def first? (asked : List Schema) (name : String) : Option Schema :=
  asked.find? fun s => s.entityType == name

theorem first?_append (front rest : List Schema) (name : String) :
    first? (front ++ rest) name = (first? front name).or (first? rest name) :=
  List.find?_append

theorem first?_singleton (s : Schema) (name : String) :
    first? [s] name = if s.entityType = name then some s else none := by
  by_cases same : s.entityType = name <;> simp [first?, same]

theorem first?_eq_some_iff : first? asked name = some t ↔ IsFirst asked t ∧ t.entityType = name := by
  rw [first?, List.find?_eq_some_iff_append]
  constructor
  · rintro ⟨named, front, rest, rfl, others⟩
    obtain rfl : t.entityType = name := by simpa using named
    exact ⟨⟨front, rest, rfl, fun u hu => by simpa using others u hu⟩, rfl⟩
  · rintro ⟨⟨front, rest, rfl, others⟩, rfl⟩
    exact ⟨by simp, front, rest, rfl, fun u hu => by simpa using others u hu⟩

theorem first?_eq_none_iff : first? asked name = none ↔ name ∉ asked.map entityType := by
  simp [first?]

theorem IsFirst.unique (hs : IsFirst asked s) (ht : IsFirst asked t)
    (same : s.entityType = t.entityType) : s = t := by
  have found := first?_eq_some_iff.2 ⟨ht, same.symm⟩
  rw [first?_eq_some_iff.2 ⟨hs, rfl⟩] at found
  exact Option.some.inj found

theorem IsFirst.mem (h : IsFirst asked t) : t ∈ asked := by
  obtain ⟨front, rest, rfl, _⟩ := h
  simp

end Schema

namespace RuleCache

open Schema

variable {cache : RuleCache} {asked : List Schema} {s : Schema} {name : String}

theorem find?_eq_none_iff : cache.find? name = none ↔ name ∉ cache.known.map Prod.fst := by
  rw [find?, Option.map_eq_none_iff, List.find?_eq_none]
  constructor
  · rintro unknown there
    obtain ⟨entry, known, rfl⟩ := List.mem_map.1 there
    simpa using unknown entry known
  · rintro absent entry known
    have other : entry.1 ≠ name := fun same => absent (same ▸ List.mem_map_of_mem known)
    simpa using other

theorem find?_rules (cache : RuleCache) (s : Schema) (name : String) :
    (cache.rules s).2.find? name =
      if s.entityType = name then some (cache.rules s).1 else cache.find? name := by
  by_cases same : s.entityType = name
  · rw [if_pos same, ← same, find?_rules_self]
  · rw [if_neg same]
    unfold rules
    split
    · rfl
    · simp [find?, same]

/-- The memory has the rules of the first schema of each name, and no name twice. -/
structure Mirrors (cache : RuleCache) (asked : List Schema) : Prop where
  found (name : String) : cache.find? name = (first? asked name).map RuleSet.ofSchema
  distinct : (cache.known.map Prod.fst).Nodup

namespace Mirrors

theorem empty : Mirrors {} [] := ⟨fun _ => rfl, List.nodup_nil⟩

theorem answer (h : cache.Mirrors asked) (s : Schema) :
    some (cache.rules s).1 = (first? (asked ++ [s]) s.entityType).map RuleSet.ofSchema := by
  have found := h.found s.entityType
  rw [first?_append, first?_singleton, if_pos rfl]
  unfold RuleCache.rules
  cases first : first? asked s.entityType with
  | some t => simp [found, first]
  | none => simp [found, first]

theorem call (h : cache.Mirrors asked) (s : Schema) :
    (cache.rules s).2.Mirrors (asked ++ [s]) where
  found name := by
    rw [find?_rules]
    by_cases same : s.entityType = name
    · rw [if_pos same, h.answer, same]
    · rw [if_neg same, h.found, first?_append, first?_singleton, if_neg same, Option.or_none]
  distinct := by
    unfold RuleCache.rules
    split
    · exact h.distinct
    · next unknown => exact List.nodup_cons.2 ⟨find?_eq_none_iff.1 unknown, h.distinct⟩

theorem size_eq (h : cache.Mirrors asked) :
    cache.size = (asked.map entityType).toFinset.card := by
  have same : (cache.known.map Prod.fst).toFinset = (asked.map entityType).toFinset := by
    ext name
    have found := h.found name
    rw [List.mem_toFinset, List.mem_toFinset, ← not_iff_not, ← find?_eq_none_iff,
      ← first?_eq_none_iff, found, Option.map_eq_none_iff]
  rw [← same, List.toFinset_card_of_nodup h.distinct, List.length_map, size]

end Mirrors

def after (cache : RuleCache) (asked : List Schema) : RuleCache :=
  asked.foldl (fun cache s => (cache.rules s).2) cache

theorem mirrors_after (asked : List Schema) : (after {} asked).Mirrors asked := by
  induction asked using List.reverseRecOn with
  | nil => exact .empty
  | append_singleton front s ih =>
    rw [after, List.foldl_append]
    exact ih.call s

theorem Mirrors.exists_first (h : cache.Mirrors asked) (s : Schema) (rest : List Schema) :
    ∃ t, IsFirst (asked ++ s :: rest) t ∧ t.entityType = s.entityType ∧
      (cache.rules s).1 = RuleSet.ofSchema t := by
  obtain ⟨t, first, given⟩ := Option.map_eq_some_iff.1 (h.answer s).symm
  have later : first? (asked ++ s :: rest) s.entityType = some t := by
    rw [List.append_cons, first?_append _ rest, first, Option.some_or]
  obtain ⟨isFirst, same⟩ := first?_eq_some_iff.1 later
  exact ⟨t, isFirst, same, given.symm⟩

/-- A step of a call. A call looks for rules under its name, and where it finds none it derives its own
and keeps them; steps of other calls may come in between. -/
inductive Step where
  | look (s : Schema)
  | keep (s : Schema)

namespace Step

def schema : Step → Schema
  | look s => s
  | keep s => s

/-- What the step is answered with, if it is, and the memory after it. Rules that others have kept in the
meantime stay. -/
def take (cache : RuleCache) : Step → Option RuleSet × RuleCache
  | look s => (cache.find? s.entityType, cache)
  | keep s =>
    match cache.find? s.entityType with
    | some rules => (some rules, cache)
    | none => (some (RuleSet.ofSchema s), ⟨(s.entityType, RuleSet.ofSchema s) :: cache.known⟩)

/-- The schemas that are kept, the first one first. -/
def kept (steps : List Step) : List Schema :=
  steps.filterMap fun
    | look _ => none
    | keep s => some s

theorem take_keep (cache : RuleCache) (s : Schema) :
    (keep s).take cache = (some (cache.rules s).1, (cache.rules s).2) := by
  cases found : cache.find? s.entityType <;> simp [take, RuleCache.rules, found]

end Step

def afterSteps (cache : RuleCache) (steps : List Step) : RuleCache :=
  steps.foldl (fun cache step => (step.take cache).2) cache

theorem Mirrors.step (h : cache.Mirrors asked) (step : Step) :
    (step.take cache).2.Mirrors (asked ++ Step.kept [step]) := by
  cases step with
  | look s =>
    rw [show Step.kept [.look s] = [] from rfl, List.append_nil]
    exact h
  | keep s =>
    rw [Step.take_keep]
    exact h.call s

theorem mirrors_afterSteps (steps : List Step) :
    (afterSteps {} steps).Mirrors (Step.kept steps) := by
  induction steps using List.reverseRecOn with
  | nil => exact .empty
  | append_singleton front step ih =>
    rw [afterSteps, List.foldl_append, Step.kept, List.filterMap_append]
    exact ih.step step

/-- A step that is answered gets the rules of the first schema that has been kept under its name. -/
theorem Mirrors.answer_step (h : cache.Mirrors asked) {step : Step} {rules : RuleSet}
    (answered : (step.take cache).1 = some rules) :
    ∃ t, IsFirst (asked ++ Step.kept [step]) t ∧ t.entityType = step.schema.entityType ∧
      rules = RuleSet.ofSchema t := by
  cases step with
  | look s =>
    obtain ⟨t, first, rfl⟩ := Option.map_eq_some_iff.1 ((h.found s.entityType).symm.trans answered)
    obtain ⟨isFirst, same⟩ := first?_eq_some_iff.1 first
    refine ⟨t, ?_, same, rfl⟩
    rwa [show Step.kept [.look s] = [] from rfl, List.append_nil]
  | keep s =>
    rw [Step.take_keep, Option.some.injEq] at answered
    subst answered
    exact h.exists_first s []

/-- A call is answered with the rules of the first schema of its name, none if that one is broken, and so
are all later calls of that name; the memory has each name once. With one schema to a name, the answer is
that of the schema itself. Calls that overlap are answered by the schemas in the order of their keeping. -/
theorem first_schema_decides (front : List Schema) (s : Schema) :
    let given := ((after {} front).rules s).1
    (∀ rest, ∃ t, IsFirst (front ++ s :: rest) t ∧ t.entityType = s.entityType ∧
      given = RuleSet.ofSchema t ∧ ∀ fault, RuleSet.compile t = .error fault → given = []) ∧
    (∀ between again, again.entityType = s.entityType →
      ((after {} (front ++ s :: between)).rules again).1 = given) ∧
    (after {} front).size = (front.map entityType).toFinset.card ∧
    ((∀ u ∈ front, u.entityType = s.entityType → u = s) → given = RuleSet.ofSchema s) ∧
    ∀ steps step rules, (Step.take (afterSteps {} steps) step).1 = some rules →
      ∃ t, IsFirst (Step.kept (steps ++ [step])) t ∧ t.entityType = step.schema.entityType ∧
        rules = RuleSet.ofSchema t := by
  intro given
  have mirrors := mirrors_after front
  refine ⟨fun rest => ?_, fun between again same => ?_, mirrors.size_eq, fun alone => ?_,
    fun steps step rules answered => ?_⟩
  · obtain ⟨t, isFirst, same, rules⟩ := mirrors.exists_first s rest
    refine ⟨t, isFirst, same, rules, fun fault broken => ?_⟩
    rw [show given = RuleSet.ofSchema t from rules, RuleSet.ofSchema, broken]
  · obtain ⟨t, isFirst, named, rules⟩ := mirrors.exists_first s (between ++ [again])
    obtain ⟨t', isFirst', named', rules'⟩ :=
      (mirrors_after (front ++ s :: between)).exists_first again []
    rw [List.append_assoc, List.cons_append] at isFirst'
    have one := isFirst.unique isFirst' (by rw [named, named', same])
    rw [rules', ← one]
    exact rules.symm
  · obtain ⟨t, isFirst, same, rules⟩ := mirrors.exists_first s []
    have own : t = s := by
      rcases List.mem_append.1 isFirst.mem with earlier | last
      · exact alone t earlier same
      · exact List.mem_singleton.1 last
    rw [← own]
    exact rules
  · rw [Step.kept, List.filterMap_append]
    exact (mirrors_afterSteps steps).answer_step answered

/-- A broken schema leaves its name without rules, though a sound one of that name is asked for later. -/
theorem broken_unit_leaves_no_rules :
    let unit (column : Column) : Schema :=
      .extend .root ⟨"unit", "Unit", [{ Field.text "code" "Code" with column := some column }]⟩
    let broken := unit { length := 0 }
    let sound := unit { nullable := false }
    RuleSet.ofSchema sound ≠ [] ∧ ((after {} [broken, Schema.auditable]).rules sound).1 = [] ∧
      (after {} [broken, Schema.auditable]).size = 2 := by
  intro unit broken sound
  have alone : ∀ u ∈ ([] : List Schema), u.entityType = broken.entityType → u = broken := nofun
  obtain ⟨_, later, _, own, _⟩ := first_schema_decides [] broken
  obtain ⟨_, _, size, _⟩ := first_schema_decides [broken, Schema.auditable] sound
  have nothing : RuleSet.ofSchema broken = [] := by decide +kernel
  refine ⟨by decide +kernel, ?_, size.trans (by decide +kernel)⟩
  exact (later [Schema.auditable] sound rfl).trans ((own alone).trans nothing)

end RuleCache
end Registrar
