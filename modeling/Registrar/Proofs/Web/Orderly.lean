import Registrar.Proofs.Desk.Orderly
import Registrar.Proofs.Kind.Readable
import Registrar.Proofs.Web.Turns

/-!
The rules of the service. The records to begin with are saved without a check, but they keep the rules at
whatever time they are saved. Main statement: from an empty store or a seeded one, whatever clients ask
for, each department, role and user in the store passes the rules of its schema.
-/

namespace Registrar

open Json

/-- The rules of the kind compile, they are what desks check by, and each row of the kind passes them,
as it is stored and as it is read. -/
def Registry.KeepsRules {I E : Type} (k : Kind I E) (r : Registry) : Prop :=
  ∃ rules, RuleSet.compile k.schema = .ok rules ∧ (r.rules.rules k.schema).1 = rules ∧
    ∀ row ∈ r.store.rows, row.entityType = k.entityType →
      rules.validate k.schema row.content = .ok () ∧
      ∀ e, k.decode row.content = .ok e → rules.validate k.schema (k.encode e) = .ok ()

section Kinds

variable {I E : Type} {k : Kind I E}

/-- The rules of the kind ask nothing of what the store sets and of the time of the first save, and a
record read of its data form shows the same but for that time. -/
structure Kind.Ruled [Identifier I] (k : Kind I E) : Prop where
  lawful : k.Lawful
  compiles : (RuleSet.compile k.schema).isOk
  id : (RuleSet.ofSchema k.schema).Frees "id"
  version : (RuleSet.ofSchema k.schema).Frees "version"
  createdAt : (RuleSet.ofSchema k.schema).Frees "createdAt"
  reads {e x : E} {name : String} : k.decode (k.encode e) = .ok x → name ≠ "createdAt" →
    (k.encode x).field? name = (k.encode e).field? name

theorem Registry.Orderly.keepsRules [Identifier I] (ruled : k.Ruled) {r : Registry}
    (h : r.Orderly k) : r.KeepsRules k := by
  have known := h.known.rules_eq
  have passes := h.passes
  unfold Kind.Passes at passes
  have compiles := ruled.compiles
  have free := ruled.createdAt
  unfold RuleSet.ofSchema at known passes free
  cases compiled : RuleSet.compile k.schema with
  | error fault =>
    rw [compiled] at compiles
    cases compiles
  | ok rules =>
    rw [compiled] at known passes free
    refine ⟨rules, compiled, known, fun row hrow type => ?_⟩
    obtain ⟨e, shown, valid⟩ := passes row hrow type
    rw [shown]
    refine ⟨RuleSet.validate_eq_ok_iff.2 valid, fun x decoded => RuleSet.validate_eq_ok_iff.2 ?_⟩
    exact (RuleSet.violations_congr free _ fun _ other => ruled.reads decoded other).trans valid

theorem Kind.Ruled.stable [Identifier I] (ruled : k.Ruled) : k.Stable k.Passes :=
  ruled.lawful.stable_passes ruled.id ruled.version

theorem Kind.Ruled.passes_stamp [Identifier I] (ruled : k.Ruled) {actor : String}
    {now other : Instant} {e : E}
    (same : ∀ name, name ≠ "createdAt" → (k.encode (k.stamp actor now e)).field? name =
      (k.encode (k.stamp actor other e)).field? name)
    (h : k.Passes (k.stamp actor other e)) : k.Passes (k.stamp actor now e) :=
  (RuleSet.violations_congr ruled.createdAt _ same).trans h

end Kinds

theorem Department.ruled : kind.Ruled where
  lawful := kind_lawful
  compiles := by decide
  id := by decide
  version := by decide
  createdAt := by decide
  reads h other := field?_of_decode h (fun same => absurd same other) rfl

theorem Role.ruled : kind.Ruled where
  lawful := kind_lawful
  compiles := by decide +kernel
  id := by decide +kernel
  version := by decide +kernel
  createdAt := by decide +kernel
  reads h other := field?_of_decode h (fun same => absurd same other) rfl

theorem User.ruled : kind.Ruled where
  lawful := kind_lawful
  compiles := by decide
  id := by decide
  version := by decide
  createdAt := by decide
  reads h other := field?_of_decode h (fun same => absurd same other) rfl

namespace Seed

instance {I E : Type} (k : Kind I E) (e : E) : Decidable (k.Passes e) :=
  inferInstanceAs (Decidable (_ = []))

theorem departments_pass (now : Instant) :
    ∀ d ∈ departments, Department.kind.Passes (Department.kind.stamp author.actor now d) := by
  have atFirst : ∀ d ∈ departments,
      Department.kind.Passes (Department.kind.stamp author.actor ⟨0, 0⟩ d) := by decide
  intro d hd
  refine Department.ruled.passes_stamp (fun name other => ?_) (atFirst d hd)
  exact Value.field?_ofPairs_congr other _ _ [_, _, _, _, _, _, _] []

theorem roles_pass (now : Instant) :
    ∀ role ∈ roles, Role.kind.Passes (Role.kind.stamp author.actor now role) := by
  have atFirst : ∀ role ∈ roles,
      Role.kind.Passes (Role.kind.stamp author.actor ⟨0, 0⟩ role) := by decide +kernel
  intro role hrole
  refine Role.ruled.passes_stamp (fun name other => ?_) (atFirst role hrole)
  exact Value.field?_ofPairs_congr other _ _ [_, _, _, _, _, _, _, _] []

theorem users_pass (now : Instant) :
    ∀ u ∈ users, User.kind.Passes (User.kind.stamp author.actor now u) := by
  have atFirst : ∀ u ∈ users,
      User.kind.Passes (User.kind.stamp author.actor ⟨0, 0⟩ u) := by decide
  intro u hu
  refine User.ruled.passes_stamp (fun name other => ?_) (atFirst u hu)
  exact Value.field?_ofPairs_congr other _ _ [_, _, _, _, _, _, _, _, _, _, _] []

end Seed

namespace Web

variable {limits : PageLimits}

theorem Reached.of_desks {P : Registry → Prop} {r : Registry} (h : Reached limits r)
    (departments : ∀ supply, (departments limits).Keeps supply P)
    (roles : ∀ supply, (roles limits).Keeps supply P)
    (users : ∀ supply, (users limits).Keeps supply P)
    (start : ∀ settings supply, P (begin settings supply).1) : P r := by
  obtain ⟨settings, supply, posts, _, rfl⟩ := h
  refine run_induction (fun p r h => ?_) (start settings supply)
  refine p.carryOut_cases limits (P := fun action => P (action r).1) (fun _ => h) ?_ ?_ ?_
  · exact fun order params _ => (departments p.supply).perform p.caller _ h
  · exact fun order params _ => (roles p.supply).perform p.caller _ h
  · exact fun job _ _ _ => (users p.supply).perform p.caller job h

theorem orderly_begin {I E : Type} {k : Kind I E}
    (loaded : ∀ supply, (Seed.load supply {}).1.Shows k k.Passes) (settings : Settings)
    (supply : Supply) : (begin settings supply).1.Orderly k := by
  unfold begin
  dsimp only
  have nothing (s : Schema) : RuleCache.Knows {} s := fun _ found => by cases found
  split
  · exact ⟨nothing _, loaded supply⟩
  · exact ⟨nothing _, fun _ hrow => nomatch hrow⟩

theorem departments_pass_load (supply : Supply) :
    (Seed.load supply {}).1.Shows Department.kind Department.kind.Passes := by
  refine load_induction (fun d hd s h => ?_) (fun _ _ s h => ?_) (fun _ _ s h => ?_)
    fun _ hrow => nomatch hrow
  · exact h.save Department.ruled.stable (Seed.departments_pass supply.now d hd) _ _
  · exact h.save_other Department.entityType_ne_role.symm _ _ _
  · exact h.save_other Department.entityType_ne_user.symm _ _ _

theorem roles_pass_load (supply : Supply) :
    (Seed.load supply {}).1.Shows Role.kind Role.kind.Passes := by
  refine load_induction (fun _ _ s h => ?_) (fun role hrole s h => ?_) (fun _ _ s h => ?_)
    fun _ hrow => nomatch hrow
  · exact h.save_other Department.entityType_ne_role _ _ _
  · exact h.save Role.ruled.stable (Seed.roles_pass supply.now role hrole) _ _
  · exact h.save_other User.entityType_ne_role _ _ _

theorem users_pass_load (supply : Supply) :
    (Seed.load supply {}).1.Shows User.kind User.kind.Passes := by
  refine load_induction (fun _ _ s h => ?_) (fun _ _ s h => ?_) (fun u hu s h => ?_)
    fun _ hrow => nomatch hrow
  · exact h.save_other Department.entityType_ne_user _ _ _
  · exact h.save_other Role.entityType_ne_user _ _ _
  · exact h.save User.ruled.stable (Seed.users_pass supply.now u hu) _ _

section Orderly

variable {r : Registry} (reached : Reached limits r)

include reached

theorem Reached.departments_orderly : r.Orderly Department.kind :=
  reached.of_desks (Desk.keeps_orderly Department.ruled.stable)
    (Desk.keeps_orderly_other Department.entityType_ne_role.symm)
    (Desk.keeps_orderly_other Department.entityType_ne_user.symm)
    (orderly_begin departments_pass_load)

theorem Reached.roles_orderly : r.Orderly Role.kind :=
  reached.of_desks (Desk.keeps_orderly_other Department.entityType_ne_role)
    (Desk.keeps_orderly Role.ruled.stable) (Desk.keeps_orderly_other User.entityType_ne_role)
    (orderly_begin roles_pass_load)

theorem Reached.users_orderly : r.Orderly User.kind :=
  reached.of_desks (Desk.keeps_orderly_other Department.entityType_ne_user)
    (Desk.keeps_orderly_other Role.entityType_ne_user) (Desk.keeps_orderly User.ruled.stable)
    (orderly_begin users_pass_load)

end Orderly

/-- At any time, whatever clients have asked for, each department, role and user in the store passes the
rules of its schema, as it is stored and as it is read. -/
theorem records_keep_rules {r : Registry} (reached : Reached limits r) :
    r.KeepsRules Department.kind ∧ r.KeepsRules Role.kind ∧ r.KeepsRules User.kind :=
  ⟨reached.departments_orderly.keepsRules Department.ruled,
    reached.roles_orderly.keepsRules Role.ruled, reached.users_orderly.keepsRules User.ruled⟩

def extended : Registry :=
  (ordering .department .create [("code", "D30"), ("name", "Unit")]).apply {} organisation

theorem new_department_keeps_rules :
    Reached {} extended ∧ (extended.store.row? "department" "D30").isSome ∧
    extended.KeepsRules Department.kind ∧ extended.KeepsRules Role.kind ∧
    extended.KeepsRules User.kind := by
  have reached : Reached {} extended := reached_organisation.apply _
  exact ⟨reached, by decide +kernel, records_keep_rules reached⟩

end Web
end Registrar
