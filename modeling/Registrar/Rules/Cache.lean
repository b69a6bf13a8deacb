import Registrar.Rules

/-!
A memory of rule sets by type name. The first schema asked for under a name decides the rules of
that name, failed ones included.
-/

namespace Registrar

/-- Type names with their rules, the latest first; no name occurs twice. -/
structure RuleCache where
  known : List (String × RuleSet) := []
deriving Repr

namespace RuleCache

def find? (cache : RuleCache) (entityType : String) : Option RuleSet :=
  (cache.known.find? fun e => e.1 == entityType).map (·.2)

def size (cache : RuleCache) : Nat := cache.known.length

/-- The rules of a schema, and the memory with them in it. -/
def rules (cache : RuleCache) (s : Schema) : RuleSet × RuleCache :=
  match cache.find? s.entityType with
  | some rules => (rules, cache)
  | none =>
    let rules := RuleSet.ofSchema s
    (rules, ⟨(s.entityType, rules) :: cache.known⟩)

theorem find?_rules_self (cache : RuleCache) (s : Schema) :
    (cache.rules s).2.find? s.entityType = some (cache.rules s).1 := by
  unfold rules
  split
  · assumption
  · simp [find?]

end RuleCache
end Registrar
