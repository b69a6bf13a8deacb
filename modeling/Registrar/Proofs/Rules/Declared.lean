import Registrar.Proofs.Entries
import Registrar.Rules
import Registrar.User

/-!
Rules and the declarations they come from. Main statement: if the names of the fields are distinct and hold
no dot, the rules of a schema do not depend on where its fields are declared; there is a rule for each field
whose declaration constrains it, the same one for the id of a reference, and no other; and a declaration
that makes no sense leaves no rules.
-/

namespace Registrar

namespace Field

variable {f : Field} {c : Constraints}

/-- The declaration makes no sense. -/
def IsFaulty (f : Field) : Prop :=
  (∃ c, f.column = some c ∧ c.length = 0) ∨ (∃ s, f.size = some s ∧ s.most < s.least) ∨
    ∃ source, f.pattern = some source ∧ WholePattern.compile? source = none

/-- At least one constraint follows from the declaration. -/
def Constrains (f : Field) : Prop :=
  f.isRequired ∨ f.isUnique ∨ f.isFixed ∨ f.maxLength.isSome ∨ f.minLength.isSome ∨
    f.valueType? ∈ [some .date, some .decimal, some .integer] ∨ f.isEmail ∨ f.pattern.isSome ∨
    f.tooltips.isSome

/-- The constraints that the declaration states if it makes sense. -/
def stated (f : Field) : Constraints := f.constraintsWith (f.pattern.bind WholePattern.compile?)

theorem constraints_of_not_isFaulty (h : ¬f.IsFaulty) : f.constraints = .ok f.stated := by
  simp only [IsFaulty, not_or, not_exists, not_and] at h
  obtain ⟨long, straight, readable⟩ := h
  have length : f.column.any (fun c => c.length == 0) = false := by
    cases column : f.column with
    | none => rfl
    | some c => simpa using long c column
  have pattern : constraints.compiled f = .ok f.stated := by
    unfold constraints.compiled stated
    cases source : f.pattern with
    | none => rfl
    | some source' =>
      obtain ⟨w, compiled⟩ := Option.ne_none_iff_exists'.1 (readable source' source)
      simp [compiled]
  unfold constraints
  rw [length, pattern]
  cases size : f.size with
  | none => rfl
  | some s => simp [Nat.not_lt.1 (straight s size)]

theorem exists_fault_of_isFaulty (h : f.IsFaulty) : ∃ fault, f.constraints = .error fault := by
  unfold constraints
  split
  · exact ⟨_, rfl⟩
  next long =>
  have pattern (size : ∀ s, f.size = some s → s.least ≤ s.most) :
      ∃ fault, constraints.compiled f = .error fault := by
    rcases h with ⟨c, column, zero⟩ | ⟨s, inverted, less⟩ | ⟨source, given, bad⟩
    · simp [column, zero] at long
    · exact absurd (size s inverted) (Nat.not_le.2 less)
    · exact ⟨.badPattern f.name, by simp [constraints.compiled, given, bad]⟩
  split
  · next s size =>
    split
    · exact ⟨_, rfl⟩
    · next straight => exact pattern fun t same => by cases size.symm.trans same; omega
  · next size => exact pattern fun t same => by cases size.symm.trans same

theorem constraints_eq_ok_iff : f.constraints = .ok c ↔ ¬f.IsFaulty ∧ c = f.stated := by
  constructor
  · intro h
    have sound : ¬f.IsFaulty := fun faulty => by
      obtain ⟨fault, error⟩ := exists_fault_of_isFaulty faulty
      cases h.symm.trans error
    exact ⟨sound, Except.ok.inj (h.symm.trans (constraints_of_not_isFaulty sound))⟩
  · rintro ⟨sound, rfl⟩
    exact constraints_of_not_isFaulty sound

theorem isEmpty_eq_false_iff (h : f.constraints = .ok c) : c.isEmpty = false ↔ f.Constrains := by
  obtain ⟨sound, rfl⟩ := constraints_eq_ok_iff.1 h
  have compiled : f.pattern.bind WholePattern.compile? = none ↔ f.pattern = none := by
    cases source : f.pattern with
    | none => simp
    | some p =>
      have readable : WholePattern.compile? p ≠ none := fun bad => sound (.inr (.inr ⟨p, source, bad⟩))
      simpa using readable
  have empty : f.stated.isEmpty ↔ ¬f.Constrains := by
    -- A date is tagged one way or the other, so one of the two tags is always there.
    have tagged : (f.valueType? == some .date && f.dateDisplay != some .dateTime) = true ∨
        (f.valueType? == some .date && f.dateDisplay == some .dateTime) = true ↔
          f.valueType? = some .date := by
      by_cases time : f.dateDisplay = some .dateTime <;> simp [time]
    simp only [Constraints.isEmpty, stated, constraintsWith, beq_iff_eq, Constraints.mk.injEq, Constrains,
      not_or, compiled, ← tagged, List.mem_cons, List.not_mem_nil, or_false, Bool.not_eq_true,
      beq_eq_false_iff_ne, ne_eq, Option.isSome_eq_false_iff, Option.isNone_iff_eq_none, and_assoc]
  rw [← not_iff_not, ← empty]
  simp

/-- The rules that a field adds: under the name of a reference's id, and under its own. -/
def rules (f : Field) : RuleSet :=
  if f.isUnruled || f.stated.isEmpty then []
  else (if f.isReference then [(f.name ++ ".id", f.stated)] else []) ++ [(f.name, f.stated)]

theorem key_of_mem_rules {rule : String × Constraints} (h : rule ∈ f.rules) :
    rule.1 = f.name ∨ f.isReference ∧ rule.1 = f.name ++ ".id" := by
  unfold rules at h
  split at h
  · cases h
  · rcases List.mem_append.1 h with h | h
    · split at h
      · next reference => exact .inr ⟨reference, congrArg Prod.fst (List.mem_singleton.1 h)⟩
      · cases h
    · exact .inl (congrArg Prod.fst (List.mem_singleton.1 h))

end Field

namespace RuleSet

variable {rules : RuleSet} {fields others : List Field} {f g : Field}

/-- The names are distinct, and none of them holds a dot. -/
structure Plain (fields : List Field) : Prop where
  distinct : (fields.map Field.name).Nodup
  dotless : ∀ f ∈ fields, '.' ∉ f.name.toList

theorem Plain.tail (h : Plain (f :: fields)) : Plain fields :=
  ⟨(List.nodup_cons.1 h.distinct).2, fun g hg => h.dotless g (List.mem_cons_of_mem _ hg)⟩

theorem Plain.perm (h : Plain fields) (perm : others.Perm fields) : Plain others :=
  ⟨(perm.map _).nodup_iff.2 h.distinct, fun f hf => h.dotless f (perm.mem_iff.1 hf)⟩

theorem ne_id {name : String} (dotless : '.' ∉ name.toList) (other : String) :
    name ≠ other ++ ".id" := by
  rintro rfl
  simp at dotless

theorem keys_ne (distinct : f.name ≠ g.name) (dotless : '.' ∉ f.name.toList)
    (plain : '.' ∉ g.name.toList) {a b : String × Constraints} (ha : a ∈ f.rules) (hb : b ∈ g.rules) :
    a.1 ≠ b.1 := by
  intro same
  rcases Field.key_of_mem_rules ha with own | ⟨_, own⟩ <;>
    rcases Field.key_of_mem_rules hb with other | ⟨_, other⟩ <;> rw [own, other] at same
  · exact distinct same
  · exact ne_id dotless _ same
  · exact ne_id plain _ same.symm
  · exact distinct (String.append_left_inj _ |>.1 same)

theorem nodup_keys (plain : Plain fields) :
    ((fields.flatMap Field.rules).map Prod.fst).Nodup := by
  rw [List.map_flatMap, List.nodup_flatMap]
  refine ⟨fun f hf => ?_, ?_⟩
  · have apart := ne_id (plain.dotless f hf) f.name
    unfold Field.rules
    split
    · exact .nil
    · split <;> simp [apart.symm]
  · have distinct := List.pairwise_map.1 plain.distinct
    refine List.Pairwise.imp_of_mem (fun {f g} hf hg apart => ?_) distinct
    intro key hkey hother
    obtain ⟨a, ha, rfl⟩ := List.mem_map.1 hkey
    obtain ⟨b, hb, same⟩ := List.mem_map.1 hother
    exact keys_ne apart (plain.dotless f hf) (plain.dotless g hg) ha hb same.symm

theorem add_eq_putAll (fresh : Entries.get? f.name rules = none) (dotless : '.' ∉ f.name.toList)
    (ruled : f.isUnruled = false) : rules.add f f.stated = Entries.putAll rules f.rules := by
  have other := ne_id dotless f.name
  unfold add Field.rules
  rw [ruled, Bool.false_or]
  split
  · rfl
  · cases f.isReference with
    | false => simp [Entries.putNew, fresh, Entries.putAll]
    | true => simp [Entries.putNew, Entries.get?_put_of_ne other, fresh, Entries.putAll]

theorem addAll_eq_putAll (plain : Plain fields)
    (sound : ∀ f ∈ fields, f.isUnruled = false → ¬f.IsFaulty)
    (fresh : ∀ f ∈ fields, Entries.get? f.name rules = none) :
    addAll rules fields = .ok (Entries.putAll rules (fields.flatMap Field.rules)) := by
  induction fields generalizing rules with
  | nil => rfl
  | cons f r ih =>
    have later : ∀ g ∈ r, g.isUnruled = false → ¬g.IsFaulty :=
      fun g hg => sound g (List.mem_cons_of_mem _ hg)
    have unknown : ∀ g ∈ r, Entries.get? g.name rules = none :=
      fun g hg => fresh g (List.mem_cons_of_mem _ hg)
    rw [addAll]
    split
    · next unruled =>
      have nothing : f.rules = [] := by simp [Field.rules, unruled]
      rw [List.flatMap_cons, nothing]
      exact ih plain.tail later unknown
    · next ruled =>
      have ruled := Bool.eq_false_iff.2 ruled
      have dotless := plain.dotless f List.mem_cons_self
      rw [Field.constraints_of_not_isFaulty (sound f List.mem_cons_self ruled)]
      dsimp only
      rw [add_eq_putAll (fresh f List.mem_cons_self) dotless ruled, List.flatMap_cons]
      refine (ih plain.tail later fun g hg => ?_).trans ?_
      · -- What the first field adds stands under no name of a later one.
        refine (Entries.get?_putAll_of_ne (fun rule hrule same => ?_) rules).trans (unknown g hg)
        rcases Field.key_of_mem_rules hrule with named | ⟨_, named⟩
        · exact (List.nodup_cons.1 plain.distinct).1
            (named ▸ same.symm ▸ List.mem_map_of_mem hg)
        · exact ne_id (plain.tail.dotless g hg) f.name (same.symm.trans named)
      · rw [Entries.putAll, Entries.putAll, Entries.putAll, List.foldl_append]

theorem addAll_of_isFaulty (ruled : f.isUnruled = false) (faulty : f.IsFaulty) (there : f ∈ fields)
    (rules : RuleSet) : ∃ fault, addAll rules fields = .error fault := by
  induction fields generalizing rules with
  | nil => cases there
  | cons g r ih =>
    rw [addAll]
    rcases List.mem_cons.1 there with rfl | there
    · obtain ⟨fault, error⟩ := Field.exists_fault_of_isFaulty faulty
      exact ⟨fault, by rw [ruled, error]; rfl⟩
    · split
      · exact ih there rules
      · split
        · exact ih there _
        · exact ⟨_, rfl⟩

/-- What the rules of some fields tell: there is one under the name of each field that a declaration
constrains, with just these constraints, the same one under the name of a reference's id, and no other. -/
structure Tells (rules : RuleSet) (fields : List Field) : Prop where
  ordered : Entries.Ordered rules
  own : ∀ f ∈ fields, ∀ c, Entries.get? f.name rules = some c ↔
    f.isUnruled = false ∧ f.Constrains ∧ f.constraints = .ok c
  reference : ∀ f ∈ fields, f.isReference →
    Entries.get? (f.name ++ ".id") rules = Entries.get? f.name rules
  only : ∀ rule ∈ rules, ∃ f ∈ fields, rule.1 = f.name ∨ f.isReference ∧ rule.1 = f.name ++ ".id"

theorem own_mem_rules (sound : f.isUnruled = false → ¬f.IsFaulty) (dotless : '.' ∉ f.name.toList)
    {c : Constraints} : (f.name, c) ∈ f.rules ↔
      f.isUnruled = false ∧ f.Constrains ∧ f.constraints = .ok c := by
  have apart := ne_id dotless f.name
  unfold Field.rules
  cases ruled : f.isUnruled with
  | true => simp
  | false =>
    have stated := Field.constraints_of_not_isFaulty (sound ruled)
    rw [← Field.isEmpty_eq_false_iff stated, stated]
    cases f.stated.isEmpty <;> cases f.isReference <;> simp [apart, eq_comm]

theorem reference_mem_rules (reference : f.isReference) (dotless : '.' ∉ f.name.toList)
    {c : Constraints} : (f.name ++ ".id", c) ∈ f.rules ↔ (f.name, c) ∈ f.rules := by
  have apart := ne_id dotless f.name
  unfold Field.rules
  rw [reference]
  split <;> simp [apart, apart.symm]

theorem mem_flatMap_rules (plain : Plain fields) (hf : f ∈ fields) {key : String}
    (owned : key = f.name ∨ key = f.name ++ ".id") {c : Constraints} :
    (key, c) ∈ fields.flatMap Field.rules ↔ (key, c) ∈ f.rules := by
  rw [List.mem_flatMap]
  refine ⟨fun ⟨g, hg, there⟩ => ?_, fun there => ⟨f, hf, there⟩⟩
  have names : f.name = g.name := by
    rcases owned with rfl | rfl <;> rcases Field.key_of_mem_rules there with same | ⟨_, same⟩
    · exact same
    · exact absurd same (ne_id (plain.dotless f hf) g.name)
    · exact absurd same.symm (ne_id (plain.dotless g hg) f.name)
    · exact String.append_left_inj _ |>.1 same
  rwa [List.inj_on_of_nodup_map plain.distinct hf hg names]

theorem tells_putAll (plain : Plain fields)
    (sound : ∀ f ∈ fields, f.isUnruled = false → ¬f.IsFaulty) :
    Tells (Entries.putAll [] (fields.flatMap Field.rules)) fields := by
  have found {key : String} {c : Constraints} :
      Entries.get? key (Entries.putAll [] (fields.flatMap Field.rules)) = some c ↔
        (key, c) ∈ fields.flatMap Field.rules := Entries.get?_putAll_eq_some_iff (nodup_keys plain)
  refine ⟨Entries.Ordered.putAll List.Pairwise.nil _, fun f hf c => ?_, fun f hf reference => ?_,
    fun rule hrule => ?_⟩
  · rw [found, mem_flatMap_rules plain hf (.inl rfl),
      own_mem_rules (sound f hf) (plain.dotless f hf)]
  · refine Option.ext fun c => ?_
    rw [found, found, mem_flatMap_rules plain hf (.inl rfl), mem_flatMap_rules plain hf (.inr rfl)]
    exact reference_mem_rules reference (plain.dotless f hf)
  · obtain ⟨f, hf, there⟩ := List.mem_flatMap.1
      ((Entries.mem_putAll hrule).resolve_right List.not_mem_nil)
    exact ⟨f, hf, Field.key_of_mem_rules there⟩

theorem compile_of_sound {s : Schema} (plain : Plain s.declared)
    (sound : ∀ f ∈ s.declared, f.isUnruled = false → ¬f.IsFaulty) :
    compile s = .ok (Entries.putAll [] (s.declared.flatMap Field.rules)) :=
  addAll_eq_putAll plain sound fun _ _ => rfl

theorem sound_of_compile {s : Schema} (h : compile s = .ok rules) :
    ∀ f ∈ s.declared, f.isUnruled = false → ¬f.IsFaulty := by
  intro f hf ruled faulty
  obtain ⟨fault, error⟩ := addAll_of_isFaulty ruled faulty hf []
  cases h.symm.trans error

theorem ofSchema_of_isFaulty {s : Schema} (ruled : f.isUnruled = false) (faulty : f.IsFaulty)
    (hf : f ∈ s.declared) : ofSchema s = [] := by
  obtain ⟨fault, error⟩ := addAll_of_isFaulty ruled faulty hf []
  rw [ofSchema, compile, error]

/-- In any order, and in whatever layers, the same fields give the same rules. -/
theorem ofSchema_perm {s t : Schema} (plain : Plain s.declared) (perm : t.declared.Perm s.declared) :
    ofSchema t = ofSchema s := by
  by_cases sound : ∀ f ∈ s.declared, f.isUnruled = false → ¬f.IsFaulty
  · have soundT : ∀ f ∈ t.declared, f.isUnruled = false → ¬f.IsFaulty :=
      fun f hf => sound f (perm.mem_iff.1 hf)
    have plainT := plain.perm perm
    rw [ofSchema, ofSchema, compile_of_sound plain sound, compile_of_sound plainT soundT]
    exact Entries.putAll_perm (nodup_keys plainT) (perm.flatMap_right _) []
  · push Not at sound
    obtain ⟨f, hf, ruled, faulty⟩ := sound
    rw [ofSchema_of_isFaulty ruled faulty hf,
      ofSchema_of_isFaulty ruled faulty (perm.mem_iff.2 hf)]

theorem plain_declared {s : Schema} (distinct : (s.fields.map Field.name).Nodup)
    (dotless : ∀ f ∈ s.fields, '.' ∉ f.name.toList) : Plain s.declared := by
  have part : s.declared.Sublist s.fields := by
    have whole := List.dropLast_append_getLast (show s.lineage ≠ [] by simp [Schema.lineage])
    rw [Schema.fields, ← whole, List.flatMap_append]
    exact List.sublist_append_left ..
  exact ⟨distinct.sublist (part.map _), fun f hf => dotless f (part.subset hf)⟩

/-- If the names of all fields are distinct and hold no dot, the rules of a schema are those of its
declarations, wherever these stand; and one that makes no sense leaves no rules. -/
theorem ofSchema_tells_declarations {s : Schema} (distinct : (s.fields.map Field.name).Nodup)
    (dotless : ∀ f ∈ s.fields, '.' ∉ f.name.toList) :
    (∀ t : Schema, t.declared.Perm s.declared → ofSchema t = ofSchema s) ∧
      (∀ rules, compile s = .ok rules → ofSchema s = rules ∧ rules.Tells s.declared) ∧
      ((∃ rules, compile s = .ok rules) ↔
        ∀ f ∈ s.declared, f.isUnruled = false → ¬f.IsFaulty) ∧
      ((∃ f ∈ s.declared, f.isUnruled = false ∧ f.IsFaulty) → ofSchema s = []) := by
  have plain := plain_declared distinct dotless
  refine ⟨fun t perm => ofSchema_perm plain perm, fun rules h => ?_,
    ⟨fun ⟨rules, h⟩ => sound_of_compile h, fun sound => ⟨_, compile_of_sound plain sound⟩⟩,
    fun ⟨f, hf, ruled, faulty⟩ => ofSchema_of_isFaulty ruled faulty hf⟩
  have sound := sound_of_compile h
  have same := Except.ok.inj (h.symm.trans (compile_of_sound plain sound))
  refine ⟨by rw [ofSchema, h], ?_⟩
  rw [same]
  exact tells_putAll plain sound

def turnedUsers : Schema :=
  Schema.root.extend ⟨"user", "User", User.schema.declared.reverse⟩

theorem turned_users_keep_rules :
    (User.schema.fields.map Field.name).Nodup ∧ (∀ f ∈ User.schema.fields, '.' ∉ f.name.toList) ∧
      ofSchema turnedUsers = ofSchema User.schema ∧
      (ofSchema User.schema).Tells User.schema.declared := by
  have distinct : (User.schema.fields.map Field.name).Nodup := by decide +kernel
  have dotless : ∀ f ∈ User.schema.fields, '.' ∉ f.name.toList := by decide +kernel
  have turned : turnedUsers.declared.Perm User.schema.declared := by
    rw [turnedUsers, Schema.declared_extend]
    exact (List.append_nil _ ▸ List.reverse_perm _)
  have compiled : compile User.schema = .ok (ofSchema User.schema) := by rfl
  obtain ⟨anywhere, told, _⟩ := ofSchema_tells_declarations distinct dotless
  exact ⟨distinct, dotless, anywhere _ turned, (told _ compiled).2⟩

end RuleSet
end Registrar
