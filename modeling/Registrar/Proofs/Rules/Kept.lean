import Registrar.Proofs.Rules.Declared
import Registrar.Rules.Check

/-!
What an accepted record keeps to. Main statement: the value of each checked field that the record has no
rules of another one for is there if the declaration asks for it, and unless it is blank it is as long as
the declaration says, and has the form it says.
-/

namespace Registrar

namespace Field

variable {f : Field} {label text : String}

/-- A text that is not blank is as the declaration asks: it has the stated form, its length lies within the
stated size, and without a greatest size a column for short texts has room for it. -/
structure Admits (f : Field) (text : String) : Prop where
  column : ∀ c, f.column = some c → f.valueType? = some .text → c.lob = false →
    (∀ s, f.size = some s → Number.maxWord32 ≤ s.most) → text.toList.length ≤ c.length
  size : ∀ s, f.size = some s → s.least ≤ text.toList.length ∧ text.toList.length ≤ s.most
  pattern : ∀ source, f.pattern = some source →
    ∃ w, WholePattern.compile? source = some w ∧ w.matches? text
  email : f.isEmail → looksLikeEmail text

/-- What may not be missing is there, and what is there is as the declaration asks. -/
structure Respects (f : Field) (text : String) : Prop where
  column : ∀ c, f.column = some c → c.nullable = false → f.valueType? ≠ some .boolean →
    Text.allBlank text = false
  join : f.joinNullable = some false → Text.allBlank text = false
  filled : Text.allBlank text = false → f.Admits text

theorem maxLength_eq_of_size {s : SizeBounds} (size : f.size = some s) (bound : s.most < Number.maxWord32) :
    f.maxLength = some s.most := by
  rw [maxLength, size]
  exact if_pos bound

theorem maxLength_eq_of_column {c : Column} (column : f.column = some c)
    (short : f.valueType? = some .text) (lob : c.lob = false)
    (unbound : ∀ s, f.size = some s → Number.maxWord32 ≤ s.most) : f.maxLength = some c.length := by
  have room : (if f.valueType? == some .text && !c.lob then some c.length else none) = some c.length := by
    simp [short, lob]
  unfold maxLength
  rw [column]
  cases size : f.size with
  | none => exact room
  | some s => exact (if_neg (Nat.not_lt.2 (unbound s size))).trans room

theorem isRequired_of_column {c : Column} (column : f.column = some c) (needed : c.nullable = false)
    (kind : f.valueType? ≠ some .boolean) : f.isRequired := by
  simp [isRequired, column, needed, kind]

theorem isRequired_of_join (needed : f.joinNullable = some false) : f.isRequired := by
  simp [isRequired, needed]

/-- A text of fewer than 2 ^ 32 characters that violates nothing stated is as the declaration asks. -/
theorem admits_of_violations (sound : ¬f.IsFaulty)
    (short : text.toList.length ≤ Number.maxWord32)
    (none : f.stated.violations label text = []) : f.Admits text := by
  have counted : text.toList.length % (Number.maxWord32 + 1) = text.toList.length :=
    Nat.mod_eq_of_lt (Nat.lt_succ_of_le short)
  simp only [Constraints.violations, counted, List.append_eq_nil_iff] at none
  obtain ⟨⟨⟨most, least⟩, email⟩, pattern⟩ := none
  have atMost {n : Nat} (bound : f.maxLength = some n) : text.toList.length ≤ n := by
    have stated : f.stated.maxLength = some n := bound
    rw [stated] at most
    simpa using most
  refine ⟨fun c column kind lob unbound => atMost (maxLength_eq_of_column column kind lob unbound),
    fun s size => ⟨?_, ?_⟩, fun source given => ?_, fun asked => ?_⟩
  · by_cases positive : 0 < s.least
    · have stated : f.stated.minLength = some s.least := by
        simp [Field.stated, constraintsWith, minLength, size, positive]
      rw [stated] at least
      simpa using least
    · exact Nat.le_trans (Nat.not_lt.1 positive) (Nat.zero_le _)
  · by_cases bound : s.most < Number.maxWord32
    · exact atMost (maxLength_eq_of_size size bound)
    · exact Nat.le_trans short (Nat.not_lt.1 bound)
  · have readable : WholePattern.compile? source ≠ Option.none :=
      fun bad => sound (.inr (.inr ⟨source, given, bad⟩))
    obtain ⟨w, compiled⟩ := Option.ne_none_iff_exists'.1 readable
    have stated : f.stated.pattern = some w := by
      simp [Field.stated, constraintsWith, given, compiled]
    rw [stated] at pattern
    exact ⟨w, compiled, by simpa using pattern⟩
  · have stated : f.stated.isEmail = true := asked
    rw [stated] at email
    simpa using email

theorem respects_of_check (sound : ¬f.IsFaulty) (short : text.toList.length ≤ Number.maxWord32)
    (passed : f.stated.check label text = []) : f.Respects text := by
  have present (needed : f.isRequired) : Text.allBlank text = false := by
    refine Bool.eq_false_iff.2 fun blank => ?_
    have stated : f.stated.required = true := needed
    simp [Constraints.check, blank, stated] at passed
  refine ⟨fun c column needed kind => present (isRequired_of_column column needed kind),
    fun needed => present (isRequired_of_join needed), fun filled => ?_⟩
  rw [Constraints.check, filled] at passed
  exact admits_of_violations sound short passed

end Field

namespace RuleSet

variable {rules : RuleSet} {fields : List Field} {f : Field} {key : String} {c : Constraints}

theorem ne_id_of_not_isForClients (own : isForClients key = false) (name : String) :
    key ≠ name ++ ".id" := by
  rintro rfl
  rw [isForClients, String.toList_append] at own
  exact absurd (List.isSuffixOf_iff_suffix.2 (List.suffix_append ..)) (Bool.eq_false_iff.1 own)

theorem get?_add (own : isForClients key = false) :
    Entries.get? key (rules.add f c) =
      (Entries.get? key rules).or (if c.isEmpty = false ∧ f.name = key then some c else none) := by
  have apart := ne_id_of_not_isForClients own f.name
  unfold add
  cases c.isEmpty with
  | true => simp
  | false =>
    have kept : Entries.get? key
        (if f.isReference then Entries.put (f.name ++ ".id") c rules else rules) =
          Entries.get? key rules := by
      split
      · exact Entries.get?_put_of_ne apart c rules
      · rfl
    rw [if_neg Bool.false_ne_true, Entries.putNew, ← kept]
    by_cases named : f.name = key
    · subst named
      split
      · next there => simp [there]
      · next missing => simp [missing, Entries.get?_put_self]
    · split
      · simp [named]
      · simp [named, Entries.get?_put_of_ne (Ne.symm named)]

/-- The constraints that a checked field states under a name. -/
def stated? (key : String) (f : Field) : Option Constraints :=
  if f.isUnruled = false ∧ f.stated.isEmpty = false ∧ f.name = key then some f.stated else none

theorem get?_addAll {out : RuleSet} (h : addAll rules fields = .ok out)
    (own : isForClients key = false) :
    Entries.get? key out = (Entries.get? key rules).or (fields.findSome? (stated? key)) := by
  induction fields generalizing rules with
  | nil =>
    cases h
    simp
  | cons f r ih =>
    rw [addAll] at h
    rw [List.findSome?_cons]
    split at h
    · next unruled =>
      have silent : stated? key f = none := by simp [stated?, unruled]
      rw [ih h, silent]
    · next ruled =>
      split at h
      · next c stated =>
        obtain ⟨_, rfl⟩ := Field.constraints_eq_ok_iff.1 stated
        have first : (if f.stated.isEmpty = false ∧ f.name = key then some f.stated else none) =
            stated? key f := by simp [stated?, ruled]
        rw [ih h, get?_add own, first, Option.or_assoc]
        cases stated? key f <;> rfl
      · cases h

theorem findSome?_stated? {front rest : List Field} (ruled : f.isUnruled = false)
    (first : ∀ g ∈ front, g.name = f.name → g.isUnruled = false → g.stated.isEmpty)
    (states : f.stated.isEmpty = false) :
    (front ++ f :: rest).findSome? (stated? f.name) = some f.stated := by
  have silent : front.findSome? (stated? f.name) = none := by
    refine List.findSome?_eq_none_iff.2 fun g hg => if_neg fun ⟨ruled, states, named⟩ => ?_
    exact absurd (first g hg named ruled) (Bool.eq_false_iff.1 states)
  have speaks : stated? f.name f = some f.stated := if_pos ⟨ruled, states, rfl⟩
  rw [List.findSome?_append, silent, Option.none_or, List.findSome?_cons, speaks]

theorem check_of_isEmpty (empty : c.isEmpty) (label text : String) : c.check label text = [] := by
  rw [eq_of_beq empty]
  simp [Constraints.check, Constraints.violations]

/-- A record that the rules of a schema accept respects the declaration of each checked field, if its name
does not end in `.id`, no field of its name in front of it is constrained, and its text has fewer than
2 ^ 32 characters. -/
theorem accepted_respects_declarations {s : Schema} (compiled : compile s = .ok rules) {t : Schema}
    {record : Json.Value} (accepted : rules.validate t record = .ok ()) {front rest : List Field}
    (declared : s.declared = front ++ f :: rest) (ruled : f.isUnruled = false)
    (own : isForClients f.name = false)
    (first : ∀ g ∈ front, g.name = f.name → g.isUnruled = false → ¬g.Constrains)
    (short : (valueText record f.name).toList.length ≤ Number.maxWord32) :
    f.Respects (valueText record f.name) := by
  have sound := sound_of_compile compiled
  have there : f ∈ s.declared := declared ▸ List.mem_append_right _ List.mem_cons_self
  suffices passed : ∃ label, f.stated.check label (valueText record f.name) = [] from
    passed.elim fun _ passed => Field.respects_of_check (sound f there ruled) short passed
  cases states : f.stated.isEmpty with
  | true => exact ⟨"", check_of_isEmpty states ..⟩
  | false =>
    have silent : ∀ g ∈ front, g.name = f.name → g.isUnruled = false → g.stated.isEmpty := by
      intro g hg named checked
      have before : g ∈ s.declared := declared ▸ List.mem_append_left _ hg
      have stated := Field.constraints_of_not_isFaulty (sound g before checked)
      refine Bool.of_not_eq_false fun states => first g hg named checked ?_
      exact (Field.isEmpty_eq_false_iff stated).1 states
    have entry : Entries.get? f.name rules = some f.stated := by
      rw [get?_addAll compiled own, declared, findSome?_stated? ruled silent states]
      rfl
    have passed := List.flatMap_eq_nil_iff.1 (validate_eq_ok_iff.1 accepted) _
      (Entries.mem_of_get? entry)
    simp only [own, Bool.false_eq_true, if_false] at passed
    exact ⟨_, passed⟩

def mail : Field :=
  { Field.text "mail" "Mail" with
    column := some { nullable := false, length := 20 }
    size := some ⟨3, 12⟩
    isEmail := true
    pattern := some "[a-z@.]+" }

def cards : Schema := Schema.root.extend ⟨"card", "Card", [mail]⟩

theorem cards_respect_mail :
    ∃ rules, cards.declared = [mail] ∧ compile cards = .ok rules ∧
      rules.validate cards (.object [("mail", .text "ann@home.org")]) = .ok () ∧
      mail.Respects "ann@home.org" := by
  have compiled : compile cards = .ok (ofSchema cards) := by decide +kernel
  have accepted : (ofSchema cards).validate cards (.object [("mail", .text "ann@home.org")]) = .ok () :=
    validate_eq_ok_iff.2 (by decide +kernel)
  have first : ∀ g ∈ ([] : List Field), g.name = "mail" → g.isUnruled = false → ¬g.Constrains := by simp
  have alone : cards.declared = [] ++ mail :: [] := rfl
  exact ⟨_, rfl, compiled, accepted,
    accepted_respects_declarations compiled accepted alone rfl (by decide +kernel) first (by decide)⟩

def short (name : String) (length : Nat) : Field :=
  { Field.text name name with column := some { length } }

/-- Tags with short columns: a size allows for more, a name ends in `.id`, and one name comes twice. -/
def tags : Schema :=
  Schema.root.extend ⟨"tag", "Tag",
    [short "code" 5, { short "mark" 5 with size := some ⟨0, 10⟩ }, short "part.id" 5, short "note" 10,
      short "note" 5]⟩

def tagRules : RuleSet :=
  [("code", { maxLength := some 5 }), ("mark", { maxLength := some 10 }),
    ("note", { maxLength := some 10 }), ("part.id", { maxLength := some 5 })]

def longTag : Json.Value :=
  .object [("code", .text "      "), ("mark", .text "abcdefgh"), ("note", .text "abcdefgh"),
    ("part.id", .text "abcdefgh")]

def letters (n : Nat) : String := String.ofList (List.replicate n 'a')

theorem length_letters (n : Nat) : (letters n).toList.length = n := by simp [letters]

theorem allBlank_letters {n : Nat} (filled : n ≠ 0) : Text.allBlank (letters n) = false := by
  have letter : Text.isBlank 'a' = false := by decide
  simp [Text.allBlank, letters, letter, filled]

theorem tagRules_admit_letters {n : Nat} (filled : n ≠ 0) (few : n % (Number.maxWord32 + 1) ≤ 5) :
    tagRules.validate tags (.object [("code", .text (letters n))]) = .ok () := by
  have code (label : String) : Constraints.check { maxLength := some 5 } label (letters n) = [] := by
    simp [Constraints.check, Constraints.violations, allBlank_letters filled, length_letters, few]
  have own : isForClients "code" = false := by decide +kernel
  refine validate_eq_ok_iff.2 (List.append_eq_nil_iff.2 ⟨?_, rfl⟩)
  simp only [own, Bool.false_eq_true, if_false]
  exact code _

/-- A blank text, a greater size, a name for clients, a field behind another of its name and a text of more
than 2 ^ 32 characters are not held to the column's length. -/
theorem tags_outgrow_columns :
    ∃ rules, compile tags = .ok rules ∧
      rules.validate tags longTag = .ok () ∧
      (∀ f ∈ [short "code" 5, { short "mark" 5 with size := some ⟨0, 10⟩ }, short "part.id" 5,
          short "note" 5],
        f ∈ tags.declared ∧ f.isUnruled = false ∧ f.valueType? = some .text ∧
          f.column = some { length := 5, lob := false } ∧
          5 < (valueText longTag f.name).toList.length) ∧
      rules.validate tags (.object [("code", .text (letters (Number.maxWord32 + 2)))]) = .ok () ∧
      5 < (letters (Number.maxWord32 + 2)).toList.length := by
  have compiled : compile tags = .ok tagRules := by decide +kernel
  have accepted : tagRules.validate tags longTag = .ok () := validate_eq_ok_iff.2 (by decide +kernel)
  have counted : (Number.maxWord32 + 2) % (Number.maxWord32 + 1) ≤ 5 := by decide
  refine ⟨_, compiled, accepted, by decide +kernel, tagRules_admit_letters (by decide) counted, ?_⟩
  rw [length_letters]
  decide

end RuleSet
end Registrar
