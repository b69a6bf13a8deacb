import Registrar.Identifier
import Registrar.Proofs.Number.Decimal
import Registrar.Proofs.Text.Blank

/-!
Numbers as identifiers. Main statement: without the blanks at its ends, a text that is empty, has a minus in
front or is a zero names no record; digits behind an optional plus name the record of their number, if that
fits into 63 bits; and any other text is refused, with the text.
-/

namespace Registrar.Identifier

open Number

section Generic

variable {I : Type} [Identifier I] {s : String}

theorem resolve_of_absent (h : Text.trim s = "" ∨ (Text.trim s).toList.head? = some '-') :
    resolve (I := I) (some s) = .ok none := by
  unfold resolve
  dsimp only
  split
  · rfl
  · rfl
  · next filled unsigned =>
    rcases h with empty | minus
    · exact absurd (String.toList_eq_nil_iff.2 empty) filled
    · obtain ⟨r, shown⟩ := List.head?_eq_some_iff.1 minus
      exact absurd shown (unsigned r)

theorem resolve_of_filled (filled : Text.trim s ≠ "")
    (unsigned : (Text.trim s).toList.head? ≠ some '-') : resolve (I := I) (some s) =
      (parse (Text.trim s)).map fun id => if isUnset id then none else some id := by
  unfold resolve
  dsimp only
  split
  · next empty => exact absurd (String.toList_eq_nil_iff.1 empty) filled
  · next minus => simp [minus] at unsigned
  · cases parse (I := I) (Text.trim s) <;> rfl

end Generic

variable {s t : String}

theorem parse_number_eq_ok_iff {n : Int} :
    parse t = .ok n ↔ readSigned maxInt64 t.toList = .ok n := by
  simp only [parse]
  cases readSigned maxInt64 t.toList <;> simp

theorem malformed_of_parse {fault : Error} (h : parse (I := Int) t = .error fault) :
    ∃ reason, fault = .malformedIdentifier t reason := by
  simp only [parse] at h
  split at h
  · cases h
  · cases h
    exact ⟨_, rfl⟩

/-- The text is empty, has a minus in front, or consists of zeros behind an optional plus. -/
def NamesNone (t : String) : Prop :=
  t = "" ∨ t.toList.head? = some '-' ∨
    ∃ k, 0 < k ∧ (t.toList = List.replicate k '0' ∨ t.toList = '+' :: List.replicate k '0')

/-- The text consists of digits behind an optional plus, and their number is one of 63 bits above zero. -/
def NamesNumber (t : String) (n : Nat) : Prop := IsNumeral t.toList n ∧ 1 ≤ n ∧ n ≤ maxInt64

theorem NamesNumber.filled {n : Nat} (h : NamesNumber t n) : t ≠ "" := by
  rintro rfl
  obtain ⟨⟨ds, empty, decimal⟩, _⟩ := h
  rcases empty with empty | plus
  · exact decimal.filled empty.symm
  · cases plus

theorem NamesNumber.not_namesNone {n : Nat} (h : NamesNumber t n) : ¬NamesNone t := by
  rintro (empty | minus | zeros)
  · exact h.filled empty
  · exact h.1.unsigned minus
  · have zero := h.1.value_unique (isNumeral_zero_iff.2 zeros)
    have := h.2.1
    omega

/-- What a text is resolved to: nothing, its number, or an error about its trimmed form. -/
inductive ResolvesTo (t : String) : Except Error (Option Int) → Prop
  | absent (names : NamesNone t) : ResolvesTo t (.ok none)
  | named (n : Nat) (names : NamesNumber t n) : ResolvesTo t (.ok (some n))
  | malformed (reason : String) (filled : ¬NamesNone t) (other : ∀ n, ¬NamesNumber t n) :
      ResolvesTo t (.error (.malformedIdentifier t reason))

namespace ResolvesTo

variable {answer : Except Error (Option Int)}

theorem eq_none_iff (h : ResolvesTo t answer) : answer = .ok none ↔ NamesNone t := by
  cases h with
  | absent names => simp [names]
  | named n names => simp [names.not_namesNone]
  | malformed _ filled _ => simp [filled]

theorem eq_number_iff (h : ResolvesTo t answer) {id : Int} :
    answer = .ok (some id) ↔ ∃ n : Nat, id = n ∧ NamesNumber t n := by
  cases h with
  | absent names => exact ⟨nofun, fun ⟨_, _, number⟩ => absurd names number.not_namesNone⟩
  | named n names =>
    constructor
    · rintro ⟨⟩
      exact ⟨n, rfl, names⟩
    · rintro ⟨m, rfl, names'⟩
      rw [names.1.value_unique names'.1]
  | malformed _ _ other => exact ⟨nofun, fun ⟨n, _, names⟩ => absurd names (other n)⟩

theorem eq_malformed_iff (h : ResolvesTo t answer) :
    (∃ reason, answer = .error (.malformedIdentifier t reason)) ↔
      ¬NamesNone t ∧ ∀ n, ¬NamesNumber t n := by
  cases h with
  | absent names => exact ⟨nofun, fun ⟨filled, _⟩ => absurd names filled⟩
  | named n names => exact ⟨nofun, fun ⟨_, other⟩ => absurd names (other n)⟩
  | malformed reason filled other => exact ⟨fun _ => ⟨filled, other⟩, fun _ => ⟨reason, rfl⟩⟩

end ResolvesTo

theorem resolvesTo_resolve (s : String) : ResolvesTo (Text.trim s) (resolve (some s)) := by
  by_cases absent : Text.trim s = "" ∨ (Text.trim s).toList.head? = some '-'
  · rw [resolve_of_absent absent]
    exact .absent (absent.elim .inl fun minus => .inr (.inl minus))
  · obtain ⟨filled, unsigned⟩ := not_or.1 absent
    rw [resolve_of_filled filled unsigned]
    have reads {n : Nat} (numeral : IsNumeral (Text.trim s).toList n) (within : n ≤ maxInt64) :
        parse (I := Int) (Text.trim s) = .ok n :=
      parse_number_eq_ok_iff.2 ((readSigned_eq_ok_iff_of_unsigned unsigned).2
        ⟨n, numeral, within, rfl⟩)
    cases read : parse (I := Int) (Text.trim s) with
    | ok id =>
      obtain ⟨n, numeral, within, rfl⟩ :=
        (readSigned_eq_ok_iff_of_unsigned unsigned).1 (parse_number_eq_ok_iff.1 read)
      rcases Nat.eq_zero_or_pos n with rfl | positive
      · exact .absent (.inr (.inr (isNumeral_zero_iff.1 numeral)))
      · have isSet : isUnset (n : Int) = false := by
          simp only [isUnset, decide_eq_false_iff_not]
          omega
        rw [Except.map, isSet]
        exact .named n ⟨numeral, positive, within⟩
    | error fault =>
      obtain ⟨reason, rfl⟩ := malformed_of_parse read
      refine .malformed reason ?_ fun n names => ?_
      · rintro (empty | minus | zeros)
        · exact filled empty
        · exact unsigned minus
        · cases read.symm.trans (reads (isNumeral_zero_iff.2 zeros) (Nat.zero_le _))
      · cases read.symm.trans (reads names.1 names.2.2)

/-- The text of a number between blanks, with any zeros in front, names that number. -/
theorem namesNumber_trim {n k : Nat} {front back : List Char} (positive : 1 ≤ n)
    (within : n ≤ maxInt64) (blank : ∀ c ∈ front ++ back, Text.isBlank c)
    (shown : s.toList = front ++ (List.replicate k '0' ++ (natText n).toList) ++ back) :
    NamesNumber (Text.trim s) n := by
  have decimal := isDecimal_natText k n
  have plain := Text.trim_of_no_blanks (s := String.ofList (List.replicate k '0' ++ (natText n).toList))
    fun c hc => not_isBlank_of_isDigit (decimal.digits c (by simpa using hc))
  have trimmed : (Text.trim s).toList = List.replicate k '0' ++ (natText n).toList := by
    rw [Text.toList_trim, shown, Text.trimmed_append_blanks fun c hc => blank c (by simp [hc]),
      Text.trimmed_blanks_append fun c hc => blank c (by simp [hc])]
    simpa [Text.trim] using congrArg String.toList plain
  refine ⟨?_, positive, within⟩
  rw [trimmed]
  exact ⟨_, .inl rfl, decimal⟩

/-- A text names no record, or that of a number, or is refused, by its form alone; and each number is what
its text is resolved to, whatever zeros stand in front of it and whatever blanks around them. -/
theorem numbers_resolved (s : String) :
    (resolve (I := Int) (some s) = .ok none ↔ NamesNone (Text.trim s)) ∧
    (∀ id : Int, resolve (some s) = .ok (some id) ↔ ∃ n : Nat, id = n ∧ NamesNumber (Text.trim s) n) ∧
    ((∃ reason, resolve (I := Int) (some s) = .error (.malformedIdentifier (Text.trim s) reason)) ↔
      ¬NamesNone (Text.trim s) ∧ ∀ n, ¬NamesNumber (Text.trim s) n) ∧
    ∀ (n k : Nat) (front back : List Char), 1 ≤ n → n ≤ maxInt64 →
      (∀ c ∈ front ++ back, Text.isBlank c) →
      s.toList = front ++ (List.replicate k '0' ++ (natText n).toList) ++ back →
      resolve (some s) = .ok (some (n : Int)) := by
  have resolved := resolvesTo_resolve s
  refine ⟨resolved.eq_none_iff, fun id => resolved.eq_number_iff, resolved.eq_malformed_iff, ?_⟩
  intro n k front back positive within blank shown
  exact resolved.eq_number_iff.2 ⟨n, rfl, namesNumber_trim positive within blank shown⟩

/-- The greatest number may have zeros in front, and zeros alone name no record. -/
theorem greatest_number_resolved :
    resolve (some "\t0009223372036854775807 ") = .ok (some (9223372036854775807 : Int)) ∧
      resolve (I := Int) (some "+00") = .ok none := by
  obtain ⟨_, _, _, padded⟩ := numbers_resolved "\t0009223372036854775807 "
  obtain ⟨absent, _⟩ := numbers_resolved "+00"
  refine ⟨?_, absent.2 (.inr (.inr ⟨2, by decide, .inr (by decide)⟩))⟩
  exact padded 9223372036854775807 3 ['\t'] [' '] (by decide) (by decide) (List.all_eq_true.1 rfl)
    (by decide)

end Registrar.Identifier
