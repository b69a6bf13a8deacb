import Registrar.Proofs.Distinct
import Registrar.Proofs.Identifier.Numeric
import Registrar.Proofs.Text.Pieces

/-!
Lists of identifiers in request values. Main statement: the tokens of a list of values are their filled
parts between commas, trimmed, each at its first place; it makes no difference how the parts are spread over
values, nor whether they are split once more, and further values add the tokens that are new; and the
identifiers are those of the tokens, each at its first place, unless a token is malformed.
-/

namespace Registrar.Identifier

open Text

def parts (raw : List String) : List String := raw.flatMap (filledParts ',')

variable {raw : List String} {token : String}

theorem split_eq (raw : List String) : split raw = (parts raw).eraseDups := by
  rw [split, parts, List.map_flatMap, List.filter_flatMap]
  rfl

theorem mem_split_iff : token ∈ split raw ↔ ∃ value ∈ raw, token ∈ filledParts ',' value := by
  rw [split_eq, List.mem_eraseDups, parts, List.mem_flatMap]

theorem isTrimmed_of_mem_split (h : token ∈ split raw) : IsTrimmed token := by
  obtain ⟨value, _, part⟩ := mem_split_iff.1 h
  exact isTrimmed_of_mem_filledParts part

theorem comma_not_mem_of_mem_split (h : token ∈ split raw) : ',' ∉ token.toList := by
  obtain ⟨value, _, part⟩ := mem_split_iff.1 h
  exact not_mem_of_mem_filledParts part

theorem parts_join (front rest : List String) (a b : String) :
    parts (front ++ (a ++ "," ++ b) :: rest) = parts (front ++ a :: b :: rest) := by
  have joined : filledParts ',' (a ++ "," ++ b) = filledParts ',' a ++ filledParts ',' b :=
    filledParts_join (by simp)
  simp [parts, joined]

theorem parts_split (raw : List String) : parts (split raw) = split raw := by
  have alone (tokens : List String) (h : ∀ t ∈ tokens, IsTrimmed t ∧ ',' ∉ t.toList) :
      parts tokens = tokens := by
    induction tokens with
    | nil => rfl
    | cons t r ih =>
      obtain ⟨trimmed, whole⟩ := h t List.mem_cons_self
      have rest := ih fun u hu => h u (List.mem_cons_of_mem _ hu)
      rw [parts] at rest ⊢
      rw [List.flatMap_cons, rest, filledParts_of_isTrimmed trimmed whole, List.singleton_append]
  exact alone _ fun t ht => ⟨isTrimmed_of_mem_split ht, comma_not_mem_of_mem_split ht⟩

theorem split_split (raw : List String) : split (split raw) = split raw := by
  rw [split_eq (split raw), parts_split, split_eq, eraseDups_of_nodup (nodup_eraseDups _)]

theorem split_append (raw more : List String) : split (raw ++ more) =
    split raw ++ (split more).filter fun token => !(split raw).contains token := by
  rw [split_eq, split_eq, split_eq, parts, List.flatMap_append, ← parts, ← parts,
    eraseDups_append_eq]

section Generic

variable {I : Type} [Identifier I]

theorem parseTokens_cases (tokens : List String) :
    (∃ found : List I, List.Forall₂ (fun t id => parse t = .ok id) tokens found ∧
      parseTokens tokens = .ok found) ∨
    ∃ front token rest fault, tokens = front ++ token :: rest ∧
      (∀ t ∈ front, ∃ id : I, parse t = .ok id) ∧ parse (I := I) token = .error fault ∧
      parseTokens (I := I) tokens = .error fault := by
  induction tokens with
  | nil => exact .inl ⟨[], .nil, rfl⟩
  | cons t r ih =>
    cases read : parse (I := I) t with
    | error fault =>
      exact .inr ⟨[], t, r, fault, rfl, nofun, read, by rw [parseTokens, read]⟩
    | ok id =>
      rcases ih with ⟨found, reads, all⟩ | ⟨front, token, rest, fault, rfl, before, malformed, failed⟩
      · exact .inl ⟨id :: found, .cons read reads, by simp [parseTokens, read, all]⟩
      · refine .inr ⟨t :: front, token, rest, fault, rfl, ?_, malformed, ?_⟩
        · exact List.forall_mem_cons.2 ⟨⟨id, read⟩, before⟩
        · simp [parseTokens, read, failed]

/-- What tokens are read as: the identifiers of all of them, each at its first place, or the error of the
first token that is malformed. -/
inductive Reads [BEq I] (tokens : List String) : Except Error (List I) → Prop
  | all (found ids : List I) (reads : List.Forall₂ (fun t id => parse t = .ok id) tokens found)
      (firsts : FirstOccurrences found ids) : Reads tokens (.ok ids)
  | malformed (front : List String) (token : String) (rest : List String) (reason : String)
      (shown : tokens = front ++ token :: rest) (before : ∀ t ∈ front, ∃ id : I, parse t = .ok id)
      (refused : parse (I := I) token = .error (.malformedIdentifier token reason)) :
      Reads tokens (.error (.malformedIdentifier token reason))

theorem reads_parseAll [BEq I] [LawfulBEq I]
    (rejects : ∀ token fault, parse (I := I) token = .error fault →
      ∃ reason, fault = .malformedIdentifier token reason) (raw : List String) :
    Reads (I := I) (split raw) (parseAll raw) := by
  unfold parseAll
  rcases parseTokens_cases (I := I) (split raw) with
    ⟨found, reads, all⟩ | ⟨front, token, rest, fault, shown, before, refused, failed⟩
  · rw [all]
    exact .all found _ reads (firstOccurrences_eraseDups found)
  · obtain ⟨reason, rfl⟩ := rejects token fault refused
    rw [failed]
    exact .malformed front token rest reason shown before refused

end Generic

/-- The tokens are the filled parts of the values between commas, trimmed, in the order in which they first
occur. -/
structure Tokenizes (raw tokens : List String) : Prop where
  firsts : FirstOccurrences (parts raw) tokens
  isTrimmed : ∀ token ∈ tokens, IsTrimmed token
  whole : ∀ token ∈ tokens, ',' ∉ token.toList
  mem_iff (token : String) : token ∈ tokens ↔ ∃ value ∈ raw, ∃ part, IsPart ',' part value.toList ∧
    (∃ c ∈ part, isBlank c = false) ∧ token = String.ofList (trimmed part)

theorem tokenizes_split (raw : List String) : Tokenizes raw (split raw) where
  firsts := by
    rw [split_eq]
    exact firstOccurrences_eraseDups _
  isTrimmed _ := isTrimmed_of_mem_split
  whole _ := comma_not_mem_of_mem_split
  mem_iff token := by simp only [mem_split_iff, mem_filledParts_iff]

/-- The tokens of values do not depend on how their parts are spread over values or split before, further
values add the tokens that are new, and texts and numbers are read from them each at its first place. -/
theorem lists_read (raw : List String) :
    Tokenizes raw (split raw) ∧
    (∀ front a b rest, raw = front ++ (a ++ "," ++ b) :: rest →
      split raw = split (front ++ a :: b :: rest)) ∧
    split (split raw) = split raw ∧
    (∀ more, split (raw ++ more) =
      split raw ++ (split more).filter fun token => !(split raw).contains token) ∧
    Reads (I := String) (split raw) (parseAll raw) ∧ Reads (I := Int) (split raw) (parseAll raw) := by
  refine ⟨tokenizes_split raw, ?_, split_split raw, split_append raw,
    reads_parseAll (fun _ _ h => by cases h) raw, reads_parseAll (fun _ _ => malformed_of_parse) raw⟩
  rintro front a b rest rfl
  rw [split_eq, split_eq, parts_join]

example : parseAll ["3, 1,,3", "03"] = .ok [(3 : Int), 1] := by decide

end Registrar.Identifier
