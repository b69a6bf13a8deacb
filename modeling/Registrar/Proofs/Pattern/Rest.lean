import Registrar.Pattern.Reader

/-!
What the readers of a pattern leave is the end of what they are given. Main statement: with more steps than
there are characters, a group is read to the same result.
-/

namespace Registrar.Pattern

open Text

variable {mode : Mode} {s r : List Char} {c : Char}

theorem suffix_of_cons (h : c :: r <:+ s) : r <:+ s := (List.suffix_cons c r).trans h

theorem skipComments_suffix (inComment : Bool) (s : List Char) : skipComments inComment s <:+ s := by
  induction s generalizing inComment with
  | nil => exact List.suffix_refl _
  | cons c r ih =>
    have dropped (inComment : Bool) := (ih inComment).trans (List.suffix_cons c r)
    unfold skipComments
    split
    · exact dropped _
    · split
      · exact dropped _
      · split
        · exact dropped _
        · exact List.suffix_refl _

theorem skip_suffix (mode : Mode) (s : List Char) : skip mode s <:+ s := by
  unfold skip
  split
  · exact skipComments_suffix false s
  · exact List.suffix_refl s

theorem suffix_of_skip (h : skip mode s = c :: r) : r <:+ s := suffix_of_cons (h ▸ skip_suffix mode s)

theorem rest_of_map {α β : Type} {o : Option α} {f : α → β} {b : β} {t : List Char}
    (h : o.map (fun x => (f x, t)) = some (b, r)) : r = t := by
  obtain ⟨x, _, same⟩ := Option.map_eq_some_iff.1 h
  exact (Prod.mk.inj same).2.symm

/-- At least one character stands between. -/
def Behind (r s : List Char) : Prop := ∃ c t, c :: t <:+ s ∧ r <:+ t

namespace Behind

variable {q : List Char}

theorem cons (c : Char) (h : r <:+ s) : Behind r (c :: s) := ⟨c, s, List.suffix_refl _, h⟩

theorem of_skip (start : skip mode s = c :: q) (h : r <:+ q) : Behind r s :=
  ⟨c, q, start ▸ skip_suffix mode s, h⟩

theorem of_suffix (h : Behind r q) (inner : q <:+ s) : Behind r s := by
  obtain ⟨c, t, there, rest⟩ := h
  exact ⟨c, t, there.trans inner, rest⟩

theorem further (h : Behind q s) (rest : r <:+ q) : Behind r s := by
  obtain ⟨c, t, there, front⟩ := h
  exact ⟨c, t, there, rest.trans front⟩

theorem suffix (h : Behind r s) : r <:+ s := by
  obtain ⟨c, t, there, rest⟩ := h
  exact rest.trans (suffix_of_cons there)

theorem length_lt (h : Behind r s) : r.length < s.length := by
  obtain ⟨c, t, there, rest⟩ := h
  exact Nat.lt_of_le_of_lt rest.length_le there.length_le

end Behind

theorem trimStart_suffix (s : List Char) : trimStart s <:+ s := List.dropWhile_suffix _

theorem cut?_suffix {sep : Char} {a : List Char} (h : cut? sep s = some (a, r)) : r <:+ s := by
  induction s generalizing a with
  | nil => cases h
  | cons c t ih =>
    unfold cut? at h
    split at h
    · cases h
      exact List.suffix_cons ..
    · obtain ⟨⟨b, r⟩, rest, same⟩ := Option.map_eq_some_iff.1 h
      cases same
      exact (ih rest).trans (List.suffix_cons ..)

theorem digits_suffix (mode : Mode) (s : List Char) : (digits mode s).2 <:+ s := by
  fun_induction digits mode s with
  | case1 c r digit ds rest same ih =>
    rw [same] at ih
    exact (ih.trans (skip_suffix mode r)).trans (List.suffix_cons ..)
  | case2 c r noDigit => exact List.suffix_refl _
  | case3 => exact List.suffix_refl _

theorem count?_suffix {n : Nat} (h : count? mode s = some (n, r)) : r <:+ s := by
  unfold count? at h
  dsimp only at h
  split at h
  · cases h
  · cases h
    exact ((trimStart_suffix _).trans (digits_suffix mode _)).trans (trimStart_suffix s)

theorem most?_suffix {least : Nat} {b : Nat × Option Nat} (h : most? mode least s = some (b, r)) :
    r <:+ s := by
  unfold most? at h
  split at h
  · next read =>
    split at h
    · cases h
      exact suffix_of_cons (count?_suffix read)
    · cases h
  · cases h

theorem upward?_suffix {least : Nat} {b : Nat × Option Nat}
    (h : upward? mode least s = some (b, r)) : r <:+ s := by
  unfold upward? at h
  split at h
  · next start =>
    cases h
    exact suffix_of_skip start
  · exact (most?_suffix h).trans (skip_suffix mode s)

theorem bounds?_suffix {b : Nat × Option Nat} (h : bounds? mode s = some (b, r)) : r <:+ s := by
  have front {n : Nat} {c : Char} {t : List Char} (read : count? mode (skip mode s) = some (n, c :: t)) :
      t <:+ s := suffix_of_cons ((count?_suffix read).trans (skip_suffix mode s))
  unfold bounds? at h
  split at h
  · next read =>
    cases h
    exact front read
  · next read => exact (upward?_suffix h).trans (front read)
  · cases h

theorem dropLazy_suffix (s : List Char) : dropLazy s <:+ s := by
  unfold dropLazy
  split
  · exact List.suffix_cons ..
  · exact List.suffix_refl _

theorem flags?_suffix {inner : Mode} {value : Bool} {seen : List Char}
    (h : flags? mode value seen s = some (inner, r)) : r <:+ s := by
  induction s generalizing mode value seen with
  | nil => cases h
  | cons c t ih =>
    have further {mode value seen} (h : flags? mode value seen t = some (inner, r)) : r <:+ c :: t :=
      (ih h).trans (List.suffix_cons ..)
    unfold flags? at h
    split at h
    · split at h
      · cases h
      · cases h
        exact List.suffix_refl _
    · split at h
      · cases h
      · split at h
        · exact further h
        · split at h
          · exact further h
          · cases h

theorem name?_suffix {name : String} (h : name? s = some (name, r)) : r <:+ s := by
  unfold name? at h
  split at h
  · next cut =>
    split at h
    · cases h
      exact cut?_suffix cut
    · cases h
  · cases h

theorem flagsFor?_behind {inner : Mode} {o : Opening} (h : flagsFor? inner s = some (o, r)) :
    Behind r s := by
  unfold flagsFor? at h
  split at h
  · cases h
    exact .cons _ (List.suffix_refl _)
  · cases h
    exact .cons _ (List.suffix_refl _)
  · cases h

theorem flagged?_suffix {o : Opening} (h : flagged? mode s = some (o, r)) : r <:+ s := by
  unfold flagged? at h
  split at h
  · next flags => exact (flagsFor?_behind h).suffix.trans (flags?_suffix flags)
  · cases h

theorem named?_suffix {o : Opening} (h : named? s = some (o, r)) : r <:+ s := by
  obtain ⟨⟨name, t⟩, read, same⟩ := Option.map_eq_some_iff.1 h
  cases same
  exact name?_suffix read

theorem marked?_suffix {o : Opening} (h : marked? mode s = some (o, r)) : r <:+ s := by
  unfold marked? at h
  split at h
  · exact ((named?_suffix h).trans (List.suffix_cons ..)).trans (List.suffix_cons ..)
  · exact (named?_suffix h).trans (List.suffix_cons ..)
  · cases h
  · exact flagged?_suffix h

theorem opening?_suffix {o : Opening} (h : opening? mode s = some (o, r)) : r <:+ s := by
  unfold opening? at h
  split at h
  · next start => exact (marked?_suffix h).trans (suffix_of_skip start)
  · cases h
    exact skip_suffix mode s

theorem hexDigits?_suffix {value n k : Nat} (h : hexDigits? mode value n s = some (k, r)) :
    r <:+ s := by
  induction n generalizing value s with
  | zero =>
    cases h
    exact List.suffix_refl _
  | succ n ih =>
    unfold hexDigits? at h
    split at h
    · next start =>
      split at h
      · exact (ih h).trans (suffix_of_skip start)
      · cases h
    · cases h

theorem braced?_suffix {inside : List Char} (h : braced? mode s = some (inside, r)) : r <:+ s := by
  fun_induction braced? mode s generalizing inside with
  | case1 => cases h
  | case2 s t start =>
    cases h
    exact suffix_of_skip start
  | case3 s c t start other ih =>
    obtain ⟨⟨rest, q⟩, read, same⟩ := Option.map_eq_some_iff.1 h
    cases same
    exact (ih read).trans (suffix_of_skip start)

theorem bracedCode?_suffix {a : Atom} (h : bracedCode? mode s = some (a, r)) : r <:+ s := by
  unfold bracedCode? at h
  split at h
  · next read =>
    obtain rfl := rest_of_map h
    exact braced?_suffix read
  · cases h

theorem digitsCode?_suffix {n : Nat} {a : Atom} (h : digitsCode? mode n s = some (a, r)) :
    r <:+ s := by
  unfold digitsCode? at h
  split at h
  · next read =>
    obtain rfl := rest_of_map h
    exact hexDigits?_suffix read
  · cases h

theorem codePoint?_suffix {n : Nat} {a : Atom} (h : codePoint? mode n s = some (a, r)) : r <:+ s := by
  unfold codePoint? at h
  split at h
  · next start => exact (bracedCode?_suffix h).trans (suffix_of_skip start)
  · exact (digitsCode?_suffix h).trans (skip_suffix mode s)

theorem bracedProperty?_suffix {negated : Bool} {a : Atom}
    (h : bracedProperty? mode negated s = some (a, r)) : r <:+ s := by
  unfold bracedProperty? at h
  split at h
  · next read =>
    obtain rfl := rest_of_map h
    exact braced?_suffix read
  · cases h

theorem propertyFrom?_behind {negated : Bool} {a : Atom}
    (h : propertyFrom? mode negated s = some (a, r)) : Behind r s := by
  unfold propertyFrom? at h
  split at h
  · exact .cons _ (bracedProperty?_suffix h)
  · split at h
    · cases h
    · obtain rfl := rest_of_map h
      exact .cons _ (List.suffix_refl _)
  · cases h

theorem property?_suffix {negated : Bool} {a : Atom} (h : property? mode negated s = some (a, r)) :
    r <:+ s := by
  unfold property? at h
  split at h
  · exact (propertyFrom?_behind h).suffix.trans (skip_suffix mode s)
  · cases h

theorem boundaryName_suffix (mode : Mode) (s : List Char) : (boundaryName mode s).2 <:+ s := by
  fun_induction boundaryName mode s with
  | case1 s c t start letter name q same ih =>
    rw [same] at ih
    exact ih.trans (suffix_of_skip start)
  | case2 s c t start other => exact start ▸ skip_suffix mode s
  | case3 s start => exact List.nil_suffix

theorem bracedBoundary?_suffix {a : Atom} (h : bracedBoundary? mode s = some (a, r)) :
    r <:+ '\x7b' :: s := by
  have name := (boundaryName_suffix mode s).trans (List.suffix_cons '\x7b' s)
  unfold bracedBoundary? at h
  split at h
  · cases h
    exact List.suffix_refl _
  · next same =>
    obtain rfl := rest_of_map h
    rw [same] at name
    exact suffix_of_cons name
  · cases h

theorem boundary?_suffix {a : Atom} (h : boundary? mode s = some (a, r)) : r <:+ s := by
  unfold boundary? at h
  split at h
  · exact bracedBoundary?_suffix h
  · cases h
    exact List.suffix_refl _

theorem escape?_behind {a : Atom} (h : escape? mode s = some (a, r)) : Behind r s := by
  unfold escape? at h
  split at h
  · cases h
  · refine .cons _ ?_
    split at h
    · exact rest_of_map h ▸ List.suffix_refl _
    · split at h
      · exact codePoint?_suffix h
      · exact codePoint?_suffix h
      · exact codePoint?_suffix h
      · exact property?_suffix h
      · exact property?_suffix h
      · exact boundary?_suffix h
      · exact rest_of_map h ▸ List.suffix_refl _

theorem asciiClass?_suffix {set : Option Ranges} (h : asciiClass? mode s = some (set, r)) :
    r <:+ s := by
  have named {negated : Bool} {t : List Char} (h : asciiName? mode negated t = some (set, r)) :
      r <:+ t := by
    unfold asciiName? at h
    split at h
    · next read =>
      obtain rfl := rest_of_map h
      exact suffix_of_cons (cut?_suffix read)
    · cases h
  unfold asciiClass? at h
  split at h
  · exact ((named h).trans (List.suffix_cons ..)).trans (List.suffix_cons ..)
  · exact (named h).trans (List.suffix_cons ..)
  · cases h

theorem setAtom?_behind {a : Atom} (h : setAtom? mode s = some (a, r)) : Behind r s := by
  unfold setAtom? at h
  split at h
  · cases h
  · exact .cons _ (escape?_behind h).suffix
  · cases h
    exact .cons _ (List.suffix_refl _)

theorem rangeTo?_suffix {low : Atom} {set : Ranges} (h : rangeTo? mode low s = some (set, r)) :
    r <:+ '-' :: s := by
  unfold rangeTo? at h
  split at h
  · obtain rfl := rest_of_map h
    exact List.suffix_refl _
  · split at h
    · next read =>
      obtain rfl := rest_of_map h
      have behind := (setAtom?_behind read).suffix.trans (skip_suffix mode s)
      exact behind.trans (List.suffix_cons ..)
    · cases h

theorem rangeFrom?_suffix {low : Atom} {set : Ranges} (h : rangeFrom? mode low s = some (set, r)) :
    r <:+ s := by
  have front := skip_suffix mode s
  unfold rangeFrom? at h
  split at h
  · cases h
  · next start => exact (rangeTo?_suffix h).trans (start ▸ front)
  · obtain rfl := rest_of_map h
    exact front

theorem setRange?_behind {set : Ranges} (h : setRange? mode s = some (set, r)) : Behind r s := by
  unfold setRange? at h
  split at h
  · next read => exact (setAtom?_behind read).further (rangeFrom?_suffix h)
  · cases h

theorem leadingHyphens_suffix (mode : Mode) (items : Items) (s : List Char) :
    (leadingHyphens mode items s).2 <:+ s := by
  fun_induction leadingHyphens mode items s with
  | case1 items r ih => exact (ih.trans (skip_suffix mode r)).trans (List.suffix_cons ..)
  | case2 items s => exact List.suffix_refl _

theorem started_suffix (mode : Mode) (s : List Char) : (started mode s).2 <:+ s := by
  have front := leadingHyphens_suffix mode {} s
  unfold started
  split
  · next same =>
    rw [same] at front
    split
    · exact suffix_of_cons front
    · exact front
  · exact front

theorem opened_suffix (mode : Mode) (s : List Char) : (opened mode s).2 <:+ s := by
  unfold opened
  split
  · next start =>
    exact ((started_suffix mode _).trans (skip_suffix mode _)).trans (suffix_of_skip start)
  · exact (started_suffix mode _).trans (skip_suffix mode s)

theorem setOp?_behind {op : SetOp} (h : setOp? s = some (op, r)) : Behind r s := by
  unfold setOp? at h
  split at h
  · split at h
    · obtain rfl := rest_of_map h
      exact .cons _ (List.suffix_cons ..)
    · cases h
  · cases h

theorem setPart?_behind {pending : Option (SetOp × Bracketed)} {items : Items} {part : SetPart}
    (h : setPart? mode pending items s = some (part, r)) : Behind r s := by
  unfold setPart? at h
  split at h
  · refine .cons _ ?_
    unfold bracketPart? at h
    split at h
    · next read =>
      cases h
      exact asciiClass?_suffix read
    · cases h
    · cases h
      exact List.suffix_refl _
  · unfold plainPart? at h
    split at h
    · next read =>
      cases h
      exact setOp?_behind read
    · obtain ⟨⟨item, t⟩, read, same⟩ := Option.map_eq_some_iff.1 h
      cases same
      exact setRange?_behind read

theorem eq_of_setEnd? (h : setEnd? s = some r) : s = ']' :: r := by
  unfold setEnd? at h
  split at h
  · cases h
    rfl
  · cases h

theorem inside?_suffix {fuel level : Nat} {pending : Option (SetOp × Bracketed)} {items : Items}
    {b : Bracketed} (h : inside? fuel level mode pending items s = some (b, r)) : r <:+ s := by
  induction fuel generalizing level pending items s r b with
  | zero => cases h
  | succ fuel ih =>
    unfold inside? at h
    split at h
    · next stop =>
      cases h
      exact suffix_of_skip (eq_of_setEnd? stop)
    · split at h
      · cases h
      · next part => exact ((ih h).trans (setPart?_behind part).suffix).trans (skip_suffix mode s)
      · next part =>
        split at h
        · cases h
        · dsimp only at h
          split at h
          · cases h
          · next inner =>
            split at h
            · have opens := (ih inner).trans (opened_suffix mode _)
              exact (((ih h).trans opens).trans (setPart?_behind part).suffix).trans
                (skip_suffix mode s)
            · cases h

theorem mem_of_inside? {fuel level : Nat} {pending : Option (SetOp × Bracketed)} {items : Items}
    {b : Bracketed} (h : inside? fuel level mode pending items s = some (b, r)) : ']' ∈ s := by
  induction fuel generalizing level pending items s b r with
  | zero => cases h
  | succ fuel ih =>
    have front := skip_suffix mode s
    unfold inside? at h
    split at h
    · next stop => exact front.subset (eq_of_setEnd? stop ▸ List.mem_cons_self)
    · split at h
      · cases h
      · next part => exact ((setPart?_behind part).suffix.trans front).subset (ih h)
      · next part =>
        split at h
        · cases h
        · dsimp only at h
          split at h
          · cases h
          · next inner =>
            have opens := (opened_suffix mode _).trans (setPart?_behind part).suffix
            exact (opens.trans front).subset (ih inner)

theorem bracket?_suffix {b : Bracketed} (h : bracket? mode s = some (b, r)) : r <:+ s := by
  unfold bracket? at h
  dsimp only at h
  split at h
  · cases h
  · next inner =>
    obtain rfl := rest_of_map h
    exact (inside?_suffix inner).trans (opened_suffix mode s)

theorem partFrom?_rest {p : Progress} {part : Part} {t : List Char}
    (h : partFrom? mode p c t = some (part, r)) : part ≠ .stop ∧ r <:+ t := by
  have mapped {α : Type} {o : Option α} {f : α → Part} {q : List Char} (front : q <:+ t)
      (going : ∀ x, f x ≠ .stop) (h : o.map (fun x => (f x, q)) = some (part, r)) :
      part ≠ .stop ∧ r <:+ t := by
    obtain ⟨x, _, same⟩ := Option.map_eq_some_iff.1 h
    cases same
    exact ⟨going x, front⟩
  have pushed {piece : Piece} {q : List Char} (front : q <:+ t)
      (h : some (Part.onward mode (p.push piece), q) = some (part, r)) : part ≠ .stop ∧ r <:+ t := by
    cases h
    exact ⟨by simp, front⟩
  unfold partFrom? at h
  dsimp only at h
  split at h
  · cases h
    exact ⟨by simp, List.suffix_refl _⟩
  · exact mapped (dropLazy_suffix t) (by simp) h
  · exact mapped (dropLazy_suffix t) (by simp) h
  · exact mapped (dropLazy_suffix t) (by simp) h
  · split at h
    · next read =>
      have front := (skip_suffix mode _).trans (bounds?_suffix read)
      exact mapped ((dropLazy_suffix _).trans front) (by simp) h
    · cases h
  · split at h
    · next read =>
      cases h
      exact ⟨by simp, opening?_suffix read⟩
    · next read =>
      cases h
      exact ⟨by simp, opening?_suffix read⟩
    · next read => exact mapped (opening?_suffix read) (by simp) h
    · cases h
  · split at h
    · next read => exact pushed (bracket?_suffix read) h
    · cases h
  · split at h
    · next read => exact mapped (escape?_behind read).suffix (by simp) h
    · cases h
  · exact mapped (List.suffix_refl _) (by simp) h
  · exact pushed (List.suffix_refl _) h
  · exact pushed (List.suffix_refl _) h
  · exact pushed (List.suffix_refl _) h

theorem part?_rest {p : Progress} {part : Part} (h : part? mode p s = some (part, r)) :
    (part = .stop ∧ r <:+ s ∧ (r = [] ∨ ∃ t, r = ')' :: t)) ∨ (part ≠ .stop ∧ Behind r s) := by
  unfold part? at h
  split at h
  · cases h
    exact .inl ⟨rfl, List.nil_suffix, .inl rfl⟩
  · next start =>
    split at h
    · next closing =>
      cases h
      exact .inl ⟨rfl, closing ▸ start ▸ skip_suffix mode s, .inr ⟨_, rfl⟩⟩
    · obtain ⟨going, rest⟩ := partFrom?_rest h
      exact .inr ⟨going, .of_skip start rest⟩

theorem part?_suffix {p : Progress} {part : Part} (h : part? mode p s = some (part, r)) :
    r <:+ s := by
  rcases part?_rest h with ⟨_, rest, _⟩ | ⟨_, behind⟩
  · exact rest
  · exact behind.suffix

theorem part?_length {p : Progress} {part : Part} (h : part? mode p s = some (part, r))
    (going : part ≠ .stop) : r.length < s.length := by
  rcases part?_rest h with ⟨stop, _⟩ | ⟨_, behind⟩
  · exact absurd stop going
  · exact behind.length_lt

theorem eq_of_groupEnd? (h : groupEnd? s = some r) : s = ')' :: r := by
  unfold groupEnd? at h
  split at h
  · cases h
    rfl
  · cases h

theorem group?_suffix {fuel level : Nat} {p q : Progress}
    (h : group? fuel level mode p s = some (q, r)) : r <:+ s := by
  induction fuel generalizing level mode p s q r with
  | zero => cases h
  | succ fuel ih =>
    unfold group? at h
    split at h
    · cases h
    · next part =>
      cases h
      exact part?_suffix part
    · next part => exact (ih h).trans (part?_suffix part)
    · next part =>
      split at h
      · cases h
      · split at h
        · cases h
        · next inner =>
          split at h
          · next stop =>
            have behind := eq_of_groupEnd? stop ▸ ih inner
            exact (ih h).trans (suffix_of_cons (behind.trans (part?_suffix part)))
          · cases h

theorem group?_stop {fuel level : Nat} {p q : Progress}
    (h : group? fuel level mode p s = some (q, r)) : r = [] ∨ ∃ t, r = ')' :: t := by
  induction fuel generalizing level mode p s with
  | zero => cases h
  | succ fuel ih =>
    unfold group? at h
    split at h
    · cases h
    · next part =>
      cases h
      rcases part?_rest part with ⟨_, _, stop⟩ | ⟨going, _⟩
      · exact stop
      · exact absurd rfl going
    · exact ih h
    · split at h
      · cases h
      · split at h
        · cases h
        · split at h
          · exact ih h
          · cases h

/-- With a step for each character and one more, further steps change nothing. -/
theorem inside?_fuel {fuel more level : Nat} {pending : Option (SetOp × Bracketed)} {items : Items}
    (enough : s.length < fuel) (rest : fuel ≤ more) :
    inside? more level mode pending items s = inside? fuel level mode pending items s := by
  induction fuel generalizing more level pending items s with
  | zero => cases enough
  | succ fuel ih =>
    obtain ⟨more, rfl⟩ : ∃ n, more = n + 1 := ⟨more - 1, by omega⟩
    have fewer : fuel ≤ more := by omega
    have front := length_skip_le mode s
    unfold inside?
    split
    · rfl
    · cases part : setPart? mode pending items (skip mode s) with
      | none => rfl
      | some found =>
        obtain ⟨next, r⟩ := found
        have shorter := (setPart?_behind part).length_lt
        cases next with
        | onward pending items => exact ih (by omega) fewer
        | inward =>
          have opens := (opened_suffix mode r).length_le
          dsimp only
          rw [ih (by omega) fewer]
          cases inner : inside? fuel (level + 1) mode none (opened mode r).1.2 (opened mode r).2 with
          | none => rfl
          | some found =>
            obtain ⟨b, q⟩ := found
            have left := (inside?_suffix inner).length_le
            split
            · rfl
            · dsimp only
              split
              · exact ih (by omega) fewer
              · rfl

theorem group?_fuel {fuel more level : Nat} {p : Progress} (enough : s.length < fuel)
    (rest : fuel ≤ more) : group? more level mode p s = group? fuel level mode p s := by
  induction fuel generalizing more level mode p s with
  | zero => cases enough
  | succ fuel ih =>
    obtain ⟨more, rfl⟩ : ∃ n, more = n + 1 := ⟨more - 1, by omega⟩
    have fewer : fuel ≤ more := by omega
    unfold group?
    cases part : part? mode p s with
    | none => rfl
    | some found =>
      obtain ⟨next, r⟩ := found
      cases next with
      | stop => rfl
      | onward mode p =>
        have shorter := part?_length part (by simp)
        exact ih (by omega) fewer
      | inward inner groups wrap =>
        have shorter := part?_length part (by simp)
        dsimp only
        rw [ih (by omega) fewer]
        split
        · rfl
        · split
          · rfl
          · next inner =>
            have left := (group?_suffix inner).length_le
            split
            · next stop =>
              rw [eq_of_groupEnd? stop, List.length_cons] at left
              exact ih (by omega) fewer
            · rfl

end Registrar.Pattern
