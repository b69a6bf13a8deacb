import Registrar.Proofs.Pattern.Rest

/-!
Reading a pattern with the closing of a frame behind it. Every reader does the same with and without the
closing, unless without it the pattern ends too early. Main statement: so does the reader of groups, and
where the pattern alone ends too early, the closing no longer closes the frame.
-/

namespace Registrar.Pattern

open Text

/-- What the frame of a whole pattern puts behind it. -/
def closing : List Char := [')', '$']

/-- A text, and the same text with the closing behind it. A comment at the end takes the closing in; `marked`
follows from there being a number sign, which every comment begins with. -/
inductive Twin (marked : Prop) : List Char → List Char → Prop
  | ahead {s : List Char} (known : '#' ∈ s → marked) : Twin marked s (s ++ closing)
  | lost (h : marked) : Twin marked [] []

theorem Behind.closing {s : List Char} (h : Behind s closing) : s <:+ ['$'] := by
  obtain ⟨c, t, there, rest⟩ := h
  rcases List.suffix_cons_iff.1 there with same | there
  · exact (List.cons.inj same).2 ▸ rest
  · exact rest.trans (suffix_of_cons there)

namespace Twin

variable {marked : Prop} {s s' : List Char} {c : Char}

theorem nil (h : Twin marked [] s') : s' = closing ∨ s' = [] ∧ marked := by
  cases h with
  | ahead known => exact .inl rfl
  | lost h => exact .inr ⟨rfl, h⟩

theorem cons (h : Twin marked (c :: s) s') : ∃ t, s' = c :: t ∧ Twin marked s t := by
  cases h with
  | ahead known => exact ⟨s ++ closing, rfl, .ahead fun there => known (List.mem_cons_of_mem c there)⟩

theorem trimStart (h : Twin marked s s') : Twin marked (trimStart s) (Text.trimStart s') := by
  induction s generalizing s' with
  | nil =>
    rcases h.nil with rfl | ⟨rfl, _⟩
    · exact h
    · exact h
  | cons c s ih =>
    obtain ⟨t, rfl, rest⟩ := h.cons
    unfold Text.trimStart
    rw [List.dropWhile_cons, List.dropWhile_cons]
    split
    · exact ih rest
    · exact h

theorem skipComments {inComment : Bool} (h : Twin marked s s') (opened : inComment → marked) :
    Twin marked (skipComments inComment s) (Pattern.skipComments inComment s') := by
  induction s generalizing s' inComment with
  | nil =>
    rcases h.nil with rfl | ⟨rfl, sure⟩
    · cases inComment with
      | true => exact .lost (opened rfl)
      | false => exact h
    · exact .lost sure
  | cons c s ih =>
    obtain ⟨t, rfl, rest⟩ := h.cons
    unfold Pattern.skipComments
    split
    · next inside => exact ih rest fun _ => opened inside
    · split
      · exact ih rest (by simp)
      · split
        · next sign =>
          refine ih rest fun _ => ?_
          cases h with
          | ahead known => exact known (sign ▸ List.mem_cons_self)
        · exact h

theorem skip (mode : Mode) (h : Twin marked s s') :
    Twin marked (skip mode s) (Pattern.skip mode s') := by
  unfold Pattern.skip
  split
  · exact h.skipComments (by simp)
  · exact h

end Twin

/-- Two readings of which the second has the closing behind it: both give the same, or none gives anything,
or only the second does and leaves what lies beyond the pattern. -/
def Matched {α : Type} (marked : Prop) (beyond : List Char → Prop) (o o' : Option (α × List Char)) : Prop :=
  (∃ a r r', o = some (a, r) ∧ o' = some (a, r') ∧ Twin marked r r') ∨ (o = none ∧ o' = none) ∨
    o = none ∧ ∃ a r', o' = some (a, r') ∧ beyond r'

namespace Matched

variable {α β : Type} {marked : Prop} {beyond : List Char → Prop} {r r' : List Char}

theorem both (a : α) (h : Twin marked r r') : Matched marked beyond (some (a, r)) (some (a, r')) :=
  .inl ⟨a, r, r', rfl, rfl, h⟩

theorem neither : Matched marked beyond (none : Option (α × List Char)) none := .inr (.inl ⟨rfl, rfl⟩)

theorem past (a : α) (h : beyond r') : Matched marked beyond none (some (a, r')) :=
  .inr (.inr ⟨rfl, a, r', rfl, h⟩)

theorem of_none {o o' : Option (α × List Char)} (own : o = none)
    (h : ∀ a r', o' = some (a, r') → beyond r') : Matched marked beyond o o' := by
  subst own
  cases o' with
  | none => exact neither
  | some found => exact past _ (h _ _ rfl)

theorem map (o : Option α) (f : α → β) (h : Twin marked r r') :
    Matched marked beyond (o.map fun a => (f a, r)) (o.map fun a => (f a, r')) := by
  cases o with
  | none => exact neither
  | some a => exact both (f a) h

theorem map_past (o : Option α) (f : α → β) (h : beyond r') :
    Matched marked beyond none (o.map fun a => (f a, r')) := by
  cases o with
  | none => exact neither
  | some a => exact past (f a) h

@[elab_as_elim]
theorem elim {motive : Option (α × List Char) → Option (α × List Char) → Prop}
    {o o' : Option (α × List Char)} (h : Matched marked beyond o o')
    (both : ∀ a r r', Twin marked r r' → motive (some (a, r)) (some (a, r')))
    (neither : motive none none) (past : ∀ a r', beyond r' → motive none (some (a, r'))) :
    motive o o' := by
  rcases h with ⟨a, r, r', rfl, rfl, twin⟩ | ⟨rfl, rfl⟩ | ⟨rfl, a, r', rfl, outside⟩
  · exact both a r r' twin
  · exact neither
  · exact past a r' outside

theorem lift {o o' : Option (α × List Char)} (f : α → β) (h : Matched marked beyond o o') :
    Matched marked beyond (o.map fun (a, r) => (f a, r)) (o'.map fun (a, r) => (f a, r)) :=
  h.elim (fun _ _ _ twin => both _ twin) neither fun _ _ outside => past _ outside

end Matched

/-- Two readings of which none leaves the pattern. -/
abbrev Paired {α : Type} (marked : Prop) (o o' : Option (α × List Char)) : Prop :=
  Matched marked (fun _ => False) o o'

namespace Paired

variable {α : Type} {marked : Prop} {o o' : Option (α × List Char)}

@[elab_as_elim]
theorem cases {motive : Option (α × List Char) → Option (α × List Char) → Prop}
    (h : Paired marked o o')
    (both : ∀ a r r', Twin marked r r' → motive (some (a, r)) (some (a, r')))
    (neither : motive none none) : motive o o' :=
  Matched.elim h both neither fun _ _ => False.elim

theorem matched {beyond : List Char → Prop} (h : Paired marked o o') : Matched marked beyond o o' :=
  h.cases (fun _ _ _ twin => .both _ twin) .neither

end Paired

/-- Two readers that always give something: both give the same. -/
structure Alike {α : Type} (marked : Prop) (x x' : α × List Char) : Prop where
  same : x'.1 = x.1
  twin : Twin marked x.2 x'.2

namespace Alike

variable {α β : Type} {marked : Prop}

theorem pair (a : α) {r r' : List Char} (h : Twin marked r r') : Alike marked (a, r) (a, r') := ⟨rfl, h⟩

theorem lift {x x' : α × List Char} (f : α → β) (h : Alike marked x x') :
    Alike marked (f x.1, x.2) (f x'.1, x'.2) := ⟨congrArg f h.same, h.twin⟩

end Alike

variable {marked : Prop} (mode : Mode) {s s' : List Char}

theorem digits_twin (h : Twin marked s s') : Alike marked (digits mode s) (digits mode s') := by
  fun_induction digits mode s generalizing s' with
  | case1 c r digit ds rest same ih =>
    obtain ⟨t, rfl, inner⟩ := h.cons
    obtain ⟨equal, left⟩ := ih (inner.skip mode)
    rw [same] at equal left
    rw [digits, if_pos digit]
    exact ⟨congrArg (c :: ·) equal, left⟩
  | case2 c r noDigit =>
    obtain ⟨t, rfl, _⟩ := h.cons
    rw [digits, if_neg noDigit]
    exact ⟨rfl, h⟩
  | case3 =>
    rcases h.nil with rfl | ⟨rfl, _⟩
    · have none : digits mode closing = ([], closing) := by simp [closing, digits]
      rw [none]
      exact ⟨rfl, h⟩
    · rw [digits]
      exact ⟨rfl, h⟩

theorem count?_twin (h : Twin marked s s') : Paired marked (count? mode s) (count? mode s') := by
  obtain ⟨same, left⟩ := digits_twin mode h.trimStart
  unfold count?
  dsimp only
  rw [same]
  split
  · exact .neither
  · exact .both _ left.trimStart

theorem most?_twin (least : Nat) (h : Twin marked s s') :
    Paired marked (most? mode least s) (most? mode least s') := by
  unfold most?
  refine (count?_twin mode h).cases (fun most r r' twin => ?_) .neither
  cases r with
  | nil => rcases twin.nil with rfl | ⟨rfl, _⟩ <;> exact .neither
  | cons c q =>
    obtain ⟨q', rfl, inner⟩ := twin.cons
    by_cases closed : c = '\x7d'
    · subst closed
      by_cases fits : least ≤ most
      · simpa [fits] using Matched.both _ inner
      · simpa [fits] using Matched.neither
    · simpa [closed] using Matched.neither

theorem upward?_twin {least : Nat} (h : Twin marked s s') :
    Paired marked (upward? mode least s) (upward? mode least s') := by
  have twin := h.skip mode
  have counted := most?_twin mode least twin
  unfold upward?
  generalize skip mode s = u, skip mode s' = u' at twin counted ⊢
  cases u with
  | nil => rcases twin.nil with rfl | ⟨rfl, _⟩ <;> exact counted
  | cons c q =>
    obtain ⟨q', rfl, inner⟩ := twin.cons
    by_cases closed : c = '\x7d'
    · subst closed
      exact .both _ inner
    · simpa [closed] using counted

theorem bounds?_twin (h : Twin marked s s') :
    Paired marked (bounds? mode s) (bounds? mode s') := by
  unfold bounds?
  refine (count?_twin mode (h.skip mode)).cases (fun least r r' twin => ?_) .neither
  cases r with
  | nil => rcases twin.nil with rfl | ⟨rfl, _⟩ <;> exact .neither
  | cons c q =>
    obtain ⟨q', rfl, inner⟩ := twin.cons
    by_cases closed : c = '\x7d'
    · subst closed
      exact .both _ inner
    by_cases comma : c = ','
    · subst comma
      exact upward?_twin mode inner
    · simpa [closed, comma] using Matched.neither

theorem dropLazy_twin (h : Twin marked s s') : Twin marked (dropLazy s) (dropLazy s') := by
  cases s with
  | nil => rcases h.nil with rfl | ⟨rfl, _⟩ <;> exact h
  | cons c r =>
    obtain ⟨t, rfl, inner⟩ := h.cons
    by_cases lazy : c = '?'
    · subst lazy
      exact inner
    · simpa [dropLazy, lazy] using h

theorem flags?_twin (value : Bool) (seen : List Char) (h : Twin marked s s') :
    Matched marked (· <:+ closing) (flags? mode value seen s) (flags? mode value seen s') := by
  induction s generalizing mode value seen s' with
  | nil =>
    rcases h.nil with rfl | ⟨rfl, _⟩
    · exact .of_none rfl fun _ _ => flags?_suffix
    · exact .neither
  | cons c r ih =>
    obtain ⟨t, rfl, inner⟩ := h.cons
    unfold flags?
    split
    · split
      · exact .neither
      · exact .both _ h
    · split
      · exact .neither
      · split
        · exact ih _ _ _ inner
        · split
          · exact ih _ _ _ inner
          · exact .neither

theorem cut?_twin (sep : Char) (outside : sep ∉ closing) (h : Twin marked s s') :
    Paired marked (cut? sep s) (cut? sep s') := by
  induction s generalizing s' with
  | nil =>
    rcases h.nil with rfl | ⟨rfl, _⟩
    · have nowhere : cut? sep closing = none := by
        simp only [closing, List.mem_cons, List.not_mem_nil, or_false, not_or] at outside
        simp [closing, cut?, Ne.symm outside.1, Ne.symm outside.2]
      rw [nowhere]
      exact .neither
    · exact .neither
  | cons c r ih =>
    obtain ⟨t, rfl, inner⟩ := h.cons
    unfold cut?
    split
    · exact .both _ inner
    · exact (ih inner).lift (c :: ·)

theorem name?_twin (h : Twin marked s s') : Paired marked (name? s) (name? s') := by
  unfold name?
  refine (cut?_twin '>' (by decide) h).cases (fun name r r' twin => ?_) .neither
  cases name with
  | nil => exact .neither
  | cons c name =>
    dsimp only
    split
    · exact .both _ twin
    · exact .neither

theorem flagsFor?_twin {inner : Mode} (h : Twin marked s s') :
    Matched marked (· <:+ ['$']) (flagsFor? inner s) (flagsFor? inner s') := by
  cases s with
  | nil =>
    rcases h.nil with rfl | ⟨rfl, _⟩
    · exact .of_none rfl fun _ _ found => (flagsFor?_behind found).closing
    · exact .neither
  | cons c r =>
    obtain ⟨t, rfl, inner⟩ := h.cons
    by_cases colon : c = ':'
    · subst colon
      exact .both _ inner
    · simpa [flagsFor?, colon] using Matched.both _ inner

theorem flagged?_twin (h : Twin marked s s') :
    Matched marked (· <:+ ['$']) (flagged? mode s) (flagged? mode s') := by
  unfold flagged?
  refine (flags?_twin mode true [] h).elim (fun inner r r' twin => flagsFor?_twin twin) .neither
    fun inner r' past => ?_
  exact .of_none rfl fun _ _ found => ((flagsFor?_behind found).of_suffix past).closing

theorem marked?_twin (h : Twin marked s s') :
    Matched marked (· <:+ ['$']) (marked? mode s) (marked? mode s') := by
  have flagged := flagged?_twin mode h
  cases s with
  | nil =>
    rcases h.nil with rfl | ⟨rfl, _⟩ <;> exact .neither
  | cons c r =>
    obtain ⟨t, rfl, inner⟩ := h.cons
    by_cases closed : c = ')'
    · subst closed
      exact .neither
    by_cases angle : c = '<'
    · subst angle
      exact (name?_twin inner).matched.lift fun name => Opening.numbered (some name)
    by_cases letter : c = 'P'
    · subst letter
      cases r with
      | nil => rcases inner.nil with rfl | ⟨rfl, _⟩ <;> exact flagged
      | cons d q =>
        obtain ⟨u, rfl, inmost⟩ := inner.cons
        by_cases angle : d = '<'
        · subst angle
          exact (name?_twin inmost).matched.lift fun name => Opening.numbered (some name)
        · simpa [marked?, angle] using flagged
    · simpa [marked?, closed, angle, letter] using flagged

theorem opening?_twin (h : Twin marked s s') :
    Matched marked (· <:+ ['$']) (opening? mode s) (opening? mode s') := by
  have twin := h.skip mode
  unfold opening?
  generalize skip mode s = u, skip mode s' = u' at twin ⊢
  cases u with
  | nil => rcases twin.nil with rfl | ⟨rfl, _⟩ <;> exact .both _ twin
  | cons c r =>
    obtain ⟨t, rfl, inner⟩ := twin.cons
    by_cases sign : c = '?'
    · subst sign
      exact marked?_twin mode inner
    · simpa [sign] using Matched.both _ twin

theorem hexDigits?_twin (value n : Nat) (h : Twin marked s s') :
    Paired marked (hexDigits? mode value n s) (hexDigits? mode value n s') := by
  induction n generalizing value s s' with
  | zero => exact .both _ h
  | succ n ih =>
    have twin := h.skip mode
    unfold hexDigits?
    generalize skip mode s = u, skip mode s' = u' at twin ⊢
    cases u with
    | nil => rcases twin.nil with rfl | ⟨rfl, _⟩ <;> exact .neither
    | cons c r =>
      obtain ⟨t, rfl, inner⟩ := twin.cons
      dsimp only
      split
      · exact ih _ inner
      · exact .neither

theorem skip_sign : skip mode ['$'] = ['$'] := by
  unfold skip
  split
  · rfl
  · rfl

theorem braced?_closing (h : skip mode s = closing) : braced? mode s = none := by
  have behind : braced? mode ['$'] = none := by
    rw [braced?_of_cons (skip_sign mode), braced?_of_nil (by simp [skip, skipComments])]
    rfl
  rw [braced?_of_cons h, behind]
  rfl

theorem braced?_twin (h : Twin marked s s') :
    Paired marked (braced? mode s) (braced? mode s') := by
  have twin := h.skip mode
  fun_induction braced? mode s generalizing s' with
  | case1 s start =>
    rw [start] at twin
    rcases twin.nil with long | ⟨long, _⟩
    · rw [braced?_closing mode long]
      exact .neither
    · rw [braced?_of_nil long]
      exact .neither
  | case2 s r start =>
    rw [start] at twin
    obtain ⟨t, long, inner⟩ := twin.cons
    rw [braced?_of_cons long]
    exact .both _ inner
  | case3 s c r start other ih =>
    rw [start] at twin
    obtain ⟨t, long, inner⟩ := twin.cons
    rw [braced?_of_cons long, if_neg other]
    exact (ih inner (inner.skip mode)).lift (c :: ·)

theorem bracedCode?_twin (h : Twin marked s s') :
    Paired marked (bracedCode? mode s) (bracedCode? mode s') := by
  unfold bracedCode?
  exact (braced?_twin mode h).cases (fun inside r r' twin => .map _ _ twin) .neither

theorem digitsCode?_twin (n : Nat) (h : Twin marked s s') :
    Paired marked (digitsCode? mode n s) (digitsCode? mode n s') := by
  unfold digitsCode?
  exact (hexDigits?_twin mode 0 n h).cases (fun value r r' twin => .map _ _ twin) .neither

theorem codePoint?_twin (n : Nat) (h : Twin marked s s') :
    Paired marked (codePoint? mode n s) (codePoint? mode n s') := by
  have twin := h.skip mode
  have digits := digitsCode?_twin mode n twin
  unfold codePoint?
  generalize skip mode s = u, skip mode s' = u' at twin digits ⊢
  cases u with
  | nil => rcases twin.nil with rfl | ⟨rfl, _⟩ <;> exact digits
  | cons c r =>
    obtain ⟨t, rfl, inner⟩ := twin.cons
    by_cases brace : c = '\x7b'
    · subst brace
      exact bracedCode?_twin mode inner
    · simpa [brace] using digits

theorem bracedProperty?_twin (negated : Bool) (h : Twin marked s s') :
    Paired marked (bracedProperty? mode negated s) (bracedProperty? mode negated s') := by
  unfold bracedProperty?
  exact (braced?_twin mode h).cases (fun inside r r' twin => .map _ _ twin) .neither

theorem propertyFrom?_twin (negated : Bool) (h : Twin marked s s') :
    Matched marked (· <:+ ['$']) (propertyFrom? mode negated s) (propertyFrom? mode negated s') := by
  cases s with
  | nil =>
    rcases h.nil with rfl | ⟨rfl, _⟩
    · exact .of_none rfl fun _ _ found => (propertyFrom?_behind found).closing
    · exact .neither
  | cons c r =>
    obtain ⟨t, rfl, inner⟩ := h.cons
    by_cases brace : c = '\x7b'
    · subst brace
      exact (bracedProperty?_twin mode negated inner).matched
    by_cases escape : c = '\\'
    · subst escape
      exact .neither
    · simpa [propertyFrom?, brace, escape] using Matched.map _ _ inner

theorem property?_twin (negated : Bool) (h : Twin marked s s') :
    Matched marked (· <:+ ['$']) (property? mode negated s) (property? mode negated s') := by
  unfold property?
  split
  · exact propertyFrom?_twin mode negated (h.skip mode)
  · exact .neither

theorem boundaryName_twin (h : Twin marked s s') :
    Alike marked (boundaryName mode s) (boundaryName mode s') := by
  have twin := h.skip mode
  fun_induction boundaryName mode s generalizing s' with
  | case1 s c r start letter name rest same ih =>
    rw [start] at twin
    obtain ⟨t, long, inner⟩ := twin.cons
    obtain ⟨equal, left⟩ := ih inner (inner.skip mode)
    rw [boundaryName_of_cons long, if_pos letter]
    rw [same] at equal left
    exact ⟨congrArg (c :: ·) equal, left⟩
  | case2 s c r start other =>
    rw [start] at twin
    obtain ⟨t, long, inner⟩ := twin.cons
    rw [boundaryName_of_cons long, if_neg other]
    rw [long] at twin
    exact ⟨rfl, twin⟩
  | case3 s start =>
    rw [start] at twin
    rcases twin.nil with long | ⟨long, _⟩
    · have none : boundaryName mode s' = ([], closing) :=
        (boundaryName_of_cons long).trans (if_neg (by decide))
      rw [none]
      rw [long] at twin
      exact ⟨rfl, twin⟩
    · rw [boundaryName_of_nil long]
      rw [long] at twin
      exact ⟨rfl, twin⟩

theorem bracedBoundary?_twin (h : Twin marked s s') (behind : Twin marked ('\x7b' :: s) ('\x7b' :: s')) :
    Paired marked (bracedBoundary? mode s) (bracedBoundary? mode s') := by
  obtain ⟨same, left⟩ := boundaryName_twin mode h
  unfold bracedBoundary?
  rcases own : boundaryName mode s with ⟨name, r⟩
  rcases long : boundaryName mode s' with ⟨name', r'⟩
  rw [own, long] at same left
  subst same
  cases name' with
  | nil => exact .both _ behind
  | cons c name =>
    cases r with
    | nil => rcases left.nil with rfl | ⟨rfl, _⟩ <;> exact .neither
    | cons d q =>
      obtain ⟨t, rfl, inner⟩ := left.cons
      by_cases closed : d = '\x7d'
      · subst closed
        exact .map _ _ inner
      · simpa [closed] using Matched.neither

theorem boundary?_twin (h : Twin marked s s') :
    Paired marked (boundary? mode s) (boundary? mode s') := by
  cases s with
  | nil => rcases h.nil with rfl | ⟨rfl, _⟩ <;> exact .both _ h
  | cons c r =>
    obtain ⟨t, rfl, inner⟩ := h.cons
    by_cases brace : c = '\x7b'
    · subst brace
      exact bracedBoundary?_twin mode inner h
    · simpa [boundary?, brace] using Matched.both _ h

theorem escape?_twin (h : Twin marked s s') :
    Matched marked (· <:+ ['$']) (escape? mode s) (escape? mode s') := by
  cases s with
  | nil =>
    rcases h.nil with rfl | ⟨rfl, _⟩
    · exact .of_none rfl fun _ _ found => (escape?_behind found).closing
    · exact .neither
  | cons c r =>
    obtain ⟨t, rfl, inner⟩ := h.cons
    unfold escape?
    dsimp only
    cases classLetter? mode c with
    | some found => exact .map _ _ inner
    | none =>
      dsimp only
      split
      · exact (codePoint?_twin mode _ inner).matched
      · exact (codePoint?_twin mode _ inner).matched
      · exact (codePoint?_twin mode _ inner).matched
      · exact property?_twin mode _ inner
      · exact property?_twin mode _ inner
      · exact (boundary?_twin mode inner).matched
      · exact .map _ _ inner

theorem asciiName?_twin (negated : Bool) (h : Twin marked s s') :
    Paired marked (asciiName? mode negated s) (asciiName? mode negated s') := by
  unfold asciiName?
  refine (cut?_twin ':' (by decide) h).cases (fun name r r' twin => ?_) .neither
  cases r with
  | nil => rcases twin.nil with rfl | ⟨rfl, _⟩ <;> exact .neither
  | cons c q =>
    obtain ⟨q', rfl, inner⟩ := twin.cons
    by_cases closed : c = ']'
    · subst closed
      exact .map _ _ inner
    · simpa [closed] using Matched.neither

theorem asciiClass?_twin (h : Twin marked s s') :
    Paired marked (asciiClass? mode s) (asciiClass? mode s') := by
  cases s with
  | nil => rcases h.nil with rfl | ⟨rfl, _⟩ <;> exact .neither
  | cons c r =>
    obtain ⟨t, rfl, inner⟩ := h.cons
    by_cases colon : c = ':'
    · subst colon
      have named := asciiName?_twin mode false inner
      cases r with
      | nil => rcases inner.nil with rfl | ⟨rfl, _⟩ <;> exact named
      | cons d q =>
        obtain ⟨u, rfl, inmost⟩ := inner.cons
        by_cases sign : d = '^'
        · subst sign
          exact asciiName?_twin mode true inmost
        · simpa [asciiClass?, sign] using named
    · simpa [asciiClass?, colon] using Matched.neither

theorem setAtom?_twin (h : Twin marked s s') :
    Matched marked (· <:+ ['$']) (setAtom? mode s) (setAtom? mode s') := by
  cases s with
  | nil =>
    rcases h.nil with rfl | ⟨rfl, _⟩
    · exact .of_none rfl fun _ _ found => (setAtom?_behind found).closing
    · exact .neither
  | cons c r =>
    obtain ⟨t, rfl, inner⟩ := h.cons
    by_cases escape : c = '\\'
    · subst escape
      exact escape?_twin mode inner
    · simpa [setAtom?, escape] using Matched.both _ inner

theorem Twin.isStop_head? (h : Twin marked s s') : s'.head?.any isStop = s.head?.any isStop := by
  cases s with
  | nil => rcases h.nil with rfl | ⟨rfl, _⟩ <;> rfl
  | cons c r =>
    obtain ⟨t, rfl, _⟩ := h.cons
    rfl

theorem peeked_twin (h : Twin marked s s') : (peeked s').any isStop = (peeked s).any isStop := by
  have twin := h.trimStart
  unfold peeked
  generalize trimStart s = u, trimStart s' = u' at twin ⊢
  cases u with
  | nil =>
    rcases twin.nil with rfl | ⟨rfl, _⟩
    · rfl
    · rfl
  | cons c r =>
    obtain ⟨t, rfl, inner⟩ := twin.cons
    by_cases sign : c = '#'
    · subst sign
      exact inner.trimStart.isStop_head?
    · simp [sign]

theorem peeked_of_isStop (h : s.head?.any isStop) : peeked s = s.head? := by
  cases s with
  | nil => cases h
  | cons c r =>
    have stop : c = ']' ∨ c = '-' := by simpa [isStop] using h
    rcases stop with rfl | rfl <;> rfl

theorem afterHyphen?_twin (h : Twin marked s s') :
    (afterHyphen? mode s').any isStop = (afterHyphen? mode s).any isStop := by
  have first := h.isStop_head?
  unfold afterHyphen?
  split
  · have either (s : List Char) :
        ((peeked s).or s.head?).any isStop = ((peeked s).any isStop || s.head?.any isStop) := by
      cases stop : s.head?.any isStop with
      | true => simp [peeked_of_isStop stop, stop]
      | false => cases peeked s <;> simp [stop]
    rw [either, either, peeked_twin h, first]
  · exact first

theorem suffix_closing (h : s <:+ ['$']) : s <:+ closing := h.trans (List.suffix_cons ')' ['$'])

theorem rangeTo?_twin {low : Atom} (h : Twin marked s s')
    (behind : Twin marked ('-' :: s) ('-' :: s')) :
    Matched marked (· <:+ closing) (rangeTo? mode low s) (rangeTo? mode low s') := by
  unfold rangeTo?
  rw [afterHyphen?_twin mode h]
  split
  · exact .map _ _ behind
  · exact (setAtom?_twin mode (h.skip mode)).elim (fun high r r' twin => .map _ _ twin) .neither
      fun high r' past => .map_past _ _ (suffix_closing past)

theorem rangeFrom?_twin {low : Atom} (h : Twin marked s s') :
    Matched marked (· <:+ closing) (rangeFrom? mode low s) (rangeFrom? mode low s') := by
  have twin := h.skip mode
  unfold rangeFrom?
  generalize skip mode s = u, skip mode s' = u' at twin ⊢
  cases u with
  | nil =>
    rcases twin.nil with rfl | ⟨rfl, _⟩
    · exact .map_past _ _ (List.suffix_refl _)
    · exact .neither
  | cons c r =>
    obtain ⟨t, rfl, inner⟩ := twin.cons
    by_cases hyphen : c = '-'
    · subst hyphen
      exact rangeTo?_twin mode inner twin
    · simpa [hyphen] using Matched.map _ _ twin

theorem setRange?_twin (h : Twin marked s s') :
    Matched marked (· <:+ closing) (setRange? mode s) (setRange? mode s') := by
  unfold setRange?
  refine (setAtom?_twin mode h).elim (fun low r r' twin => rangeFrom?_twin mode twin) .neither
    fun low r' past => ?_
  exact .of_none rfl fun _ _ found => (rangeFrom?_suffix found).trans (suffix_closing past)

theorem leadingHyphens_twin (items : Items) (h : Twin marked s s') :
    Alike marked (leadingHyphens mode items s) (leadingHyphens mode items s') := by
  fun_induction leadingHyphens mode items s generalizing s' with
  | case1 items r ih =>
    obtain ⟨t, rfl, inner⟩ := h.cons
    rw [leadingHyphens]
    exact ih (inner.skip mode)
  | case2 items s other =>
    have none : leadingHyphens mode items s' = (items, s') := by
      rw [leadingHyphens]
      rintro t rfl
      cases s with
      | nil => rcases h.nil with same | ⟨same, _⟩ <;> cases same
      | cons c r =>
        obtain ⟨t, same, _⟩ := h.cons
        cases same
        exact other r rfl
    rw [none]
    exact ⟨rfl, h⟩

theorem started_twin (h : Twin marked s s') : Alike marked (started mode s) (started mode s') := by
  obtain ⟨same, left⟩ := leadingHyphens_twin mode {} h
  unfold started
  rcases own : leadingHyphens mode {} s with ⟨start, r⟩
  rcases long : leadingHyphens mode {} s' with ⟨start', r'⟩
  rw [own, long] at same left
  subst same
  cases r with
  | nil => rcases left.nil with rfl | ⟨rfl, _⟩ <;> exact ⟨rfl, left⟩
  | cons c q =>
    obtain ⟨t, rfl, inner⟩ := left.cons
    by_cases closed : c = ']'
    · subst closed
      by_cases first : start'.count = 0
      · simpa [first] using Alike.pair _ inner
      · simpa [first] using Alike.pair _ left
    · simpa [closed] using Alike.pair _ left

theorem opened_twin (h : Twin marked s s') : Alike marked (opened mode s) (opened mode s') := by
  have twin := h.skip mode
  have plain := (started_twin mode twin).lift (false, ·)
  unfold opened
  generalize skip mode s = u, skip mode s' = u' at twin plain ⊢
  cases u with
  | nil => rcases twin.nil with rfl | ⟨rfl, _⟩ <;> exact plain
  | cons c r =>
    obtain ⟨t, rfl, inner⟩ := twin.cons
    by_cases sign : c = '^'
    · subst sign
      exact (started_twin mode (inner.skip mode)).lift (true, ·)
    · simpa [sign] using plain

theorem setOp?_twin (h : Twin marked s s') : Paired marked (setOp? s) (setOp? s') := by
  cases s with
  | nil => rcases h.nil with rfl | ⟨rfl, _⟩ <;> exact .neither
  | cons c r =>
    obtain ⟨t, rfl, inner⟩ := h.cons
    cases r with
    | nil =>
      rcases inner.nil with rfl | ⟨rfl, _⟩
      · have none : setOp? (c :: closing) = none := by
          unfold setOp? closing
          dsimp only
          split
          · next same =>
            subst same
            rfl
          · rfl
        rw [none]
        exact .neither
      · exact .neither
    | cons d q =>
      obtain ⟨u, rfl, inmost⟩ := inner.cons
      unfold setOp?
      dsimp only
      split
      · exact .map _ _ inmost
      · exact .neither

theorem bracketPart?_twin (pending : Option (SetOp × Bracketed)) (items : Items)
    (h : Twin marked s s') : Paired marked (bracketPart? mode pending items s)
      (bracketPart? mode pending items s') := by
  unfold bracketPart?
  refine (asciiClass?_twin mode h).cases (fun set r r' twin => ?_) (.both _ h)
  cases set with
  | none => exact .neither
  | some set => exact .both _ twin

theorem plainPart?_twin (pending : Option (SetOp × Bracketed)) (items : Items)
    (h : Twin marked s s') : Matched marked (· <:+ closing) (plainPart? mode pending items s)
      (plainPart? mode pending items s') := by
  unfold plainPart?
  refine (setOp?_twin h).cases (fun op r r' twin => .both _ twin) ?_
  exact (setRange?_twin mode h).lift fun item => SetPart.onward pending (items.add ⟨item, 0⟩)

theorem setPart?_twin (pending : Option (SetOp × Bracketed)) (items : Items) (h : Twin marked s s') :
    Matched marked (· <:+ closing) (setPart? mode pending items s) (setPart? mode pending items s') := by
  have plain := plainPart?_twin mode pending items h
  cases s with
  | nil => rcases h.nil with rfl | ⟨rfl, _⟩ <;> exact plain
  | cons c r =>
    obtain ⟨t, rfl, inner⟩ := h.cons
    by_cases bracket : c = '['
    · subst bracket
      exact (bracketPart?_twin mode pending items inner).matched
    · simpa [setPart?, bracket] using plain

theorem inside?_of_suffix {mode : Mode} {fuel level : Nat} {pending : Option (SetOp × Bracketed)}
    {items : Items} (h : s <:+ closing) : inside? fuel level mode pending items s = none := by
  refine Option.eq_none_iff_forall_ne_some.2 fun ⟨b, r⟩ found => ?_
  exact absurd (h.subset (mem_of_inside? found)) (by decide)

theorem setEnd?_twin (h : Twin marked s s') :
    (∃ r r', setEnd? s = some r ∧ setEnd? s' = some r' ∧ Twin marked r r') ∨
      setEnd? s = none ∧ setEnd? s' = none := by
  cases s with
  | nil => rcases h.nil with rfl | ⟨rfl, _⟩ <;> exact .inr ⟨rfl, rfl⟩
  | cons c r =>
    obtain ⟨t, rfl, inner⟩ := h.cons
    by_cases closed : c = ']'
    · subst closed
      exact .inl ⟨r, t, rfl, rfl, inner⟩
    · exact .inr (by simp [setEnd?, closed])

theorem inside?_twin (fuel level : Nat) (pending : Option (SetOp × Bracketed)) (items : Items)
    (h : Twin marked s s') : Paired marked (inside? fuel level mode pending items s)
      (inside? fuel level mode pending items s') := by
  induction fuel generalizing level pending items s s' with
  | zero => exact .neither
  | succ fuel ih =>
    have twin := h.skip mode
    unfold inside?
    rcases setEnd?_twin twin with ⟨r, r', own, long, inner⟩ | ⟨own, long⟩ <;> rw [own, long]
    · exact .both _ inner
    refine (setPart?_twin mode pending items twin).elim (fun part r r' inner => ?_) .neither
      fun part r' past => ?_
    · cases part with
      | onward pending items => exact ih level pending items inner
      | inward =>
        obtain ⟨same, start⟩ := opened_twin mode inner
        dsimp only
        split
        · exact .neither
        rw [same]
        refine (ih (level + 1) none (opened mode r).1.2 start).cases (fun b q q' left => ?_) .neither
        dsimp only
        split
        · exact ih level pending (items.add _) left
        · exact .neither
    · -- Beyond the pattern no bracket closes the set.
      refine .of_none rfl fun b q found => ?_
      cases part with
      | onward pending items => cases (inside?_of_suffix past).symm.trans found
      | inward =>
        dsimp only at found
        rw [inside?_of_suffix ((opened_suffix mode r').trans past)] at found
        split at found <;> cases found

theorem bracket?_twin (h : Twin marked s s') :
    Paired marked (bracket? mode s) (bracket? mode s') := by
  have longer : s.length ≤ s'.length := by
    cases h with
    | ahead known => simp
    | lost sure => exact Nat.le_refl _
  obtain ⟨same, twin⟩ := opened_twin mode h
  have room := (opened_suffix mode s).length_le
  unfold bracket?
  dsimp only
  rw [same, ← inside?_fuel (Nat.lt_succ_of_le room) (Nat.succ_le_succ longer)]
  exact (inside?_twin mode (s'.length + 1) 1 none (opened mode s).1.2 twin).cases
    (fun b r r' twin => .map _ _ twin) .neither

theorem partFrom?_twin (p : Progress) (c : Char) (h : Twin marked s s') :
    Matched marked (· <:+ ['$']) (partFrom? mode p c s) (partFrom? mode p c s') := by
  unfold partFrom?
  dsimp only
  split
  · exact .both _ h
  · exact .map _ _ (dropLazy_twin h)
  · exact .map _ _ (dropLazy_twin h)
  · exact .map _ _ (dropLazy_twin h)
  · exact (bounds?_twin mode h).cases
      (fun bounds r r' twin => .map _ _ (dropLazy_twin (twin.skip mode))) .neither
  · refine (opening?_twin mode h).elim (fun o r r' twin => ?_) .neither fun o r' past => ?_
    · cases o with
      | flags inner => exact .both _ twin
      | plain inner => exact .both _ twin
      | numbered name => exact .map _ _ twin
    · cases o with
      | flags inner => exact .past _ past
      | plain inner => exact .past _ past
      | numbered name => exact .map_past _ _ past
  · exact (bracket?_twin mode h).cases (fun b r r' twin => .both _ twin) .neither
  · exact (escape?_twin mode h).elim (fun atom r r' twin => .map _ _ twin) .neither
      fun atom r' past => .map_past _ _ past
  · exact .map _ _ h
  · exact .both _ h
  · exact .both _ h
  · exact .both _ h

theorem part?_twin (p : Progress) (h : Twin marked s s') :
    Matched marked (· <:+ ['$']) (part? mode p s) (part? mode p s') := by
  have twin := h.skip mode
  unfold part?
  generalize skip mode s = u, skip mode s' = u' at twin ⊢
  cases u with
  | nil => rcases twin.nil with rfl | ⟨rfl, _⟩ <;> exact .both _ twin
  | cons c r =>
    obtain ⟨t, rfl, inner⟩ := twin.cons
    dsimp only
    split
    · next closed => exact .both _ (closed ▸ twin)
    · exact partFrom?_twin mode p c inner

theorem groupEnd?_twin (h : Twin marked s s') :
    (∃ r r', groupEnd? s = some r ∧ groupEnd? s' = some r' ∧ Twin marked r r') ∨
      (groupEnd? s = none ∧ groupEnd? s' = none) ∨ groupEnd? s = none ∧ groupEnd? s' = some ['$'] := by
  cases s with
  | nil =>
    rcases h.nil with rfl | ⟨rfl, _⟩
    · exact .inr (.inr ⟨rfl, rfl⟩)
    · exact .inr (.inl ⟨rfl, rfl⟩)
  | cons c r =>
    obtain ⟨t, rfl, inner⟩ := h.cons
    by_cases closed : c = ')'
    · subst closed
      exact .inl ⟨r, t, rfl, rfl, inner⟩
    · exact .inr (.inl (by simp [groupEnd?, closed]))

theorem group?_of_suffix {mode : Mode} {fuel level : Nat} {p q : Progress} {r : List Char}
    (past : s <:+ ['$']) (h : group? fuel level mode p s = some (q, r)) : r <:+ ['$'] :=
  (group?_suffix h).trans past

/-- A group is read alike with the closing behind the pattern, unless it lies partly behind the pattern. -/
theorem group?_twin (fuel level : Nat) (p : Progress) (h : Twin marked s s') :
    Matched marked (· <:+ ['$']) (group? fuel level mode p s) (group? fuel level mode p s') := by
  induction fuel generalizing level mode p s s' with
  | zero => exact .neither
  | succ fuel ih =>
    unfold group?
    refine (part?_twin mode p h).elim (fun part r r' twin => ?_) .neither fun part r' past => ?_
    · cases part with
      | stop => exact .both _ twin
      | onward mode p => exact ih mode level p twin
      | inward inner groups wrap =>
        dsimp only
        split
        · exact .neither
        refine (ih inner (level + 1) { groups } twin).elim (fun q t t' left => ?_) .neither
          fun q t' past => ?_
        · dsimp only
          rcases groupEnd?_twin left with ⟨u, u', own, long, rest⟩ | ⟨own, long⟩ | ⟨own, long⟩ <;>
            rw [own, long]
          · exact ih mode level _ rest
          · exact .neither
          · exact .of_none rfl fun _ _ => group?_of_suffix (List.suffix_refl _)
        · refine .of_none rfl fun _ _ found => ?_
          dsimp only at found
          split at found
          · next stop =>
            exact group?_of_suffix (suffix_of_cons (eq_of_groupEnd? stop ▸ past)) found
          · cases found
    · refine .of_none rfl fun q t found => ?_
      cases part with
      | stop =>
        cases found
        exact past
      | onward mode p => exact group?_of_suffix past found
      | inward inner groups wrap =>
        dsimp only at found
        split at found
        · cases found
        · split at found
          · cases found
          · next read =>
            split at found
            · next stop =>
              have behind := eq_of_groupEnd? stop ▸ group?_of_suffix past read
              exact group?_of_suffix (suffix_of_cons behind) found
            · cases found

end Registrar.Pattern
