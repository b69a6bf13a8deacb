import Registrar.Pattern.Whole
import Registrar.Proofs.Pattern.Closing
import Registrar.Proofs.Pattern.Depth
import Registrar.Proofs.Pattern.Spans

/-!
A pattern put as text into the frame for whole texts. Main statement: unless the pattern breaks out of the
frame, the framed pattern compiles exactly if the pattern does alone, and matches the texts that the pattern
matches from the first to the last character.
-/

namespace Registrar

namespace Pattern

variable {s : List Char} {q : Progress}

/-- The text of a pattern for whole texts. -/
def frame (s : List Char) : List Char := '^' :: '(' :: '?' :: ':' :: (s ++ closing)

/-- The piece of a framed pattern. The group in it and the anchors around it nest two deep. -/
def Piece.framed (own : Piece) : Piece := ⟨own.tree.framed, 2 + own.depth, false⟩

/-- What is read in front of the group of the frame. -/
def begun : Progress := ({} : Progress).push ⟨lineStart {}, 0, false⟩

/-- A closing parenthesis of the pattern belongs to no group of it. -/
def isStray (s : List Char) : Bool :=
  (group? (s.length + 1) 0 {} {} s).any fun found => !found.2.isEmpty

/-- The pattern is a pattern with the closing behind it, too: its last comment takes the closing in. -/
def takesClosing (s : List Char) : Bool := (reading? s).isSome && (reading? (s ++ closing)).isSome

/-- The pattern stays inside the frame, and the frame does not lead across a limit. -/
structure Contained (s : List Char) : Prop where
  balanced : isStray s = false
  apart : takesClosing s = false
  limits : (reading? s).all fun own => own.framed.isWithin == own.isWithin

theorem reading?_of_group? (h : group? (s.length + 1) 0 {} {} s = some (q, [])) :
    reading? s = some q.finish := by
  rw [reading?, h]

theorem group?_of_reading? {own : Piece} (h : reading? s = some own) :
    ∃ q, group? (s.length + 1) 0 {} {} s = some (q, []) ∧ q.finish = own := by
  unfold reading? at h
  split at h
  · next q read => exact ⟨q, read, Option.some.inj h⟩
  · cases h

theorem group?_frame (s : List Char) (fuel : Nat) :
    group? (fuel + 2) 0 {} {} (frame s) =
      match group? fuel 1 {} {} (s ++ closing) with
      | none => none
      | some (q, r) =>
        match groupEnd? r with
        | some r => group? fuel 0 {} (begun.close q id) r
        | none => none := rfl

theorem finish_begun (q : Progress) :
    ((begun.close q id).push ⟨lineEnd {}, 0, false⟩).finish = q.finish.framed := by
  have depth : Piece.nesting [⟨lineStart {}, 0, false⟩, ⟨q.finish.tree, 1 + q.finish.depth, false⟩,
      ⟨lineEnd {}, 0, false⟩] = 2 + q.finish.depth := by
    simp only [Piece.nesting, List.foldl_cons, List.foldl_nil]
    omega
  exact congrArg (Piece.mk q.finish.tree.framed · false) depth

theorem fuel_frame (s : List Char) : (frame s).length + 1 = s.length + 5 + 2 := by
  simp [frame, closing]

theorem reading?_frame_of_closing (h : group? (s.length + 5) 1 {} {} (s ++ closing) = some (q, closing)) :
    reading? (frame s) = some q.finish.framed := by
  rw [← finish_begun, reading?, fuel_frame, group?_frame, h]
  rfl

theorem reading?_frame_of_nil
    (h : ∀ found, group? (s.length + 5) 1 {} {} (s ++ closing) = some found → found.2 = []) :
    reading? (frame s) = none := by
  rw [reading?, fuel_frame, group?_frame]
  cases read : group? (s.length + 5) 1 {} {} (s ++ closing) with
  | none => rfl
  | some found =>
    obtain ⟨q, r⟩ := found
    cases h _ read
    rfl

theorem read?_eq_some_iff {tree : Tree} :
    read? s = some tree ↔ ∃ own, reading? s = some own ∧ own.isWithin ∧ own.tree = tree := by
  unfold read?
  cases reading? s with
  | none => simp
  | some own =>
    by_cases within : own.isWithin
    · simp [within]
    · simp [within]

theorem group?_alone {fuel : Nat} {found : Progress × List Char} (enough : s.length < fuel)
    (h : group? fuel 1 {} {} s = some found) : group? (s.length + 1) 0 {} {} s = some found := by
  rw [← group?_fuel (Nat.lt_succ_self _) enough]
  exact group?_outward (Nat.zero_le 1) h

theorem group?_within {fuel : Nat} (enough : s.length < fuel)
    (h : group? (s.length + 1) 0 {} {} s = some (q, [])) (room : q.finish.depth < maxDepth) :
    group? fuel 1 {} {} s = some (q, []) := by
  rw [group?_fuel (Nat.lt_succ_self _) enough]
  exact group?_inward h (.finish q) (by omega)

theorem isStray_of_group? {t : List Char} (h : group? (s.length + 1) 0 {} {} s = some (q, ')' :: t)) :
    isStray s = true := by
  rw [isStray, h]
  rfl

/-- A pattern without a stray parenthesis is read inside the frame just as it is alone and leaves the closing,
or else nothing is left that could close the frame. -/
theorem group?_closing (balanced : isStray s = false) :
    (∃ q, group? (s.length + 1) 0 {} {} s = some (q, []) ∧
        group? (s.length + 5) 1 {} {} (s ++ closing) = some (q, closing)) ∨
      (∀ found, group? (s.length + 5) 1 {} {} (s ++ closing) = some found → found.2 = []) ∧
        ∀ own, reading? s = some own → own.depth < maxDepth → takesClosing s = true := by
  have short : s.length < s.length + 5 := by omega
  have refused {own : Piece} (read : group? (s.length + 5) 1 {} {} s = none)
      (h : reading? s = some own) (room : own.depth < maxDepth) : False := by
    obtain ⟨q, alone, rfl⟩ := group?_of_reading? h
    rw [group?_within short alone room] at read
    cases read
  have twin : Twin ('#' ∈ s) s (s ++ closing) := .ahead id
  rcases group?_twin {} (s.length + 5) 1 {} twin with
    ⟨q, r, r', own, long, left⟩ | ⟨own, long⟩ | ⟨own, q, r', long, past⟩
  · have alone := group?_alone short own
    rcases group?_stop own with rfl | ⟨t, rfl⟩
    · rcases left.nil with rfl | ⟨rfl, _⟩
      · exact .inl ⟨q, alone, long⟩
      · -- A comment has taken the closing in.
        refine .inr ⟨fun found read => ?_, fun _ _ _ => ?_⟩
        · rw [long] at read
          cases read
          rfl
        · have more := group?_alone (by simp [closing]) long
          rw [takesClosing, reading?_of_group? alone, reading?_of_group? more]
          rfl
    · rw [isStray_of_group? alone] at balanced
      cases balanced
  · refine .inr ⟨fun found read => ?_, fun _ h room => (refused own h room).elim⟩
    rw [long] at read
    cases read
  · -- The pattern alone ends too early, and what closes its last group no longer closes the frame.
    refine .inr ⟨fun found read => ?_, fun _ h room => (refused own h room).elim⟩
    rw [long] at read
    cases read
    rcases group?_stop long with nothing | ⟨t, rfl⟩
    · exact nothing
    · exact absurd (past.subset List.mem_cons_self) (by decide)

theorem takesClosing_of_closing {fuel : Nat}
    (h : group? fuel 1 {} {} (s ++ closing) = some (q, closing)) (enough : s.length + 2 < fuel) :
    takesClosing s = false := by
  have more : reading? (s ++ closing) = none := by
    rw [reading?, group?_alone (by simpa [closing] using enough) h]
    rfl
  rw [takesClosing, more]
  exact Bool.and_false _

/-- A pattern that takes the closing in has a comment, which begins with a number sign. -/
theorem mem_of_takesClosing (h : takesClosing s = true) : '#' ∈ s := by
  obtain ⟨alone, more⟩ := Bool.and_eq_true_iff.1 h
  obtain ⟨own, read⟩ := Option.isSome_iff_exists.1 alone
  obtain ⟨longer, more⟩ := Option.isSome_iff_exists.1 more
  obtain ⟨q, read, -⟩ := group?_of_reading? read
  obtain ⟨q', more, -⟩ := group?_of_reading? more
  rw [← group?_fuel (Nat.lt_succ_self _) (by simp : _ ≤ (s ++ closing).length + 1)] at read
  rcases group?_twin {} ((s ++ closing).length + 1) 0 {} (.ahead id : Twin ('#' ∈ s) s (s ++ closing))
    with ⟨a, r, r', own, long, left⟩ | ⟨own, _⟩ | ⟨own, _⟩
  · cases own.symm.trans read
    cases long.symm.trans more
    rcases left.nil with impossible | ⟨_, marked⟩
    · cases impossible
    · exact marked
  · cases own.symm.trans read
  · cases own.symm.trans read

end Pattern

namespace WholePattern

open Pattern

theorem toList_anchored (source : String) : (anchored source).toList = frame source.toList := by
  simp [anchored, frame, closing, String.toList_append]

theorem compile?_of_reading? {source : String} {whole : Piece}
    (read : reading? (frame source.toList) = some whole) :
    compile? source = if whole.isWithin then some ⟨source, whole.tree⟩ else none := by
  rw [compile?, toList_anchored, read?, read]
  dsimp only
  split <;> rfl

theorem compile?_of_none {source : String} (read : reading? (frame source.toList) = none) :
    compile? source = none := by
  rw [compile?, toList_anchored, read?, read]
  rfl

/-- A pattern without a stray parenthesis compiles exactly if it is one alone, its last comment leaves the
closing and the framed pattern keeps to the limits. -/
theorem compile?_eq_some_iff {source : String} {whole : WholePattern}
    (balanced : isStray source.toList = false) :
    compile? source = some whole ↔ ∃ own, reading? source.toList = some own ∧
      takesClosing source.toList = false ∧ own.framed.isWithin ∧ whole = ⟨source, own.tree.framed⟩ := by
  rcases group?_closing balanced with ⟨q, alone, inside⟩ | ⟨lost, taken⟩
  · have read := reading?_of_group? alone
    have leaves := takesClosing_of_closing inside (by omega)
    rw [compile?_of_reading? (reading?_frame_of_closing inside)]
    constructor
    · intro compiled
      split at compiled
      · next within => exact ⟨q.finish, read, leaves, within, (Option.some.inj compiled).symm⟩
      · cases compiled
    · rintro ⟨own, same, -, within, rfl⟩
      cases read.symm.trans same
      exact if_pos within
  · rw [compile?_of_none (reading?_frame_of_nil lost)]
    constructor
    · intro compiled
      cases compiled
    · rintro ⟨own, read, leaves, within, -⟩
      have shallow : 2 + own.depth ≤ maxDepth := of_decide_eq_true (Bool.and_eq_true_iff.1 within).1
      rw [taken own read (by omega)] at leaves
      cases leaves

/-- A pattern that stays inside the frame compiles there exactly if it does alone, and then a text matches
exactly if the pattern matches it from the first to the last character. -/
theorem contained_compiles (source : String) (h : Contained source.toList) :
    ((compile? source).isSome ↔ (read? source.toList).isSome) ∧
      ∀ whole, compile? source = some whole → ∃ tree, read? source.toList = some tree ∧
        ∀ text : String, whole.matches? text ↔ tree.Spans text.toList 0 text.toList.length := by
  have limits {own : Piece} (read : reading? source.toList = some own) :
      own.framed.isWithin = own.isWithin := by
    have same := h.limits
    rw [read] at same
    exact eq_of_beq same
  refine ⟨?_, fun whole compiled => ?_⟩
  · simp only [Option.isSome_iff_exists, compile?_eq_some_iff h.balanced, read?_eq_some_iff]
    constructor
    · rintro ⟨whole, own, read, -, within, -⟩
      exact ⟨own.tree, own, read, limits read ▸ within, rfl⟩
    · rintro ⟨tree, own, read, within, -⟩
      exact ⟨_, own, read, h.apart, (limits read).trans within, rfl⟩
  · obtain ⟨own, read, -, within, rfl⟩ := (compile?_eq_some_iff h.balanced).1 compiled
    refine ⟨own.tree, read?_eq_some_iff.2 ⟨own, read, limits read ▸ within, rfl⟩, fun text => ?_⟩
    exact own.tree.occursIn_framed text.toList

/-- Alternatives stay together in the frame. -/
theorem alternatives_compile_whole :
    ∃ whole tree, compile? "a|(bc)+" = some whole ∧ read? "a|(bc)+".toList = some tree ∧
      ∀ text : String, whole.matches? text ↔ tree.Spans text.toList 0 text.toList.length := by
  have unmarked : takesClosing "a|(bc)+".toList = false :=
    Bool.eq_false_iff.2 fun taken => absurd (mem_of_takesClosing taken) (by decide)
  have contained : Contained "a|(bc)+".toList :=
    ⟨by decide +kernel, unmarked, by decide +kernel⟩
  obtain ⟨same, found⟩ := contained_compiles "a|(bc)+" contained
  obtain ⟨whole, compiled⟩ := Option.isSome_iff_exists.1 (same.2 (by decide +kernel))
  obtain ⟨tree, read, spans⟩ := found whole compiled
  exact ⟨whole, tree, compiled, read, spans⟩

/-- Parentheses that close no group of the pattern open the frame, so that what is no pattern compiles and
matches more than whole texts; and a comment of the pattern hides the end of the frame. -/
theorem patterns_break_frame :
    (read? "a)|(?:b".toList = none ∧ (compile? "a)|(?:b").any (·.matches? "ax")) ∧
      (read? "(?x)a#b".toList).isSome ∧ compile? "(?x)a#b" = none := by
  decide +kernel

end WholePattern
end Registrar
