import Registrar.Pattern.Moves
import Registrar.Pattern.Shape

/-!
Which parts of a text a pattern matches, told by its tree alone. Main statements: a pattern occurs in a text
exactly if it matches some part of it; a sequence matches what its members match one after the other; and
between the anchors for the start and the end it occurs exactly if it matches the whole text.
-/

namespace Registrar.Pattern

open Text

def Times (R : Nat → Nat → Prop) : Nat → Nat → Nat → Prop
  | 0, i, j => i = j
  | n + 1, i, j => ∃ k, R i k ∧ Times R n k j

section Times

variable {R : Nat → Nat → Prop} {m n i j : Nat}

theorem times_add : Times R (m + n) i j ↔ ∃ k, Times R m i k ∧ Times R n k j := by
  induction m generalizing i with
  | zero => simp [Times]
  | succ m ih =>
    rw [Nat.succ_add]
    simp only [Times, ih]
    constructor
    · rintro ⟨k, first, l, front, back⟩
      exact ⟨l, ⟨k, first, front⟩, back⟩
    · rintro ⟨l, ⟨k, first, front⟩, back⟩
      exact ⟨k, first, l, front, back⟩

theorem times_stays {S : Nat → Prop} (kept : ∀ i j, S i → R i j → S j) (there : S i)
    (h : Times R n i j) : S j := by
  induction n generalizing i with
  | zero => exact h ▸ there
  | succ n ih =>
    obtain ⟨k, step, rest⟩ := h
    exact ih (kept i k there step) rest

theorem le_of_times (forth : ∀ i j, R i j → i ≤ j) (h : Times R n i j) : i ≤ j := by
  induction n generalizing i with
  | zero => exact Nat.le_of_eq h
  | succ n ih =>
    obtain ⟨k, first, rest⟩ := h
    exact Nat.le_trans (forth _ _ first) (ih rest)

theorem times_shorten (forth : ∀ i j, R i j → i ≤ j) (h : Times R n i j) :
    ∃ m ≤ j - i, m ≤ n ∧ Times R m i j := by
  induction n generalizing i with
  | zero => exact ⟨0, Nat.zero_le _, Nat.le_refl _, h⟩
  | succ n ih =>
    obtain ⟨k, first, rest⟩ := h
    obtain ⟨m, short, fewer, walk⟩ := ih rest
    have behind := le_of_times forth rest
    rcases Nat.lt_or_eq_of_le (forth _ _ first) with moved | rfl
    · exact ⟨m + 1, by omega, by omega, k, first, walk⟩
    · exact ⟨m, short, by omega, walk⟩

end Times

namespace Tree

/-- The pattern matches the part of the text between two places. -/
def Spans (text : List Char) : Tree → Nat → Nat → Prop
  | empty, i, j => i = j
  | .text s, i, j => s <+: text.drop i ∧ j = i + s.length
  | one s, i, j => text[i]?.any (fun c => s.contains c.toNat) ∧ j = i + 1
  | anchor a ascii, i, j => a.holds ascii (if i = 0 then none else text[i - 1]?) text[i]? ∧ i = j
  | group _ p, i, j => p.Spans text i j
  | cat p q, i, j => ∃ k, p.Spans text i k ∧ q.Spans text k j
  | alt p q, i, j => p.Spans text i j ∨ q.Spans text i j
  | repeated p least most, i, j =>
    ∃ n, least ≤ n ∧ (∀ m, most = some m → n ≤ max least m) ∧ Times (p.Spans text) n i j

theorem Spans.le {text : List Char} {p : Tree} {i j : Nat} (h : p.Spans text i j) : i ≤ j := by
  induction p generalizing i j with
  | empty => exact Nat.le_of_eq h
  | text s => exact h.2 ▸ Nat.le_add_right _ _
  | one s => exact h.2 ▸ Nat.le_succ _
  | anchor a ascii => exact Nat.le_of_eq h.2
  | group n p ih => exact ih h
  | cat p q ihp ihq =>
    obtain ⟨k, front, back⟩ := h
    exact Nat.le_trans (ihp front) (ihq back)
  | alt p q ihp ihq => exact h.elim ihp ihq
  | repeated p least most ih =>
    obtain ⟨n, _, _, walk⟩ := h
    exact le_of_times (fun _ _ => ih) walk

theorem spans_text_cons {text s : List Char} {c : Char} {i j : Nat} :
    (Tree.text (c :: s)).Spans text i j ↔
      text[i]?.any (· == c) ∧ (Tree.text s).Spans text (i + 1) j := by
  have rest : (text.drop i).tail = text.drop (i + 1) := List.tail_drop ..
  have first : (text.drop i).head? = text[i]? := List.head?_drop ..
  have length : i + (s.length + 1) = i + 1 + s.length := by omega
  simp only [Spans, ← rest, ← first, List.length_cons, length, ← and_assoc]
  refine and_congr_left fun _ => ?_
  cases text.drop i with
  | nil => simp
  | cons d r => simp [List.cons_prefix_cons, eq_comm (a := d)]

end Tree

def Places.Within (length : Nat) (places : Places) : Prop := ∀ k, places.testBit k → k ≤ length

/-- A step takes places of a text to the places that a relation leads to from them. -/
structure Follows (length : Nat) (f : Places → Places) (R : Nat → Nat → Prop) : Prop where
  within : ∀ {places}, Places.Within length places → Places.Within length (f places)
  image : ∀ {places}, Places.Within length places →
    ∀ j, (f places).testBit j ↔ ∃ i, places.testBit i ∧ R i j

namespace Follows

variable {length : Nat} {f g : Places → Places} {R S : Nat → Nat → Prop}

theorem le (h : Follows length f R) {i j : Nat} (inside : i ≤ length) (step : R i j) :
    j ≤ length := by
  have single : Places.Within length (2 ^ i) := fun k there => by
    rw [Nat.testBit_two_pow, decide_eq_true_eq] at there
    exact there ▸ inside
  exact h.within single j ((h.image single j).2 ⟨i, Nat.testBit_two_pow_self, step⟩)

theorem next (hf : Follows length f R) (hg : Follows length g S) :
    Follows length (fun places => g (f places)) fun i j => ∃ k, R i k ∧ S k j where
  within h := hg.within (hf.within h)
  image h j := by
    rw [hg.image (hf.within h)]
    simp only [hf.image h]
    constructor
    · rintro ⟨k, ⟨i, there, front⟩, back⟩
      exact ⟨i, there, k, front, back⟩
    · rintro ⟨i, there, k, front, back⟩
      exact ⟨k, ⟨i, there, front⟩, back⟩

theorem iterate (h : Follows length f R) (n : Nat) :
    Follows length (Moves.iterate f n) (Times R n) := by
  induction n with
  | zero => exact ⟨id, fun _ j => by simp [Moves.iterate, Times]⟩
  | succ n ih =>
    have step : Moves.iterate f (n + 1) = fun places => Moves.iterate f n (f places) := by
      funext places
      rw [Moves.iterate]
      split
      · next same => rw [same, Moves.iterate_eq_self same]
      · rfl
    rw [step]
    exact h.next ih

theorem testBit_or (h : Follows length f R) {new : Places} (fresh : new.Within length)
    (seen : Places) (j : Nat) :
    (seen ||| f new).testBit j ↔ seen.testBit j ∨ ∃ i, new.testBit i ∧ R i j := by
  rw [Nat.testBit_or, Bool.or_eq_true, h.image fresh]

end Follows

/-- A search for what a relation leads to: what has been seen and is not new leads only to what has been
seen. -/
structure Search (length : Nat) (R : Nat → Nat → Prop) (seen new : Places) : Prop where
  within : seen.Within length
  part : ∀ i, new.testBit i → seen.testBit i
  settled : ∀ i j, seen.testBit i → new.testBit i = false → R i j → seen.testBit j

namespace Search

variable {length : Nat} {f : Places → Places} {R : Nat → Nat → Prop} {seen new : Places}

theorem fresh (search : Search length R seen new) : new.Within length :=
  fun k there => search.within k (search.part k there)

theorem onward (search : Search length R seen new) (h : Follows length f R) {i j : Nat}
    (there : seen.testBit i) (step : R i j) : (seen ||| f new).testBit j := by
  refine (h.testBit_or search.fresh seen j).2 ?_
  cases last : new.testBit i with
  | true => exact .inr ⟨i, last, step⟩
  | false => exact .inl (search.settled i j there last step)

theorem next (search : Search length R seen new) (h : Follows length f R) :
    Search length R (seen ||| f new) ((seen ||| f new) ^^^ seen) where
  within k there := by
    rw [Nat.testBit_or, Bool.or_eq_true] at there
    exact there.elim (search.within k) (h.within search.fresh k)
  part i there := by
    rw [Nat.testBit_xor] at there
    cases old : seen.testBit i with
    | true => simp [Nat.testBit_or, old]
    | false => simpa [old] using there
  settled i j there old step := by
    refine search.onward h ?_ step
    rw [Nat.testBit_xor, there] at old
    simpa using old

theorem testBit_collect (search : Search length R seen new) (h : Follows length f R) (n j : Nat) :
    (Moves.collect f n seen new).testBit j ↔ ∃ i, seen.testBit i ∧ ∃ m ≤ n, Times R m i j := by
  induction n generalizing seen new with
  | zero => simp [Moves.collect, Times]
  | succ n ih =>
    rw [Moves.collect]
    split
    · next same =>
      refine ⟨fun there => ⟨j, there, 0, Nat.zero_le _, rfl⟩, ?_⟩
      rintro ⟨i, there, m, _, walk⟩
      exact times_stays (fun i j there step => same ▸ search.onward h there step) there walk
    · rw [ih (search.next h)]
      constructor
      · rintro ⟨i, there, m, few, walk⟩
        rcases (h.testBit_or search.fresh seen i).1 there with there | ⟨k, last, step⟩
        · exact ⟨i, there, m, Nat.le_succ_of_le few, walk⟩
        · exact ⟨k, search.part k last, m + 1, Nat.succ_le_succ few, i, step, walk⟩
      · rintro ⟨i, there, m, few, walk⟩
        cases m with
        | zero =>
          exact ⟨i, (h.testBit_or search.fresh seen i).2 (.inl there), 0, Nat.zero_le _, walk⟩
        | succ m =>
          obtain ⟨k, step, rest⟩ := walk
          exact ⟨k, search.onward h there step, m, Nat.le_of_succ_le_succ few, rest⟩

theorem within_collect (search : Search length R seen new) (h : Follows length f R) (n : Nat) :
    (Moves.collect f n seen new).Within length := by
  induction n generalizing seen new with
  | zero => exact search.within
  | succ n ih =>
    rw [Moves.collect]
    split
    · exact search.within
    · exact ih (search.next h)

end Search

theorem Follows.collect {length : Nat} {f : Places → Places} {R : Nat → Nat → Prop}
    (h : Follows length f R) (least n : Nat) :
    Follows length (fun places => Moves.collect f n (Moves.iterate f least places)
        (Moves.iterate f least places))
      fun i j => ∃ m, least ≤ m ∧ m ≤ least + n ∧ Times R m i j := by
  have search {places : Places} (fits : places.Within length) :
      Search length R (Moves.iterate f least places) (Moves.iterate f least places) :=
    ⟨(h.iterate least).within fits, fun _ there => there,
      fun i j there missing _ => absurd there (by simp [missing])⟩
  refine ⟨fun fits => (search fits).within_collect h n, fun fits j => ?_⟩
  rw [(search fits).testBit_collect h]
  simp only [(h.iterate least).image fits]
  constructor
  · rintro ⟨k, ⟨i, there, front⟩, m, few, back⟩
    exact ⟨i, there, least + m, Nat.le_add_right .., Nat.add_le_add_left few _,
      times_add.2 ⟨k, front, back⟩⟩
  · rintro ⟨i, there, m, enough, few, walk⟩
    obtain ⟨more, rfl⟩ := Nat.exists_eq_add_of_le enough
    obtain ⟨k, front, back⟩ := times_add.1 walk
    exact ⟨k, ⟨i, there, front⟩, more, Nat.le_of_add_le_add_left few, back⟩

theorem follows_stay (length : Nat) : Follows length (Moves.stay.ends length) Eq :=
  ⟨id, fun _ j => by simp [Moves.ends]⟩

theorem follows_pass (test : Char → Bool) (text : List Char) :
    Follows text.length ((Moves.pass ((Letters.ofText text).ahead test)).ends text.length)
      fun i j => text[i]?.any test ∧ j = i + 1 where
  within fits k there := by
    simp only [Moves.ends, Nat.testBit_shiftLeft, Nat.testBit_and, Letters.testBit_ahead,
      Bool.and_eq_true, decide_eq_true_eq] at there
    obtain ⟨some, -, letter⟩ := there
    obtain ⟨c, at_, -⟩ := Option.any_eq_true _ _ |>.1 letter
    have := (List.getElem?_eq_some_iff.1 at_).1
    omega
  image fits j := by
    simp only [Moves.ends, Nat.testBit_shiftLeft, Nat.testBit_and, Letters.testBit_ahead,
      Bool.and_eq_true, decide_eq_true_eq]
    constructor
    · rintro ⟨some, there, letter⟩
      exact ⟨j - 1, there, letter, by omega⟩
    · rintro ⟨i, there, letter, rfl⟩
      exact ⟨Nat.le_add_left .., there, letter⟩

namespace Tree

theorem follows_text (s text : List Char) :
    Follows text.length (((Tree.text s).moves text (.ofText text)).ends text.length)
      ((Tree.text s).Spans text) := by
  induction s with
  | nil =>
    refine ⟨id, fun _ j => ?_⟩
    have nothing (i : Nat) : (Tree.text []).Spans text i j ↔ i = j := by simp [Spans, eq_comm]
    simp [moves, Moves.ends, nothing]
  | cons c r ih =>
    have both := (follows_pass (· == c) text).next ih
    refine ⟨both.within, fun fits j => (both.image fits j).trans ?_⟩
    refine exists_congr fun i => and_congr_right fun _ => ?_
    rw [spans_text_cons]
    constructor
    · rintro ⟨k, ⟨letter, rfl⟩, rest⟩
      exact ⟨letter, rest⟩
    · rintro ⟨letter, rest⟩
      exact ⟨_, ⟨letter, rfl⟩, rest⟩

/-- From given places a pattern leads to the places up to which it matches. -/
theorem follows_moves (p : Tree) (text : List Char) :
    Follows text.length ((p.moves text (.ofText text)).ends text.length) (p.Spans text) := by
  induction p with
  | empty => exact follows_stay _
  | text s => exact follows_text s text
  | one s => exact follows_pass _ text
  | anchor a ascii =>
    have kept {places : Places} (fits : places.Within text.length) (j : Nat) :
        (places &&& a.places ascii text).testBit j ↔
          places.testBit j ∧ a.holds ascii (if j = 0 then none else text[j - 1]?) text[j]? := by
      rw [Nat.testBit_and, Bool.and_eq_true]
      exact and_congr_right fun there => by rw [a.testBit_places ascii text j (fits j there)]
    refine ⟨fun fits k there => fits k ((kept fits k).1 there).1, fun fits j => ?_⟩
    refine (kept fits j).trans ⟨fun ⟨there, holds⟩ => ⟨j, there, holds, rfl⟩, ?_⟩
    rintro ⟨i, there, holds, rfl⟩
    exact ⟨there, holds⟩
  | group n p ih => exact ih
  | cat p q ihp ihq => exact ihp.next ihq
  | alt p q ihp ihq =>
    refine ⟨fun fits k there => ?_, fun fits j => ?_⟩
    · rw [moves, Moves.ends, Nat.testBit_or, Bool.or_eq_true] at there
      exact there.elim (ihp.within fits k) (ihq.within fits k)
    · rw [moves, Moves.ends, Nat.testBit_or, Bool.or_eq_true, ihp.image fits, ihq.image fits,
        ← exists_or]
      exact exists_congr fun i => and_or_left.symm
  | repeated p least most ih =>
    cases most with
    | some most =>
      have bounded := ih.collect least (most - least)
      refine ⟨bounded.within, fun fits j => (bounded.image fits j).trans ?_⟩
      refine exists_congr fun i => and_congr_right fun _ => exists_congr fun n => ?_
      have same : n ≤ least + (most - least) ↔ n ≤ max least most := by omega
      simp [same]
    | none =>
      have bounded := ih.collect least (text.length + 1)
      refine ⟨bounded.within, fun fits j => (bounded.image fits j).trans ?_⟩
      refine exists_congr fun i => and_congr_right fun there => ?_
      constructor
      · rintro ⟨n, enough, _, walk⟩
        exact ⟨n, enough, by simp, walk⟩
      · rintro ⟨n, enough, _, walk⟩
        -- Of the steps behind the least ones no more are needed than the text has places.
        obtain ⟨more, rfl⟩ := Nat.exists_eq_add_of_le enough
        obtain ⟨k, front, back⟩ := times_add.1 walk
        obtain ⟨fewer, short, _, back⟩ := times_shorten (fun _ _ => Spans.le) back
        have behind : j ≤ text.length :=
          times_stays (S := (· ≤ text.length)) (fun _ _ => ih.le) (fits i there) walk
        exact ⟨least + fewer, by omega, by omega, times_add.2 ⟨k, front, back⟩⟩

theorem occursIn_iff (p : Tree) (text : List Char) :
    p.occursIn text ↔ ∃ i j, i ≤ text.length ∧ p.Spans text i j := by
  have everywhere (k : Nat) : (Places.all text.length).testBit k ↔ k ≤ text.length := by
    rw [Places.all, Nat.one_shiftLeft, Nat.testBit_two_pow_sub_one, decide_eq_true_eq,
      Nat.lt_succ_iff]
  have ends := (p.follows_moves text).image fun k => (everywhere k).1
  rw [occursIn, bne_iff_ne]
  constructor
  · intro found
    obtain ⟨j, there⟩ := Nat.exists_testBit_of_ne_zero found
    obtain ⟨i, inside, body⟩ := (ends j).1 there
    exact ⟨i, j, (everywhere i).1 inside, body⟩
  · rintro ⟨i, j, inside, body⟩ nowhere
    have there := (ends j).2 ⟨i, (everywhere i).2 inside, body⟩
    rw [nowhere, Nat.zero_testBit] at there
    cases there

def Path (text : List Char) : List Tree → Nat → Nat → Prop
  | [], i, j => i = j
  | p :: ps, i, j => ∃ k, p.Spans text i k ∧ Path text ps k j

variable {text : List Char} {i j : Nat}

theorem path_append {ps qs : List Tree} :
    Path text (ps ++ qs) i j ↔ ∃ k, Path text ps i k ∧ Path text qs k j := by
  induction ps generalizing i with
  | nil => simp [Path]
  | cons p ps ih =>
    simp only [List.cons_append, Path, ih]
    constructor
    · rintro ⟨k, first, l, front, back⟩
      exact ⟨l, ⟨k, first, front⟩, back⟩
    · rintro ⟨l, ⟨k, first, front⟩, back⟩
      exact ⟨k, first, l, front, back⟩

theorem path_singleton {p : Tree} : Path text [p] i j ↔ p.Spans text i j := by simp [Path]

theorem path_parts {p : Tree} : Path text p.parts i j ↔ p.Spans text i j := by
  induction p generalizing i with
  | empty => exact Iff.rfl
  | cat p q _ ihq => exact exists_congr fun k => and_congr_right fun _ => ihq
  | text s => exact path_singleton
  | one s => exact path_singleton
  | anchor a ascii => exact path_singleton
  | group n p => exact path_singleton
  | alt p q => exact path_singleton
  | repeated p least most => exact path_singleton

theorem spans_chain {ps : List Tree} : (chain ps).Spans text i j ↔ Path text ps i j := by
  induction ps generalizing i with
  | nil => exact Iff.rfl
  | cons p ps ih =>
    cases ps with
    | nil => exact path_singleton.symm
    | cons q ps => exact exists_congr fun k => and_congr_right fun _ => ih

theorem spans_text_append {s t : List Char} :
    (Tree.text (s ++ t)).Spans text i j ↔
      ∃ k, (Tree.text s).Spans text i k ∧ (Tree.text t).Spans text k j := by
  induction s generalizing i with
  | nil => simp [Spans]
  | cons c s ih => simp only [List.cons_append, spans_text_cons, ih, exists_and_left, and_assoc]

theorem path_prepend {p : Tree} {ps : List Tree} :
    Path text (prepend p ps) i j ↔ Path text (p :: ps) i j := by
  unfold prepend
  split
  · simp only [Path, spans_text_append]
    constructor
    · rintro ⟨k, ⟨l, front, back⟩, rest⟩
      exact ⟨l, front, k, back, rest⟩
    · rintro ⟨l, front, k, back, rest⟩
      exact ⟨k, ⟨l, front, back⟩, rest⟩
  · exact Iff.rfl

theorem spans_sequence {ps : List Tree} : (sequence ps).Spans text i j ↔ Path text ps i j := by
  have joined (qs : List Tree) (i : Nat) :
      Path text (qs.foldr prepend []) i j ↔ Path text qs i j := by
    induction qs generalizing i with
    | nil => exact Iff.rfl
    | cons q qs ih =>
      rw [List.foldr_cons, path_prepend]
      exact exists_congr fun k => and_congr_right fun _ => ih k
  rw [sequence, spans_chain, joined]
  induction ps generalizing i with
  | nil => exact Iff.rfl
  | cons p ps ih =>
    rw [List.flatMap_cons, path_append]
    exact exists_congr fun k => and_congr path_parts ih

/-- The pattern between the anchors for the start and the end of the text. -/
def framed (p : Tree) : Tree := sequence [.anchor .textStart false, p, .anchor .textEnd false]

theorem spans_start {ascii : Bool} (inside : i ≤ text.length) :
    (Tree.anchor .textStart ascii).Spans text i j ↔ i = 0 ∧ j = 0 := by
  cases i with
  | zero => simp [Spans, Anchor.holds, eq_comm]
  | succ i => simp [Spans, Anchor.holds, Nat.lt_of_succ_le inside]

theorem spans_end {ascii : Bool} (inside : i ≤ text.length) :
    (Tree.anchor .textEnd ascii).Spans text i j ↔ i = text.length ∧ j = text.length := by
  simp only [Spans, Anchor.holds, Option.isNone_iff_eq_none, List.getElem?_eq_none_iff]
  omega

/-- Between the anchors a pattern occurs in a text exactly if it matches the whole text. -/
theorem occursIn_framed (p : Tree) (text : List Char) :
    p.framed.occursIn text ↔ p.Spans text 0 text.length := by
  simp only [occursIn_iff, framed, spans_sequence, Path]
  constructor
  · rintro ⟨i, j, inside, k, start, l, body, m, stop, rfl⟩
    obtain ⟨rfl, rfl⟩ := (spans_start inside).1 start
    obtain ⟨rfl, -⟩ := (spans_end ((p.follows_moves text).le (Nat.zero_le _) body)).1 stop
    exact body
  · intro body
    exact ⟨0, text.length, Nat.zero_le _, 0, (spans_start (Nat.zero_le _)).2 ⟨rfl, rfl⟩, _, body, _,
      (spans_end (Nat.le_refl _)).2 ⟨rfl, rfl⟩, rfl⟩

end Tree

end Registrar.Pattern
