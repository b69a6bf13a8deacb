import Registrar.Proofs.Pattern.Rest

/-!
How deep a pattern nests, and how deep groups may lie around it. Main statements: what is read inside more
groups is read the same inside fewer; and a pattern whose piece nests little enough is read the same inside
one group more.
-/

namespace Registrar.Pattern

variable {fuel level more n : Nat} {mode : Mode} {p q : Progress} {s r : List Char}

namespace Piece

theorem le_foldl_depth (ps : List Piece) (start : Nat) :
    start ≤ ps.foldl (fun depth p => max depth p.depth) start ∧
      ∀ p ∈ ps, p.depth ≤ ps.foldl (fun depth p => max depth p.depth) start := by
  induction ps generalizing start with
  | nil => exact ⟨Nat.le_refl _, by simp⟩
  | cons p ps ih =>
    obtain ⟨front, rest⟩ := ih (max start p.depth)
    refine ⟨Nat.le_trans (Nat.le_max_left ..) front, fun other member => ?_⟩
    rcases List.mem_cons.1 member with rfl | member
    · exact Nat.le_trans (Nat.le_max_right ..) front
    · exact rest other member

theorem depth_le_nesting {piece : Piece} {ps : List Piece} (member : piece ∈ ps) :
    piece.depth ≤ nesting ps := by
  unfold nesting
  split
  · cases member
  · exact Nat.le_of_eq (congrArg depth (List.mem_singleton.1 member))
  · exact Nat.le_trans ((le_foldl_depth _ 0).2 piece member) (Nat.le_add_left ..)

theorem depth_le_choice {piece : Piece} {ps : List Piece} (member : piece ∈ ps) :
    piece.depth ≤ (choice ps).depth := by
  unfold choice
  split
  · exact Nat.le_of_eq (congrArg depth (List.mem_singleton.1 member))
  · exact depth_le_nesting member

end Piece

/-- No part that has been read nests deeper. -/
def Progress.Shallow (n : Nat) (p : Progress) : Prop :=
  ∀ piece ∈ p.pieces ++ p.alternatives, piece.depth ≤ n

namespace Progress.Shallow

theorem of_branch (h : p.branch.Shallow n) : p.Shallow n := by
  intro piece member
  rcases List.mem_append.1 member with member | member
  · have inside := Piece.depth_le_nesting (List.mem_reverse.2 member)
    exact Nat.le_trans inside (h _ List.mem_cons_self)
  · exact h piece (List.mem_cons_of_mem _ member)

theorem of_push {piece : Piece} (h : (p.push piece).Shallow n) : p.Shallow n :=
  fun other member => h other (List.mem_cons_of_mem _ member)

theorem of_repeated? {least : Nat} {most : Option Nat} (again : p.repeated? least most = some q)
    (h : q.Shallow n) : p.Shallow n := by
  unfold Progress.repeated? at again
  split at again
  · cases again
  · next piece rest front =>
    obtain ⟨longer, read, same⟩ := Option.map_eq_some_iff.1 again
    cases same
    have deeper : piece.depth ≤ longer.depth := by
      unfold Piece.repeated? at read
      split at read
      · cases read
      · cases read
        exact Nat.le_add_left ..
    intro other member
    rw [front] at member
    rcases List.mem_cons.1 member with rfl | member
    · exact Nat.le_trans deeper (h _ List.mem_cons_self)
    · exact h other (List.mem_cons_of_mem _ member)

theorem finish (p : Progress) : p.Shallow p.finish.depth := by
  refine of_branch fun piece member => ?_
  exact Piece.depth_le_choice (List.mem_reverse.2 member)

theorem depth_of_close {inner : Progress} {wrap : Tree → Tree} (h : (p.close inner wrap).Shallow n) :
    inner.finish.depth < n := by
  have inside : 1 + inner.finish.depth ≤ n := h _ List.mem_cons_self
  omega

theorem of_close {inner : Progress} {wrap : Tree → Tree} (h : (p.close inner wrap).Shallow n) :
    p.Shallow n :=
  fun other member => h other (List.mem_cons_of_mem _ member)

theorem of_partFrom? {c : Char} {inner : Mode}
    (read : partFrom? mode p c s = some (.onward inner q, r)) (h : q.Shallow n) : p.Shallow n := by
  have again {least : Nat} {most : Option Nat} {t : List Char}
      (read : (p.repeated? least most).map (fun p => (Part.onward mode p, t)) =
        some (.onward inner q, r)) : p.Shallow n := by
    obtain ⟨longer, found, same⟩ := Option.map_eq_some_iff.1 read
    cases same
    exact of_repeated? found h
  have pushed {piece : Piece} {t : List Char}
      (read : some (Part.onward mode (p.push piece), t) = some (.onward inner q, r)) :
      p.Shallow n := by
    cases read
    exact of_push h
  have mapped {α : Type} {o : Option α} {piece : α → Piece} {t : List Char}
      (read : o.map (fun x => (Part.onward mode (p.push (piece x)), t)) =
        some (.onward inner q, r)) : p.Shallow n := by
    obtain ⟨x, _, same⟩ := Option.map_eq_some_iff.1 read
    exact pushed (congrArg some same)
  unfold partFrom? at read
  dsimp only at read
  split at read
  · cases read
    exact of_branch h
  · exact again read
  · exact again read
  · exact again read
  · split at read
    · exact again read
    · cases read
  · split at read
    · cases read
      exact of_push h
    · cases read
    · obtain ⟨groups, _, same⟩ := Option.map_eq_some_iff.1 read
      cases same
    · cases read
  · split at read
    · exact pushed read
    · cases read
  · split at read
    · exact mapped read
    · cases read
  · exact mapped read
  · exact pushed read
  · exact pushed read
  · exact pushed read

theorem of_part? {inner : Mode} (read : part? mode p s = some (.onward inner q, r))
    (h : q.Shallow n) : p.Shallow n := by
  unfold part? at read
  split at read
  · cases read
  · split at read
    · cases read
    · exact of_partFrom? read h

theorem of_group? (read : group? fuel level mode p s = some (q, r)) (h : q.Shallow n) :
    p.Shallow n := by
  induction fuel generalizing level mode p s with
  | zero => cases read
  | succ fuel ih =>
    unfold group? at read
    split at read
    · cases read
    · cases read
      exact h
    · next part => exact of_part? part (ih read)
    · split at read
      · cases read
      · split at read
        · cases read
        · split at read
          · exact of_close (ih read)
          · cases read

end Progress.Shallow

theorem group?_outward {found : Progress × List Char} (fewer : level ≤ more)
    (h : group? fuel more mode p s = some found) : group? fuel level mode p s = some found := by
  induction fuel generalizing level more mode p s found with
  | zero => cases h
  | succ fuel ih =>
    unfold group? at h ⊢
    split at h
    · cases h
    · exact h
    · exact ih fewer h
    · split at h
      · cases h
      · next room =>
        split at h
        · cases h
        · next read =>
          split at h
          · next stop =>
            rw [if_neg (by omega), ih (Nat.succ_le_succ fewer) read]
            dsimp only
            rw [stop]
            exact ih fewer h
          · cases h

theorem group?_inward (h : group? fuel level mode p s = some (q, r)) (shallow : q.Shallow n)
    (room : level + n < maxDepth) : group? fuel (level + 1) mode p s = some (q, r) := by
  induction fuel generalizing level mode p s q r n with
  | zero => cases h
  | succ fuel ih =>
    unfold group? at h ⊢
    split at h
    · cases h
    · exact h
    · exact ih h shallow room
    · split at h
      · cases h
      · split at h
        · cases h
        · next inner _ read =>
          split at h
          · next stop =>
            have deeper := (shallow.of_group? h).depth_of_close
            rw [if_neg (by omega), ih read (.finish inner) (by omega)]
            dsimp only
            rw [stop]
            exact ih h shallow room
          · cases h

end Registrar.Pattern
