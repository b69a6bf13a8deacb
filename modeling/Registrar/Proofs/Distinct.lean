import Mathlib.Data.Finset.Card

/-!
Lists with repetitions erased. Main statements: each element is left once, in the order of the first
occurrences; erasing goes together with filtering and with appending; and the number of what is left is
that of the different elements.
-/

namespace Registrar

variable {α : Type}

theorem nodup_eraseDups [BEq α] [LawfulBEq α] : ∀ l : List α, l.eraseDups.Nodup
  | [] => .nil
  | a :: r => by
    rw [List.eraseDups_cons, List.nodup_cons]
    refine ⟨fun again => ?_, nodup_eraseDups _⟩
    have := List.mem_eraseDups.1 again
    simp at this
termination_by l => l.length
decreasing_by
  have := List.length_filter_le (fun b => !b == a) r
  simp only [List.length_cons]
  omega

theorem eraseDups_filter [BEq α] [LawfulBEq α] (p : α → Bool) :
    ∀ l : List α, (l.filter p).eraseDups = l.eraseDups.filter p
  | [] => rfl
  | a :: r => by
    have rest := eraseDups_filter p (r.filter fun b => !b == a)
    rw [List.filter_filter] at rest
    by_cases kept : p a
    · rw [List.filter_cons_of_pos kept, List.eraseDups_cons, List.eraseDups_cons,
        List.filter_cons_of_pos kept, ← rest, List.filter_filter]
      simp only [Bool.and_comm]
    · rw [List.filter_cons_of_neg kept, List.eraseDups_cons, List.filter_cons_of_neg kept, ← rest]
      -- What the filter lets pass is not the element that it drops.
      congr 1
      refine List.filter_congr fun b _ => ?_
      by_cases same : b = a
      · simp [same, kept]
      · simp [same]
termination_by l => l.length
decreasing_by
  have := List.length_filter_le (fun b => !b == a) r
  simp only [List.length_cons]
  omega

theorem length_eraseDups [DecidableEq α] (l : List α) : l.eraseDups.length = l.toFinset.card := by
  rw [← List.toFinset_card_of_nodup (nodup_eraseDups l)]
  congr 1
  ext a
  simp [List.mem_eraseDups]

theorem eraseDups_concat [BEq α] [LawfulBEq α] (l : List α) (a : α) [Decidable (a ∈ l)] :
    (l ++ [a]).eraseDups = if a ∈ l then l.eraseDups else l.eraseDups ++ [a] := by
  rw [List.eraseDups_append]
  split
  · next there => simp [List.removeAll, there]
  · next absent => simp [List.removeAll, absent, List.eraseDups_cons]

theorem eraseDups_of_nodup [BEq α] [LawfulBEq α] {l : List α} (h : l.Nodup) : l.eraseDups = l := by
  classical
  induction l using List.reverseRecOn with
  | nil => rfl
  | append_singleton l a ih =>
    rw [List.nodup_append] at h
    obtain ⟨distinct, _, apart⟩ := h
    have absent : a ∉ l := fun there => apart a there a List.mem_cons_self rfl
    rw [eraseDups_concat, if_neg absent, ih distinct]

/-- The elements of a list, each once, in the order in which they first occur. -/
structure FirstOccurrences [BEq α] (l firsts : List α) : Prop where
  distinct : firsts.Nodup
  mem_iff (a : α) : a ∈ firsts ↔ a ∈ l
  ordered : firsts.Pairwise fun a b => l.idxOf a < l.idxOf b

theorem pairwise_idxOf_eraseDups [BEq α] [LawfulBEq α] (l : List α) :
    l.eraseDups.Pairwise fun a b => l.idxOf a < l.idxOf b := by
  classical
  induction l using List.reverseRecOn with
  | nil => exact .nil
  | append_singleton l a ih =>
    -- What is there already keeps its place.
    have kept : l.eraseDups.Pairwise fun b c => (l ++ [a]).idxOf b < (l ++ [a]).idxOf c := by
      refine ih.imp_of_mem fun {b c} hb hc earlier => ?_
      rw [List.idxOf_append_of_mem (List.mem_eraseDups.1 hb),
        List.idxOf_append_of_mem (List.mem_eraseDups.1 hc)]
      exact earlier
    rw [eraseDups_concat]
    split
    · exact kept
    · next absent =>
      refine List.pairwise_append.2 ⟨kept, List.pairwise_singleton _ _, fun b hb c hc => ?_⟩
      obtain rfl := List.mem_singleton.1 hc
      have there := List.mem_eraseDups.1 hb
      have place := List.idxOf_lt_length_of_mem there
      rw [List.idxOf_append_of_mem there, List.idxOf_append_of_notMem absent]
      omega

theorem firstOccurrences_eraseDups [BEq α] [LawfulBEq α] (l : List α) :
    FirstOccurrences l l.eraseDups :=
  ⟨nodup_eraseDups l, fun _ => List.mem_eraseDups, pairwise_idxOf_eraseDups l⟩

theorem eraseDups_append_eq [BEq α] [LawfulBEq α] (l r : List α) :
    (l ++ r).eraseDups =
      l.eraseDups ++ r.eraseDups.filter fun a => !l.eraseDups.contains a := by
  rw [List.eraseDups_append, List.removeAll, eraseDups_filter]
  congr 1
  refine List.filter_congr fun a _ => ?_
  rw [List.elem_eq_contains, Bool.eq_iff_iff]
  simp [List.mem_eraseDups]

end Registrar
