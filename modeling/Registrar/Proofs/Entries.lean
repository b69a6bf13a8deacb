import Mathlib.Data.List.Nodup
import Registrar.Entries

/-!
Pairs put over entries one after another. Main statements: pairs with different keys can be put in any order,
are found under their keys, and change nothing when they are put a second time.
-/

namespace Registrar.Entries

variable {α β : Type} {key : String} {entries pairs others : List (String × β)}

theorem mem_of_get? {v : β} (h : get? key pairs = some v) : (key, v) ∈ pairs := by
  induction pairs with
  | nil => cases h
  | cons pair r ih =>
    unfold get? at h
    split at h
    · next same =>
      cases h
      exact same ▸ List.mem_cons_self
    · exact List.mem_cons_of_mem _ (ih h)

theorem get?_of_mem {v : β} (distinct : (pairs.map Prod.fst).Nodup) (there : (key, v) ∈ pairs) :
    get? key pairs = some v := by
  induction pairs with
  | nil => cases there
  | cons pair r ih =>
    obtain ⟨apart, distinct⟩ := List.nodup_cons.1 distinct
    rcases List.mem_cons.1 there with rfl | there
    · exact if_pos rfl
    · have other : pair.1 ≠ key := fun same => apart (same ▸ List.mem_map_of_mem there)
      rw [get?, if_neg other]
      exact ih distinct there

theorem get?_map (pairs : List (String × (α → β))) (a : α) :
    get? key (pairs.map fun pair => (pair.1, pair.2 a)) = (get? key pairs).map fun f => f a := by
  induction pairs with
  | nil => rfl
  | cons pair r ih =>
    simp only [List.map_cons, get?]
    split
    · rfl
    · exact ih

theorem get?_putAll_of_ne (h : ∀ pair ∈ pairs, pair.1 ≠ key) (entries : List (String × β)) :
    get? key (putAll entries pairs) = get? key entries := by
  induction pairs generalizing entries with
  | nil => rfl
  | cons pair r ih =>
    have first := h pair List.mem_cons_self
    refine (ih (fun p hp => h p (List.mem_cons_of_mem _ hp)) _).trans ?_
    exact get?_put_of_ne first.symm pair.2 entries

theorem get?_putAll (distinct : (pairs.map Prod.fst).Nodup) (entries : List (String × β)) :
    get? key (putAll entries pairs) = (get? key pairs).or (get? key entries) := by
  induction pairs generalizing entries with
  | nil => rfl
  | cons pair r ih =>
    obtain ⟨apart, distinct⟩ := List.nodup_cons.1 distinct
    refine (ih distinct (put pair.1 pair.2 entries)).trans ?_
    rw [get?.eq_2]
    by_cases same : pair.1 = key
    · have missing : get? key r = none := by
        cases found : get? key r with
        | none => rfl
        | some v => exact absurd (same ▸ List.mem_map_of_mem (mem_of_get? found)) apart
      rw [if_pos same, missing, ← same, get?_put_self]
      rfl
    · rw [if_neg same, get?_put_of_ne (Ne.symm same)]

theorem get?_putAll_eq_some_iff {v : β} (distinct : (pairs.map Prod.fst).Nodup) :
    get? key (putAll [] pairs) = some v ↔ (key, v) ∈ pairs := by
  rw [get?_putAll distinct, show get? key ([] : List (String × β)) = none from rfl, Option.or_none]
  exact ⟨mem_of_get?, get?_of_mem distinct⟩

theorem get?_putAll_map (names : List String) (value : String → β) (key : String)
    (entries : List (String × β)) :
    get? key (putAll entries (names.map fun name => (name, value name))) =
      if key ∈ names then some (value key) else get? key entries := by
  induction names generalizing entries with
  | nil => simp [putAll]
  | cons name r ih =>
    have later := ih (put name (value name) entries)
    rw [List.map_cons, putAll, List.foldl_cons]
    refine later.trans ?_
    by_cases there : key ∈ r
    · simp [there]
    · by_cases same : key = name
      · simp [same, get?_put_self]
      · simp [there, same, get?_put_of_ne same]

theorem get?_putAll_congr {a b : List (String × β)} (h : get? key a = get? key b)
    (pairs : List (String × β)) : get? key (putAll a pairs) = get? key (putAll b pairs) := by
  induction pairs generalizing a b with
  | nil => exact h
  | cons pair r ih =>
    obtain ⟨k, v⟩ := pair
    refine ih ?_
    by_cases hk : key = k
    · rw [hk, get?_put_self, get?_put_self]
    · rw [get?_put_of_ne hk, get?_put_of_ne hk, h]

theorem put_comm_of_lt {key other : String} (h : key < other) (v w : β)
    (entries : List (String × β)) :
    put key v (put other w entries) = put other w (put key v entries) := by
  have after : ¬other < key := String.lt_asymm h
  have apart : key ≠ other := String.ne_of_lt h
  induction entries with
  | nil => simp [put, h, after, apart]
  | cons entry r ih =>
    obtain ⟨k, u⟩ := entry
    rcases Std.lt_trichotomy key k with before | same | behind
    · rcases Std.lt_trichotomy other k with low | same | high
      · simp [put, before, low, h, after, apart]
      · simp [put, ← same, h, after, apart]
      · have later : ¬other < k := String.lt_asymm high
        simp [put, before, later, String.ne_of_lt high, after, apart]
    · simp [put, ← same, after, apart]
    · have high := String.lt_trans behind h
      simp [put, String.lt_asymm behind, String.lt_asymm high, String.ne_of_lt behind,
        String.ne_of_lt high, ih]

theorem put_comm {key other : String} (h : key ≠ other) (v w : β) (entries : List (String × β)) :
    put key v (put other w entries) = put other w (put key v entries) := by
  rcases Std.lt_trichotomy key other with before | same | behind
  · exact put_comm_of_lt before v w entries
  · exact absurd same h
  · exact (put_comm_of_lt behind w v entries).symm

theorem putAll_append (entries front rest : List (String × β)) :
    putAll entries (front ++ rest) = putAll (putAll entries front) rest :=
  List.foldl_append

theorem putAll_perm (distinct : (pairs.map Prod.fst).Nodup) (perm : pairs.Perm others)
    (entries : List (String × β)) : putAll entries pairs = putAll entries others := by
  refine perm.foldl_eq' (fun a ha b hb entries => ?_) entries
  by_cases same : a = b
  · rw [same]
  · have apart : a.1 ≠ b.1 := fun keys => same (List.inj_on_of_nodup_map distinct ha hb keys)
    exact put_comm apart.symm b.2 a.2 entries

theorem Ordered.putAll (h : Ordered entries) (pairs : List (String × β)) :
    Ordered (putAll entries pairs) := by
  induction pairs generalizing entries with
  | nil => exact h
  | cons pair r ih => exact ih (h.put pair.1 pair.2)

theorem mem_putAll {entry : String × β} (h : entry ∈ putAll entries pairs) :
    entry ∈ pairs ∨ entry ∈ entries := by
  induction pairs generalizing entries with
  | nil => exact .inr h
  | cons pair r ih =>
    rcases ih h with later | earlier
    · exact .inl (List.mem_cons_of_mem _ later)
    · rcases mem_put earlier with rfl | earlier
      · exact .inl List.mem_cons_self
      · exact .inr earlier

theorem perm_put (vacant : ∀ e ∈ entries, e.1 ≠ key) (value : β) :
    (put key value entries).Perm ((key, value) :: entries) := by
  induction entries with
  | nil => exact .refl _
  | cons e r ih =>
    obtain ⟨k, v⟩ := e
    have other : k ≠ key := vacant (k, v) List.mem_cons_self
    have rest := ih fun e he => vacant e (List.mem_cons_of_mem _ he)
    unfold put
    split
    · exact .refl _
    · exact (rest.cons _).trans (.swap _ _ _)

theorem perm_putAll (distinct : ((entries ++ pairs).map Prod.fst).Nodup) :
    (putAll entries pairs).Perm (entries ++ pairs) := by
  induction pairs generalizing entries with
  | nil => simp [putAll]
  | cons pair r ih =>
    obtain ⟨k, v⟩ := pair
    have moved : (entries ++ (k, v) :: r).Perm ((k, v) :: entries ++ r) := List.perm_middle
    have vacant : ∀ e ∈ entries, e.1 ≠ k := by
      intro e he same
      have front := (List.nodup_cons.1 ((moved.map Prod.fst).nodup_iff.1 distinct)).1
      exact front (List.mem_map.2 ⟨e, List.mem_append_left _ he, same⟩)
    have put := perm_put vacant v
    refine ((ih ?_).trans (put.append_right r)).trans moved.symm
    exact (((put.append_right r).trans moved.symm).map Prod.fst).nodup_iff.2 distinct

theorem get?_filter_of_kept {p : String → Bool} (kept : p key = true) (entries : List (String × β)) :
    get? key (entries.filter fun e => p e.1) = get? key entries := by
  induction entries with
  | nil => rfl
  | cons entry r ih =>
    by_cases same : entry.1 = key
    · simp [get?, same, kept]
    · by_cases here : p entry.1 = true
      · simp [here, get?, same, ih]
      · simp [here, get?, same, ih]

theorem get?_filter_of_dropped {p : String → Bool} (dropped : p key = false)
    (entries : List (String × β)) : get? key (entries.filter fun e => p e.1) = none := by
  induction entries with
  | nil => rfl
  | cons entry r ih =>
    by_cases here : p entry.1 = true
    · have other : entry.1 ≠ key := fun same => by simp [← same, here] at dropped
      simp [here, get?, other, ih]
    · simp [here, ih]

theorem Ordered.nodup (h : Ordered entries) : (entries.map Prod.fst).Nodup :=
  List.pairwise_map.2 (h.imp fun before => String.ne_of_lt before)

end Registrar.Entries
