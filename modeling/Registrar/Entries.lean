/-!
Lists of entries in ascending order of their keys, each key once. Main statements: looking up a key
after `put` finds what was put, and other keys keep their value.
-/

namespace Registrar.Entries

variable {β : Type}

def get? (key : String) : List (String × β) → Option β
  | [] => none
  | (k, v) :: r => if k = key then some v else get? key r

/-- Sets the value under a key, at the key's place in the order. -/
def put (key : String) (value : β) : List (String × β) → List (String × β)
  | [] => [(key, value)]
  | (k, v) :: r =>
    if key < k then (key, value) :: (k, v) :: r
    else if k = key then (key, value) :: r
    else (k, v) :: put key value r

/-- Sets the value under a key that has none. -/
def putNew (key : String) (value : β) (entries : List (String × β)) : List (String × β) :=
  match get? key entries with
  | some _ => entries
  | none => put key value entries

/-- The pairs put one after another; of two with one key the later stays. -/
def putAll (entries pairs : List (String × β)) : List (String × β) :=
  pairs.foldl (fun entries (k, v) => put k v entries) entries

theorem get?_put_self (key : String) (value : β) (entries : List (String × β)) :
    get? key (put key value entries) = some value := by
  induction entries with
  | nil => simp [put, get?]
  | cons e r ih =>
    obtain ⟨k, v⟩ := e
    unfold put
    split
    · simp [get?]
    · split
      · simp [get?]
      · next h => simp [get?, h, ih]

theorem get?_put_of_ne {key other : String} (h : other ≠ key) (value : β)
    (entries : List (String × β)) :
    get? other (put key value entries) = get? other entries := by
  induction entries with
  | nil => simp [put, get?, Ne.symm h]
  | cons e r ih =>
    obtain ⟨k, v⟩ := e
    unfold put
    split
    · simp [get?, Ne.symm h]
    · split
      · next hk => simp [get?, Ne.symm h, hk]
      · simp [get?, ih]

def Ordered (entries : List (String × β)) : Prop := entries.Pairwise fun a b => a.1 < b.1

theorem mem_put {key : String} {value : β} {entries : List (String × β)} {e : String × β}
    (h : e ∈ put key value entries) : e = (key, value) ∨ e ∈ entries := by
  induction entries with
  | nil => simpa [put] using h
  | cons d r ih =>
    obtain ⟨k, v⟩ := d
    unfold put at h
    split at h
    · simpa using h
    · split at h
      · rcases List.mem_cons.1 h with h | h
        · exact .inl h
        · exact .inr (List.mem_cons_of_mem _ h)
      · rcases List.mem_cons.1 h with h | h
        · exact .inr (h ▸ List.mem_cons_self)
        · exact (ih h).imp id (List.mem_cons_of_mem _)

theorem Ordered.put {entries : List (String × β)} (h : Ordered entries) (key : String) (value : β) :
    Ordered (put key value entries) := by
  induction entries with
  | nil => simp [Entries.put, Ordered]
  | cons d r ih =>
    obtain ⟨k, v⟩ := d
    obtain ⟨hd, hr⟩ := List.pairwise_cons.1 h
    unfold Entries.put
    split
    · next hlt =>
      refine List.pairwise_cons.2 ⟨fun e he => ?_, h⟩
      rcases List.mem_cons.1 he with rfl | he
      · exact hlt
      · exact String.lt_trans hlt (hd e he)
    · split
      · next heq => exact List.pairwise_cons.2 ⟨fun e he => heq ▸ hd e he, hr⟩
      · next hlt hne =>
        refine List.pairwise_cons.2 ⟨fun e he => ?_, ih hr⟩
        rcases mem_put he with rfl | he
        · exact Decidable.byContradiction fun hn =>
            hne (String.le_antisymm (String.not_lt.1 hlt) (String.not_lt.1 hn))
        · exact hd e he

end Registrar.Entries
