import Registrar.Proofs.Store.Run

/-!
Copies of a record in the hands of clients. A client loads a copy, edits it and saves it, while any
number of others do the same. Main statement: of all copies loaded at one version at most one is
saved, and every later one is refused.
-/

namespace Registrar.Store

open Json

def Write.Saves (entityType key : String) : Write → Store → Prop
  | @save _ _ _ _ k _ supply author e, s =>
    ∃ saved, (s.save k supply author e).2 = .ok saved ∧ k.entityType = entityType ∧
      k.key saved = key
  | @delete _ _ _ _ _ _ _, _ => False

def Write.Deletes (entityType key : String) : Write → Store → Prop
  | @save _ _ _ _ _ _ _ _ _, _ => False
  | @delete _ _ _ k now author e, s =>
    (s.delete k now author e).2 = .ok () ∧ k.entityType = entityType ∧ k.key e = key

/-- New records of the write get identifiers that do not stand for none. -/
def Write.IsSound : Write → Prop
  | @save _ _ _ _ _ _ supply _ _ => supply.IsSound
  | @delete _ _ _ _ _ _ _ => True

/-- The store after the first `n` writes of a history. -/
def reached (writes : List Write) (n : Nat) : Store := run (writes.take n) {}

/-- One of the writes from number `i` on and before number `j` does what `P` says. -/
def Within (P : Write → Store → Prop) (writes : List Write) (i j : Nat) : Prop :=
  ∃ n w, i ≤ n ∧ n < j ∧ writes[n]? = some w ∧ P w (reached writes n)

theorem reached_succ {writes : List Write} {n : Nat} {w : Write} (h : writes[n]? = some w) :
    reached writes (n + 1) = w.apply (reached writes n) := by
  rw [reached, List.take_add_one, h, run_append]
  rfl

theorem reached_of_none {writes : List Write} {n : Nat} (h : writes[n]? = none) :
    reached writes (n + 1) = reached writes n := by
  rw [reached, List.take_add_one, h, Option.toList_none, List.append_nil, reached]

theorem Within.mono {P : Write → Store → Prop} {writes : List Write} {i j i' j' : Nat}
    (hi : i' ≤ i) (hj : j ≤ j') (h : Within P writes i j) : Within P writes i' j' := by
  obtain ⟨n, w, hn, hm, hw, hp⟩ := h
  exact ⟨n, w, Nat.le_trans hi hn, Nat.lt_of_lt_of_le hm hj, hw, hp⟩

theorem within_succ {P : Write → Store → Prop} {writes : List Write} {i j : Nat} (h : i ≤ j) :
    Within P writes i (j + 1) ↔
      Within P writes i j ∨ ∃ w, writes[j]? = some w ∧ P w (reached writes j) := by
  constructor
  · rintro ⟨n, w, hn, hm, hw, hp⟩
    rcases Nat.lt_succ_iff_lt_or_eq.1 hm with hm | rfl
    · exact .inl ⟨n, w, hn, hm, hw, hp⟩
    · exact .inr ⟨w, hw, hp⟩
  · rintro (inside | ⟨w, hw, hp⟩)
    · exact inside.mono (Nat.le_refl i) (Nat.le_succ j)
    · exact ⟨j, w, h, Nat.lt_succ_self j, hw, hp⟩

theorem identified_run {writes : List Write} (sound : ∀ w ∈ writes, w.IsSound) :
    ∀ row ∈ (run writes {}).rows, row.IsIdentified := by
  refine run_induction (P := fun s => ∀ row ∈ s.rows, row.IsIdentified) ?_ (by simp)
  intro w hw s h
  have first := sound w hw
  cases w with
  | save law supply author e => exact identified_save law first h
  | delete k now author e => exact fun row hrow => h row (mem_rows_delete hrow)

section Row

variable {I E : Type} [Identifier I] {k : Kind I E} {entityType key : String} {s : Store}
variable {row : SavedRow}

theorem row?_save [LawfulIdentifier I] (law : k.Lawful)
    (found : s.row? entityType key = some row) (supply : Supply) (author : Author) (e : E) :
    ∃ row', (s.save k supply author e).1.row? entityType key = some row' ∧
      ((Write.save law supply author e).Saves entityType key s ∧ row'.version = row.version + 1 ∨
        ¬(Write.save law supply author e).Saves entityType key s ∧ row' = row) := by
  rcases row?_save_cases law supply author e s entityType key with
    ⟨same, elsewhere⟩ | ⟨x, answer, type, own, _, next, shown⟩
  · refine ⟨row, same.trans found, .inr ⟨?_, rfl⟩⟩
    rintro ⟨saved, answer, place⟩
    exact elsewhere saved answer place
  · rw [found] at next
    exact ⟨_, shown, .inl ⟨⟨x, answer, type, own⟩, next⟩⟩

theorem row?_delete (found : s.row? entityType key = some row) {now : Instant} {author : Author}
    {e : E} (kept : ¬(Write.delete k now author e).Deletes entityType key s) :
    (s.delete k now author e).1.row? entityType key = some row := by
  rcases row?_delete_cases (k := k) now author e s entityType key with ⟨same, _⟩ | ⟨deletes, _⟩
  · exact same.trans found
  · exact absurd deletes kept

end Row

theorem row?_apply {entityType key : String} {w : Write} {s : Store} {row : SavedRow}
    (found : s.row? entityType key = some row) (kept : ¬w.Deletes entityType key s) :
    ∃ row', (w.apply s).row? entityType key = some row' ∧
      (w.Saves entityType key s ∧ row'.version = row.version + 1 ∨
        ¬w.Saves entityType key s ∧ row' = row) := by
  cases w with
  | save law supply author e => exact row?_save law found supply author e
  | delete k now author e => exact ⟨row, row?_delete found kept, .inr ⟨id, rfl⟩⟩

/-- Over a part of a history that does not delete a record, its version grows if the record is saved
there, and its row stays if not. -/
theorem row?_reached {entityType key : String} {writes : List Write} {i j : Nat} {row : SavedRow}
    (order : i ≤ j) (kept : ¬Within (Write.Deletes entityType key) writes i j)
    (found : (reached writes i).row? entityType key = some row) :
    ∃ row', (reached writes j).row? entityType key = some row' ∧
      (Within (Write.Saves entityType key) writes i j ∧ row.version < row'.version ∨
        ¬Within (Write.Saves entityType key) writes i j ∧ row' = row) := by
  induction order with
  | refl =>
    refine ⟨row, found, .inr ⟨?_, rfl⟩⟩
    rintro ⟨n, w, hn, hm, _⟩
    omega
  | @step j order ih =>
    rw [within_succ order, not_or] at kept
    rw [within_succ order]
    obtain ⟨row', found', since⟩ := ih kept.1
    cases hw : writes[j]? with
    | none =>
      rw [reached_of_none hw]
      refine ⟨row', found', since.imp (And.imp .inl id) (And.imp ?_ id)⟩
      rintro unsaved (inside | ⟨w, h, _⟩)
      · exact unsaved inside
      · cases h
    | some w =>
      rw [reached_succ hw]
      obtain ⟨last, found'', now⟩ := row?_apply found' fun h => kept.2 ⟨w, hw, h⟩
      refine ⟨last, found'', ?_⟩
      rcases now with ⟨saves, raised⟩ | ⟨unsaved, rfl⟩
      · refine .inl ⟨.inr ⟨w, rfl, saves⟩, ?_⟩
        rcases since with ⟨_, grown⟩ | ⟨_, rfl⟩ <;> omega
      · refine since.imp (And.imp .inl id) (And.imp ?_ id)
        rintro before (inside | ⟨w, h, saves⟩)
        · exact before inside
        · cases h
          exact unsaved saves

section Turns

variable {I E : Type} [Identifier I] {k : Kind I E}

theorem save_found {supply : Supply} {author : Author} {s : Store} {id : I} {e : E} {row : SavedRow}
    (hid : k.id e = some id) (isSet : Identifier.isUnset id = false)
    (found : s.row? k.entityType (Identifier.text id) = some row) :
    s.save k supply author e =
      let counted := { s with saves := s.saves + 1 }
      if row.version = k.version e then
        let next := k.setVersion (row.version + 1) e
        (counted.replace supply.now author row (k.row (Identifier.text id) next), .ok next)
      else
        (counted,
          .error (.modified k.entityType (Identifier.text id) (k.version e) row.version)) := by
  have counted : s.identify k supply e = ({ s with saves := s.saves + 1 }, e) := by
    simp [identify, isNew_of_id hid isSet]
  have sameRow : ({ s with saves := s.saves + 1 } : Store).row? k.entityType (Identifier.text id) =
      some row := found
  have sameKey : (k.idText? e).getD "" = Identifier.text id := key_of_id hid
  unfold save
  simp only [counted, sameKey, sameRow]

variable [LawfulIdentifier I]

/-- What one client does with a record in a history of writes: it loads a copy after the first
`loaded` of them, edits all but its identifier and version, and saves it as number `saved`. -/
structure Turn (law : k.Lawful) (id : I) (writes : List Write) where
  loaded : Nat
  saved : Nat
  order : loaded ≤ saved
  copy : E
  edited : E
  supply : Supply
  author : Author
  load : (reached writes loaded).find? k id = .ok (some copy)
  sameId : k.id edited = k.id copy
  sameVersion : k.version edited = k.version copy
  save : writes[saved]? = some (.save law supply author edited)

namespace Turn

variable {law : k.Lawful} {id : I} {writes : List Write} (t u : Turn law id writes)

def answer : Except Error E :=
  ((reached writes t.saved).save k t.supply t.author t.edited).2

abbrev SavedWithin (_ : Turn law id writes) (i j : Nat) : Prop :=
  Within (Write.Saves k.entityType (Identifier.text id)) writes i j

abbrev DeletedWithin (_ : Turn law id writes) (i j : Nat) : Prop :=
  Within (Write.Deletes k.entityType (Identifier.text id)) writes i j

theorem loaded_from (sound : ∀ w ∈ writes, w.IsSound) :
    ∃ row, (reached writes t.loaded).row? k.entityType (Identifier.text id) = some row ∧
      row.version = k.version t.copy ∧ k.id t.edited = some id ∧ Identifier.isUnset id = false := by
  obtain ⟨row, found, hid, version, isSet⟩ := of_find? law (coherent_run _) t.load
  have identified := identified_run (fun w hw => sound w (List.mem_of_mem_take hw)) row
    (mem_of_row? found)
  exact ⟨row, found, version.symm, t.sameId.trans hid, isSet identified⟩

/-- Until a client saves its copy, the record keeps the row that the copy was loaded from unless
somebody else saves the record. -/
theorem row_at_save (sound : ∀ w ∈ writes, w.IsSound)
    (kept : ¬t.DeletedWithin t.loaded t.saved) :
    ∃ row, (reached writes t.saved).row? k.entityType (Identifier.text id) = some row ∧
      k.id t.edited = some id ∧ Identifier.isUnset id = false ∧
      (row.version = k.version t.copy ↔ ¬t.SavedWithin t.loaded t.saved) := by
  obtain ⟨first, found, version, hid, isSet⟩ := t.loaded_from sound
  obtain ⟨row, found', since⟩ := row?_reached t.order kept found
  refine ⟨row, found', hid, isSet, ?_⟩
  rcases since with ⟨saved, grown⟩ | ⟨unsaved, rfl⟩
  · refine ⟨fun same => ?_, fun unsaved => absurd saved unsaved⟩
    omega
  · exact ⟨fun _ => unsaved, fun _ => version⟩

theorem reached_save :
    reached writes (t.saved + 1) =
      ((reached writes t.saved).save k t.supply t.author t.edited).1 := by
  rw [reached_succ t.save]
  rfl

theorem succeeds_iff (sound : ∀ w ∈ writes, w.IsSound)
    (kept : ¬t.DeletedWithin t.loaded t.saved) :
    (∃ e, t.answer = .ok e) ↔ ¬t.SavedWithin t.loaded t.saved := by
  obtain ⟨row, found, hid, isSet, current⟩ := t.row_at_save sound kept
  rw [← current, answer, save_found hid isSet found, t.sameVersion]
  split
  · next same => simp [same]
  · next stale => simp [stale]

theorem savedWithin_of_succeeds (sound : ∀ w ∈ writes, w.IsSound) {i j : Nat}
    (success : ∃ e, t.answer = .ok e) (hi : i ≤ t.saved) (hj : t.saved < j) :
    t.SavedWithin i j := by
  obtain ⟨e, he⟩ := success
  obtain ⟨_, _, _, hid, isSet⟩ := t.loaded_from sound
  refine ⟨t.saved, _, hi, hj, t.save, e, he, rfl, ?_⟩
  have same := id_saved law he
  rw [named_of_not_isNew k (isNew_of_id hid isSet), hid] at same
  exact key_of_id same

/-- Of two copies that show the same version, the one that is saved later is refused. -/
theorem later_refused (sound : ∀ w ∈ writes, w.IsSound)
    (sameVersion : k.version t.copy = k.version u.copy) (later : t.saved < u.saved)
    (kept : ¬t.DeletedWithin (min t.loaded u.loaded) u.saved)
    (success : ∃ e, t.answer = .ok e) : ¬∃ e, u.answer = .ok e := by
  intro success'
  by_cases before : u.loaded ≤ t.saved
  · have kept' : ¬u.DeletedWithin u.loaded u.saved :=
      fun h => kept (h.mono (Nat.min_le_right ..) (Nat.le_refl _))
    exact (u.succeeds_iff sound kept').1 success'
      (t.savedWithin_of_succeeds sound success before later)
  · obtain ⟨row, found, version, _⟩ := t.loaded_from sound
    obtain ⟨row', found', version', _⟩ := u.loaded_from sound
    have order : t.saved < u.loaded := Nat.lt_of_not_le before
    have order' : t.loaded ≤ u.loaded := Nat.le_trans t.order (Nat.le_of_lt order)
    have kept' : ¬t.DeletedWithin t.loaded u.loaded :=
      fun h => kept (h.mono (Nat.min_le_left ..) u.order)
    obtain ⟨last, found'', since⟩ := row?_reached order' kept' found
    cases found'.symm.trans found''
    rcases since with ⟨_, grown⟩ | ⟨unsaved, _⟩
    · omega
    · exact unsaved (t.savedWithin_of_succeeds sound success t.order order)

/-- However clients take turns, a copy of a record that is not deleted meanwhile is saved, with the
next version, just if nobody else saved the record since the copy was loaded; else it is refused and
changes nothing. So of all copies that show one version at most one is saved. -/
theorem saved_iff_first (sound : ∀ w ∈ writes, w.IsSound)
    (kept : ¬t.DeletedWithin t.loaded t.saved) :
    ((∃ e, t.answer = .ok e) ↔ ¬t.SavedWithin t.loaded t.saved) ∧
    (∀ e, t.answer = .ok e → e = k.setVersion (k.version t.copy + 1) t.edited ∧
      (reached writes (t.saved + 1)).row? k.entityType (Identifier.text id) =
        some (k.row (Identifier.text id) e)) ∧
    (∀ fault, t.answer = .error fault →
      (∃ current, fault =
        .modified k.entityType (Identifier.text id) (k.version t.copy) current) ∧
      (reached writes (t.saved + 1)).rows = (reached writes t.saved).rows ∧
      (reached writes (t.saved + 1)).revisions = (reached writes t.saved).revisions) ∧
    ∀ u : Turn law id writes, k.version t.copy = k.version u.copy → t.saved ≠ u.saved →
      ¬t.DeletedWithin (min t.loaded u.loaded) (max t.saved u.saved) →
      ¬((∃ e, t.answer = .ok e) ∧ ∃ e, u.answer = .ok e) := by
  refine ⟨t.succeeds_iff sound kept, fun e he => ?_, fun fault hfault => ?_,
    fun u sameVersion apart keptBoth ⟨first, second⟩ => ?_⟩
  · obtain ⟨row, found, hid, isSet, current⟩ := t.row_at_save sound kept
    have same := current.2 ((t.succeeds_iff sound kept).1 ⟨e, he⟩)
    have answered := he
    rw [answer, save_found hid isSet found, if_pos (same.trans t.sameVersion.symm)] at answered
    cases answered
    rw [reached_save, save_found hid isSet found, if_pos (same.trans t.sameVersion.symm), ← same]
    exact ⟨rfl, row?_replace (k.row (Identifier.text id) _) found⟩
  · obtain ⟨row, found, hid, isSet, current⟩ := t.row_at_save sound kept
    have unchanged := save_error k hfault
    rw [reached_save]
    refine ⟨⟨row.version, ?_⟩, unchanged⟩
    rw [answer, save_found hid isSet found, t.sameVersion] at hfault
    split at hfault
    · cases hfault
    · cases hfault
      rfl
  · rcases Nat.lt_or_gt_of_ne apart with later | later
    · rw [Nat.max_eq_right (Nat.le_of_lt later)] at keptBoth
      exact t.later_refused u sound sameVersion later keptBoth first second
    · rw [Nat.max_eq_left (Nat.le_of_lt later), Nat.min_comm] at keptBoth
      exact u.later_refused t sound sameVersion.symm later keptBoth second first

end Turn
end Turns

/-- A department is saved, and then twice more by clients that loaded it in between. -/
def rivalWrites : List Write :=
  let supply : Supply := ⟨⟨0, 0⟩, fun _ => "d1"⟩
  [.save Department.kind_lawful supply ⟨"ann", "new"⟩ { code := "D", name := "Desk" },
    .save Department.kind_lawful supply ⟨"ann", "edit"⟩
      { id := some "d1", code := "D", name := "Office" },
    .save Department.kind_lawful supply ⟨"bob", "edit"⟩
      { id := some "d1", code := "D", name := "Bureau" }]

def firstRival : Turn Department.kind_lawful "d1" rivalWrites where
  loaded := 1
  saved := 1
  order := Nat.le_refl 1
  copy := { id := some "d1", code := "D", name := "Desk" }
  edited := { id := some "d1", code := "D", name := "Office" }
  supply := ⟨⟨0, 0⟩, fun _ => "d1"⟩
  author := ⟨"ann", "edit"⟩
  load := rfl
  sameId := rfl
  sameVersion := rfl
  save := rfl

def secondRival : Turn Department.kind_lawful "d1" rivalWrites where
  loaded := 1
  saved := 2
  order := Nat.le_succ 1
  copy := { id := some "d1", code := "D", name := "Desk" }
  edited := { id := some "d1", code := "D", name := "Bureau" }
  supply := ⟨⟨0, 0⟩, fun _ => "d1"⟩
  author := ⟨"bob", "edit"⟩
  load := rfl
  sameId := rfl
  sameVersion := rfl
  save := rfl

theorem second_rival_refused :
    (∃ e, firstRival.answer = .ok e) ∧ ¬∃ e, secondRival.answer = .ok e := by
  have shown : Text.allBlank "d1" = false := by decide
  have sound : ∀ w ∈ rivalWrites, w.IsSound := by
    intro w hw
    simp only [rivalWrites, List.mem_cons, List.not_mem_nil, or_false] at hw
    rcases hw with rfl | rfl | rfl <;> exact fun _ => shown
  have kept (i j : Nat) : ¬firstRival.DeletedWithin i j := by
    rintro ⟨n, w, _, _, hw, deletes⟩
    have member := List.mem_of_getElem? hw
    simp only [rivalWrites, List.mem_cons, List.not_mem_nil, or_false] at member
    rcases member with rfl | rfl | rfl <;> exact deletes
  have success : ∃ e, firstRival.answer = .ok e := ⟨_, rfl⟩
  obtain ⟨_, _, _, once⟩ := firstRival.saved_iff_first sound (kept 1 1)
  exact ⟨success, fun rival => once secondRival rfl (by decide) (kept 1 2) ⟨success, rival⟩⟩

end Registrar.Store
