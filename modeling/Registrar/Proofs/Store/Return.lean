import Registrar.Proofs.Store.Copies

/-!
Copies that outlive their record. Between a client's load and its save the record may be deleted, and
added again under its identifier. Main statement: the store tells such a copy by its version alone, so
it refuses the copy unless the record that is there now was saved as often as the old one had been, or
unless the old one had been saved just once and no record is there.
-/

namespace Registrar.Store

open Json

/-- How often the record that the store holds under a key was saved. -/
def age (s : Store) (entityType key : String) : Int :=
  (s.row? entityType key).elim 0 fun row => row.version + 1

instance Write.decidableSaves (entityType key : String) :
    ∀ (w : Write) (s : Store), Decidable (w.Saves entityType key s)
  | @save _ _ _ _ k _ supply author e, s =>
    match h : (s.save k supply author e).2 with
    | .ok saved =>
      decidable_of_iff (k.entityType = entityType ∧ k.key saved = key) (by simp [Saves, h])
    | .error _ => isFalse (by simp [Saves, h])
  | @delete _ _ _ _ _ _ _, _ => isFalse id

instance Write.decidableDeletes (entityType key : String) :
    ∀ (w : Write) (s : Store), Decidable (w.Deletes entityType key s)
  | @save _ _ _ _ _ _ _ _ _, _ => isFalse id
  | @delete _ _ _ k now author e, s =>
    match h : (s.delete k now author e).2 with
    | .ok () => decidable_of_iff (k.entityType = entityType ∧ k.key e = key) (by simp [Deletes, h])
    | .error _ => isFalse (by simp [Deletes, h])

/-- How often the first writes of a history save a record, after the last of them that deletes it. -/
def lifeSaves (entityType key : String) (writes : List Write) : Nat → Nat
  | 0 => 0
  | n + 1 =>
    match writes[n]? with
    | none => lifeSaves entityType key writes n
    | some w =>
      if w.Deletes entityType key (reached writes n) then 0
      else if w.Saves entityType key (reached writes n) then lifeSaves entityType key writes n + 1
      else lifeSaves entityType key writes n

section Age

variable {I E : Type} [Identifier I] {k : Kind I E} {entityType key : String} {s : Store}

theorem age_of_row? {row : SavedRow} (found : s.row? entityType key = some row) :
    s.age entityType key = row.version + 1 := by
  rw [age, found]
  rfl

theorem age_of_vacant (vacant : s.row? entityType key = none) : s.age entityType key = 0 := by
  rw [age, vacant]
  rfl

/-- A write ends the life of a record, or counts as one save of it, or leaves it alone. -/
theorem age_apply (w : Write) (s : Store) :
    (w.apply s).age entityType key =
      if w.Deletes entityType key s then 0
      else if w.Saves entityType key s then s.age entityType key + 1 else s.age entityType key := by
  cases w with
  | @save I E _ _ k law supply author e =>
    rw [if_neg (show ¬(Write.save law supply author e).Deletes entityType key s from id)]
    rcases row?_save_cases law supply author e s entityType key with
      ⟨same, elsewhere⟩ | ⟨x, answer, type, own, _, next, shown⟩
    · have unsaved : ¬(Write.save law supply author e).Saves entityType key s :=
        fun ⟨saved, answer, place⟩ => elsewhere saved answer place
      rw [if_neg unsaved, age, age, Write.apply, same]
    · rw [if_pos (show (Write.save law supply author e).Saves entityType key s from
        ⟨x, answer, type, own⟩)]
      exact (age_of_row? shown).trans (congrArg (· + 1) next)
  | delete k now author e =>
    rw [if_neg (show ¬(Write.delete k now author e).Saves entityType key s from id)]
    rcases row?_delete_cases (k := k) now author e s entityType key with
      ⟨same, kept⟩ | ⟨deletes, gone⟩
    · rw [if_neg (show ¬(Write.delete k now author e).Deletes entityType key s from kept), age, age,
        Write.apply, same]
    · rw [if_pos (show (Write.delete k now author e).Deletes entityType key s from deletes)]
      exact age_of_vacant gone

theorem age_reached (entityType key : String) (writes : List Write) (n : Nat) :
    (reached writes n).age entityType key = lifeSaves entityType key writes n := by
  induction n with
  | zero => rfl
  | succ n ih =>
    unfold lifeSaves
    cases hw : writes[n]? with
    | none => rw [reached_of_none hw, ih]
    | some w =>
      rw [reached_succ hw, age_apply, ih]
      dsimp only
      split
      · rfl
      · split <;> rfl

theorem save_missing (supply : Supply) (author : Author) {id : I} {e : E}
    (hid : k.id e = some id) (isSet : Identifier.isUnset id = false)
    (vacant : s.row? k.entityType (Identifier.text id) = none) :
    s.save k supply author e =
      let counted := { s with saves := s.saves + 1 }
      if k.version e = 0 then
        (counted.add supply.now author (k.row (Identifier.text id) e), .ok e)
      else (counted, .error (.gone k.label (Identifier.text id))) := by
  have counted : s.identify k supply e = ({ s with saves := s.saves + 1 }, e) := by
    simp [identify, isNew_of_id hid isSet]
  have noRow : ({ s with saves := s.saves + 1 } : Store).row? k.entityType (Identifier.text id) =
      none := vacant
  have sameKey : (k.idText? e).getD "" = Identifier.text id := key_of_id hid
  unfold save
  simp only [counted, sameKey, noRow]

end Age

namespace Turn

variable {I E : Type} [Identifier I] [LawfulIdentifier I] {k : Kind I E}
variable {law : k.Lawful} {id : I} {writes : List Write} (t : Turn law id writes)

/-- The save of the copy is refused, as the record is gone or has another version, and changes
nothing. -/
def Refused : Prop :=
  (t.answer = .error (.gone k.label (Identifier.text id)) ∨
    ∃ current, t.answer =
      .error (.modified k.entityType (Identifier.text id) (k.version t.copy) current)) ∧
  (reached writes (t.saved + 1)).rows = (reached writes t.saved).rows ∧
  (reached writes (t.saved + 1)).revisions = (reached writes t.saved).revisions

/-- How often the record was saved in its present life, when the first writes have been done. -/
abbrev savesBy (_ : Turn law id writes) (n : Nat) : Nat :=
  lifeSaves k.entityType (Identifier.text id) writes n

theorem version_copy (sound : ∀ w ∈ writes, w.IsSound) :
    0 ≤ k.version t.copy ∧ k.version t.copy + 1 = t.savesBy t.loaded := by
  obtain ⟨row, found, version, _⟩ := t.loaded_from sound
  rw [← age_reached, age_of_row? found, ← version]
  exact ⟨(versions_run (writes.take t.loaded) row (mem_of_row? found)).1, rfl⟩

theorem refused_of_error (h : t.answer =
      .error (.gone k.label (Identifier.text id)) ∨ ∃ current, t.answer =
      .error (.modified k.entityType (Identifier.text id) (k.version t.copy) current)) :
    t.Refused := by
  obtain ⟨fault, hfault⟩ : ∃ fault, t.answer = .error fault := by
    rcases h with h | ⟨_, h⟩ <;> exact ⟨_, h⟩
  have unchanged := save_error k hfault
  rw [← t.reached_save] at unchanged
  exact ⟨h, unchanged⟩

theorem not_refused_of_ok {e : E} (h : t.answer = .ok e) : ¬t.Refused := by
  rintro ⟨refused | ⟨_, refused⟩, _⟩ <;> cases h.symm.trans refused

/-- Whatever happens to a record between the load of a copy and its save, the copy is refused just if
the present life of the record has seen another number of saves than the life that the copy stems
from had seen, and does not pass for a new record, which it does if it is from a first save and the
record is gone. A copy that is not refused becomes the record's row. -/
theorem refused_iff_other_life (sound : ∀ w ∈ writes, w.IsSound) :
    (t.Refused ↔ t.savesBy t.saved ≠ t.savesBy t.loaded ∧
      ¬(t.savesBy t.saved = 0 ∧ t.savesBy t.loaded = 1)) ∧
    (t.Refused ∨ ∃ e, t.answer = .ok e ∧
      (reached writes (t.saved + 1)).row? k.entityType (Identifier.text id) =
        some (k.row (Identifier.text id) e)) := by
  obtain ⟨_, _, _, hid, isSet⟩ := t.loaded_from sound
  obtain ⟨shown, loaded⟩ := t.version_copy sound
  have present : (reached writes t.saved).age k.entityType (Identifier.text id) =
      t.savesBy t.saved := age_reached ..
  cases here : (reached writes t.saved).row? k.entityType (Identifier.text id) with
  | none =>
    rw [age_of_vacant here] at present
    have answered := save_missing t.supply t.author hid isSet here
    rw [t.sameVersion] at answered
    by_cases first : k.version t.copy = 0
    · rw [if_pos first] at answered
      have done : t.answer = .ok t.edited := by rw [answer, answered]
      refine ⟨⟨fun refused => absurd refused (t.not_refused_of_ok done), fun other => ?_⟩,
        .inr ⟨_, done, ?_⟩⟩
      · exact absurd ⟨by omega, by omega⟩ other.2
      · rw [reached_save, answered]
        dsimp only
        rw [row?_append (s := reached writes t.saved) (k.row (Identifier.text id) t.edited) here rfl]
        exact if_pos (SavedRow.isAt_self _)
    · rw [if_neg first] at answered
      have refused := t.refused_of_error (.inl (by rw [answer, answered]))
      exact ⟨⟨fun _ => ⟨by omega, by omega⟩, fun _ => refused⟩, .inl refused⟩
  | some row =>
    rw [age_of_row? here] at present
    have low := (versions_run (writes.take t.saved) row (mem_of_row? here)).1
    have answered : (reached writes t.saved).save k t.supply t.author t.edited = _ :=
      save_found hid isSet here
    rw [t.sameVersion] at answered
    by_cases same : row.version = k.version t.copy
    · rw [if_pos same] at answered
      have done : t.answer = .ok (k.setVersion (row.version + 1) t.edited) := by
        rw [answer, answered]
      refine ⟨⟨fun refused => absurd refused (t.not_refused_of_ok done), fun other => ?_⟩,
        .inr ⟨_, done, ?_⟩⟩
      · exact absurd (by omega) other.1
      · rw [reached_save, answered]
        exact row?_replace (k.row (Identifier.text id) _) here
    · rw [if_neg same] at answered
      have refused := t.refused_of_error (.inr ⟨row.version, by rw [answer, answered]⟩)
      exact ⟨⟨fun _ => ⟨by omega, by omega⟩, fun _ => refused⟩, .inl refused⟩

end Turn

def filing (version : Int) (name : String) : Write :=
  .save Department.kind_lawful ⟨⟨0, 0⟩, fun _ => "d1"⟩ ⟨"ann", "edit"⟩
    { id := some "d1", version, code := "D", name }

def closing : Write := .delete Department.kind ⟨0, 0⟩ ⟨"ann", "close"⟩ { id := some "d1" }

/-- A client whose copy is the department "d1" in some version, and who renames it. -/
def renamed (writes : List Write) (loaded saved : Nat) (version : Int)
    (order : loaded ≤ saved)
    (load : (reached writes loaded).find? Department.kind "d1" =
      .ok (some { id := some "d1", version, code := "D", name := "Desk" }))
    (save : writes[saved]? = some (filing version "Bureau")) :
    Turn Department.kind_lawful "d1" writes where
  loaded := loaded
  saved := saved
  order := order
  copy := { id := some "d1", version, code := "D", name := "Desk" }
  edited := { id := some "d1", version, code := "D", name := "Bureau" }
  supply := ⟨⟨0, 0⟩, fun _ => "d1"⟩
  author := ⟨"ann", "edit"⟩
  load := load
  sameId := rfl
  sameVersion := rfl
  save := save

theorem sound_of_filings {writes : List Write}
    (h : ∀ w ∈ writes, w = closing ∨ ∃ version name, w = filing version name) :
    ∀ w ∈ writes, w.IsSound := by
  have shown : Text.allBlank "d1" = false := by decide
  intro w hw
  rcases h w hw with rfl | ⟨version, name, rfl⟩
  · exact trivial
  · exact fun _ => shown

/-- The copy is from the second save of a department that is closed and founded anew. -/
theorem copy_of_two_saves_refused :
    (renamed [filing 0 "Desk", filing 0 "Desk", closing, filing 0 "Office", filing 1 "Bureau"]
      2 4 1 (by decide) rfl rfl).Refused := by
  refine ((renamed _ 2 4 1 _ rfl rfl).refused_iff_other_life (sound_of_filings ?_)).1.2 ⟨?_, ?_⟩
  · simp
  · decide
  · decide

/-- Copies from the first save of a department bring it back once it is closed, and overwrite the
department that is founded in its place. -/
theorem copies_of_first_saves_return :
    let gone := renamed [filing 0 "Desk", closing, filing 0 "Bureau"] 1 2 0 (by decide) rfl rfl
    let renewed := renamed [filing 0 "Desk", closing, filing 0 "Office", filing 0 "Bureau"]
      1 3 0 (by decide) rfl rfl
    (gone.DeletedWithin gone.loaded gone.saved ∧ ¬gone.Refused) ∧
      renewed.DeletedWithin renewed.loaded renewed.saved ∧ ¬renewed.Refused := by
  intro gone renewed
  refine ⟨⟨⟨1, closing, ?_, ?_, rfl, rfl, rfl, rfl⟩, gone.not_refused_of_ok rfl⟩,
    ⟨1, closing, ?_, ?_, rfl, rfl, rfl, rfl⟩, renewed.not_refused_of_ok rfl⟩ <;> decide

end Registrar.Store
