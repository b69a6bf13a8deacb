import Registrar.Error
import Registrar.Params

/-!
The guard against submitting a form twice. It remembers the last token of each session, for a
bounded number of sessions; when a new session needs room, idle sessions go first, then those whose
last use is longest ago. Main statement: the guard never holds more sessions than its limit.
-/

namespace Registrar

/-- A remembered session: its last token, and the number of its last use. -/
structure Session where
  key : String
  token : Option String
  used : Nat
deriving DecidableEq, Repr

structure TokenGuard where
  limit : Nat := 10000
  /-- The time after which an unused session is idle has no length, so every session is. -/
  forgetful : Bool := false
  sessions : List Session := []
  uses : Nat := 0
  limit_pos : 0 < limit := by decide

namespace TokenGuard

/-- A guard for the given number of sessions, at least one. -/
def withLimit (limit : Nat) (forgetful : Bool) : TokenGuard where
  limit := max limit 1
  forgetful := forgetful
  limit_pos := Nat.lt_of_lt_of_le Nat.zero_lt_one (Nat.le_max_right _ _)

def find? (guard : TokenGuard) (key : String) : Option Session :=
  guard.sessions.find? fun s => s.key == key

def oldest? : List Session → Option Session
  | [] => none
  | s :: r =>
    match oldest? r with
    | some t => if t.used < s.used then some t else some s
    | none => some s

/-- Drops the sessions used longest ago until fewer than `limit` are left. -/
def evict (limit : Nat) : Nat → List Session → List Session
  | 0, sessions => sessions
  | fuel + 1, sessions =>
    if sessions.length < limit then sessions
    else
      match oldest? sessions with
      | some old => evict limit fuel (sessions.filter fun s => s.key != old.key)
      | none => sessions

/-- The sessions that stay when a new one needs room. -/
def room (guard : TokenGuard) : List Session :=
  if guard.sessions.length < guard.limit then guard.sessions
  else
    let awake := if guard.forgetful then [] else guard.sessions
    evict guard.limit awake.length awake

/-- Compares a token with the session's last one, and records it. -/
def submit (guard : TokenGuard) (key token : String) : TokenGuard × Except Error Unit :=
  let used := guard.uses + 1
  match guard.find? key with
  | some session =>
    let others := guard.sessions.filter fun s => s.key != key
    ({ guard with sessions := ⟨key, some token, used⟩ :: others, uses := used },
      if session.token = some token then .error .duplicateSubmission else .ok ())
  | none =>
    ({ guard with sessions := ⟨key, some token, used⟩ :: guard.room, uses := used }, .ok ())

/-- Checks the token of a request. The parameter `_token_name_` names the one that carries it;
without either the request passes unrecorded. -/
def verify (guard : TokenGuard) (key : String) (params : Params) :
    TokenGuard × Except Error Unit :=
  match params.getFilled? "_token_name_" with
  | none => (guard, .ok ())
  | some name =>
    match params.getFilled? name with
    | none => (guard, .ok ())
    | some token => guard.submit key token

theorem mem_of_oldest? {sessions : List Session} {old : Session}
    (h : oldest? sessions = some old) : old ∈ sessions := by
  induction sessions generalizing old with
  | nil => cases h
  | cons s r ih =>
    unfold oldest? at h
    split at h
    · next t ht =>
      split at h
      · cases h
        exact List.mem_cons_of_mem _ (ih ht)
      · cases h
        exact List.mem_cons_self
    · cases h
      exact List.mem_cons_self

theorem oldest?_isSome {sessions : List Session} (h : sessions ≠ []) :
    (oldest? sessions).isSome := by
  cases sessions with
  | nil => exact absurd rfl h
  | cons s r =>
    unfold oldest?
    split
    · split <;> rfl
    · rfl

theorem length_evict_lt {limit : Nat} (hl : 0 < limit) (fuel : Nat) (sessions : List Session)
    (hf : sessions.length ≤ fuel) : (evict limit fuel sessions).length < limit := by
  induction fuel generalizing sessions with
  | zero =>
    have : sessions.length = 0 := Nat.le_zero.1 hf
    simpa [evict, this] using hl
  | succ fuel ih =>
    unfold evict
    split
    · assumption
    · next hlen =>
      have hne : sessions ≠ [] := fun e => hlen (by simpa [e] using hl)
      obtain ⟨old, hold⟩ := Option.isSome_iff_exists.1 (oldest?_isSome hne)
      rw [hold]
      refine ih _ ?_
      have : (sessions.filter fun s => s.key != old.key).length < sessions.length :=
        List.length_filter_lt_length_iff_exists.2
          ⟨old, mem_of_oldest? hold, by simp⟩
      omega

theorem length_room_lt (guard : TokenGuard) : guard.room.length < guard.limit := by
  unfold room
  split
  · assumption
  · exact length_evict_lt guard.limit_pos _ _ (Nat.le_refl _)

theorem length_submit_le {guard : TokenGuard} (h : guard.sessions.length ≤ guard.limit)
    (key token : String) : (guard.submit key token).1.sessions.length ≤ guard.limit := by
  unfold submit
  dsimp only
  split
  · next session hs =>
    have hlt : (guard.sessions.filter fun s => s.key != key).length < guard.sessions.length := by
      refine List.length_filter_lt_length_iff_exists.2 ⟨session, List.mem_of_find?_eq_some hs, ?_⟩
      have := List.find?_some hs
      simp_all
    simp only [List.length_cons]
    omega
  · have := guard.length_room_lt
    simp only [List.length_cons]
    omega

end TokenGuard
end Registrar
