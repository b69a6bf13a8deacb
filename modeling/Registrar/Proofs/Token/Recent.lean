import Registrar.Proofs.Distinct
import Registrar.TokenGuard

/-!
What the guard against repeated forms remembers. Numbers of uses are unique, so the session that makes
room is always the one whose last call is longest ago. Main statement: the guard holds the sessions that
called last, as many as its limit allows, and refuses a call just if the session's last call had the same
token and fewer other sessions than that have called since.
-/

namespace Registrar

section Lists

variable {α : Type} [DecidableEq α] {a : α} {l : List α}

theorem filter_take_of_mem {n : Nat} (distinct : l.Nodup) (h : a ∈ l.take n) :
    (l.take n).filter (· != a) = (l.filter (· != a)).take (n - 1) := by
  induction l generalizing n with
  | nil => simp at h
  | cons b r ih =>
    obtain ⟨apart, distinct⟩ := List.nodup_cons.1 distinct
    cases n with
    | zero => simp at h
    | succ n =>
      rw [List.take_succ_cons, List.mem_cons] at h
      by_cases same : a = b
      · subst same
        have others : ∀ c ∈ r, (c != a) = true := fun c hc =>
          bne_iff_ne.2 fun again => apart (again ▸ hc)
        simp [List.filter_eq_self.2 others,
          List.filter_eq_self.2 fun c hc => others c (List.mem_of_mem_take hc)]
      · obtain ⟨m, rfl⟩ : ∃ m, n = m + 1 :=
          Nat.exists_eq_succ_of_ne_zero (by rintro rfl; simp [same] at h)
        have kept (t : List α) : (b :: t).filter (· != a) = b :: t.filter (· != a) :=
          List.filter_cons_of_pos (bne_iff_ne.2 (Ne.symm same))
        rw [List.take_succ_cons, kept, kept, ih distinct (h.resolve_left same),
          Nat.add_sub_cancel, Nat.add_sub_cancel, List.take_succ_cons]

theorem take_filter_of_not_mem {n : Nat} (h : a ∉ l.take n) :
    (l.filter (· != a)).take n = l.take n := by
  induction l generalizing n with
  | nil => rfl
  | cons b r ih =>
    cases n with
    | zero => simp
    | succ n =>
      rw [List.take_succ_cons, List.mem_cons, not_or] at h
      have kept : (b :: r).filter (· != a) = b :: r.filter (· != a) :=
        List.filter_cons_of_pos (bne_iff_ne.2 (Ne.symm h.1))
      rw [kept, List.take_succ_cons, List.take_succ_cons, ih h.2]

end Lists

abbrev Call := String × String

namespace Call

/-- The sessions that have called, the one that called last in front. -/
def recent (calls : List Call) : List String := (calls.reverse.map Prod.fst).eraseDups

/-- The token of the session's last call. -/
def lastToken? (calls : List Call) (key : String) : Option String :=
  (calls.reverse.find? fun c => c.1 == key).map Prod.snd

/-- The session's last call had the token, and fewer than `limit` other sessions have called since. -/
def Repeats (limit : Nat) (calls : List Call) (key token : String) : Prop :=
  ∃ before since, calls = before ++ (key, token) :: since ∧ (∀ c ∈ since, c.1 ≠ key) ∧
    (since.map Prod.fst).toFinset.card < limit

variable {calls before since : List Call} {c : Call} {key token : String}

theorem nodup_recent (calls : List Call) : (recent calls).Nodup := nodup_eraseDups _

theorem length_recent (calls : List Call) :
    (recent calls).length = (calls.map Prod.fst).toFinset.card := by
  rw [recent, length_eraseDups, List.map_reverse, List.toFinset_reverse]

theorem mem_recent : key ∈ recent calls ↔ ∃ c ∈ calls, c.1 = key := by
  simp [recent, List.mem_eraseDups]

theorem recent_concat (calls : List Call) (c : Call) :
    recent (calls ++ [c]) = c.1 :: (recent calls).filter fun key => key != c.1 := by
  rw [recent, List.reverse_concat, List.map_cons, List.eraseDups_cons, eraseDups_filter]
  rfl

variable (before token) in
theorem recent_append_cons (quiet : ∀ c ∈ since, c.1 ≠ key) :
    ∃ rest, recent (before ++ (key, token) :: since) = recent since ++ key :: rest := by
  have absent : (since.reverse.map Prod.fst).contains key = false := by
    refine Bool.eq_false_iff.2 fun there => ?_
    obtain ⟨c, hc, same⟩ := List.mem_map.1 (List.contains_iff_mem.1 there)
    exact quiet c (List.mem_reverse.1 hc) same
  have split : (before ++ (key, token) :: since).reverse.map Prod.fst =
      since.reverse.map Prod.fst ++ key :: before.reverse.map Prod.fst := by simp
  rw [recent, split, List.eraseDups_append, List.removeAll,
    List.filter_cons_of_pos (by rw [List.elem_eq_contains, absent]; rfl), List.eraseDups_cons]
  exact ⟨_, rfl⟩

theorem lastToken?_concat (calls : List Call) (c : Call) (key : String) :
    lastToken? (calls ++ [c]) key = if c.1 = key then some c.2 else lastToken? calls key := by
  rw [lastToken?, List.reverse_concat, List.find?_cons]
  by_cases same : c.1 = key
  · simp [same]
  · rw [beq_eq_false_iff_ne.2 same, if_neg same]
    rfl

theorem lastToken?_eq_some_iff : lastToken? calls key = some token ↔
    ∃ before since, calls = before ++ (key, token) :: since ∧ ∀ c ∈ since, c.1 ≠ key := by
  simp only [lastToken?, Option.map_eq_some_iff, List.find?_eq_some_iff_append]
  constructor
  · rintro ⟨⟨own, _⟩, ⟨same, since, before, split, quiet⟩, rfl⟩
    obtain rfl : own = key := eq_of_beq same
    refine ⟨before.reverse, since.reverse, ?_, fun c hc => ?_⟩
    · rw [← List.reverse_inj, split]
      simp
    · simpa using quiet c (List.mem_reverse.1 hc)
  · rintro ⟨before, since, rfl, quiet⟩
    refine ⟨(key, token), ⟨beq_self_eq_true key, since.reverse, before.reverse, ?_, ?_⟩, rfl⟩
    · simp
    · simpa using quiet

theorem repeats_iff {limit : Nat} : Repeats limit calls key token ↔
    key ∈ (recent calls).take limit ∧ lastToken? calls key = some token := by
  -- The session stands at the place that counts the others which have called since.
  have place {before since : List Call} (quiet : ∀ c ∈ since, c.1 ≠ key) :
      key ∈ (recent (before ++ (key, token) :: since)).take limit ↔
        (since.map Prod.fst).toFinset.card < limit := by
    obtain ⟨rest, behind⟩ := recent_append_cons before token quiet
    have absent : key ∉ recent since := fun there => by
      obtain ⟨c, hc, same⟩ := mem_recent.1 there
      exact quiet c hc same
    rw [behind, ← length_recent, List.take_append, List.mem_append]
    constructor
    · rintro (front | back)
      · exact absurd (List.mem_of_mem_take front) absent
      · by_contra beyond
        rw [Nat.sub_eq_zero_of_le (Nat.not_lt.1 beyond)] at back
        cases back
    · intro within
      obtain ⟨n, hn⟩ := Nat.exists_eq_add_of_lt within
      refine .inr ?_
      rw [hn, show (recent since).length + n + 1 - (recent since).length = n + 1 by omega]
      exact List.mem_cons_self
  rw [lastToken?_eq_some_iff]
  constructor
  · rintro ⟨before, since, rfl, quiet, few⟩
    exact ⟨(place quiet).2 few, before, since, rfl, quiet⟩
  · rintro ⟨near, before, since, rfl, quiet⟩
    exact ⟨before, since, rfl, quiet, (place quiet).1 near⟩

end Call

namespace TokenGuard

def after (guard : TokenGuard) (calls : List Call) : TokenGuard :=
  calls.foldl (fun guard c => (guard.submit c.1 c.2).1) guard

theorem after_concat (guard : TokenGuard) (calls : List Call) (c : Call) :
    guard.after (calls ++ [c]) = ((guard.after calls).submit c.1 c.2).1 := by
  rw [after, List.foldl_append]
  rfl

theorem limit_submit (guard : TokenGuard) (key token : String) :
    (guard.submit key token).1.limit = guard.limit := by
  unfold submit
  dsimp only
  split <;> rfl

theorem forgetful_submit (guard : TokenGuard) (key token : String) :
    (guard.submit key token).1.forgetful = guard.forgetful := by
  unfold submit
  dsimp only
  split <;> rfl

theorem of_find? {guard : TokenGuard} {key : String} {session : Session}
    (found : guard.find? key = some session) : session ∈ guard.sessions ∧ session.key = key :=
  ⟨List.mem_of_find?_eq_some found,
    eq_of_beq (List.find?_some (p := fun s : Session => s.key == key) found)⟩

theorem absent_of_find? {guard : TokenGuard} {key : String} (unknown : guard.find? key = none) :
    key ∉ guard.sessions.map Session.key := by
  intro held
  obtain ⟨s, hs, same⟩ := List.mem_map.1 held
  simpa [same] using List.find?_eq_none.1 unknown s hs

/-- Sessions in the order of their uses, the last use first. -/
def Ordered (sessions : List Session) : Prop := sessions.Pairwise fun a b => b.used < a.used

theorem oldest?_concat {front : List Session} {old : Session} (ordered : Ordered (front ++ [old])) :
    oldest? (front ++ [old]) = some old := by
  induction front with
  | nil => rfl
  | cons s r ih =>
    obtain ⟨later, ordered⟩ := List.pairwise_cons.1 ordered
    have newer : old.used < s.used := later old (List.mem_append_right _ List.mem_cons_self)
    rw [List.cons_append, oldest?, ih ordered]
    simp [newer]

theorem evict_full {front : List Session} {old : Session} (ordered : Ordered (front ++ [old]))
    (distinct : ((front ++ [old]).map Session.key).Nodup) :
    evict (front.length + 1) (front ++ [old]).length (front ++ [old]) = front := by
  have others : (front ++ [old]).filter (fun s => s.key != old.key) = front := by
    rw [List.map_append, List.nodup_append] at distinct
    have apart : ∀ s ∈ front, (s.key != old.key) = true := fun s hs =>
      bne_iff_ne.2 (distinct.2.2 s.key (List.mem_map_of_mem hs) old.key (by simp))
    rw [List.filter_append, List.filter_eq_self.2 apart]
    simp
  have roomy (fuel : Nat) : evict (front.length + 1) fuel front = front := by
    cases fuel with
    | zero => rfl
    | succ fuel => rw [evict, if_pos (Nat.lt_succ_self _)]
  rw [List.length_append, List.length_singleton, evict,
    if_neg (by simp), oldest?_concat ordered]
  simp only [others, roomy]

theorem room_eq_take {guard : TokenGuard} (lasting : guard.forgetful = false)
    (ordered : Ordered guard.sessions) (distinct : (guard.sessions.map Session.key).Nodup)
    (small : guard.sessions.length ≤ guard.limit) :
    guard.room = guard.sessions.take (guard.limit - 1) := by
  have positive := guard.limit_pos
  unfold room
  split
  · exact (List.take_of_length_le (by omega)).symm
  · next full =>
    rcases List.eq_nil_or_concat guard.sessions with none | ⟨front, old, split⟩
    · rw [none, List.length_nil] at full
      omega
    · rw [List.concat_eq_append] at split
      have length : guard.limit = front.length + 1 := by
        have := congrArg List.length split
        rw [List.length_append, List.length_singleton] at this
        omega
      rw [split] at ordered distinct
      simp only [lasting, Bool.false_eq_true, if_false]
      rw [split, length, evict_full ordered distinct, Nat.add_sub_cancel, List.take_left]

/-- The guard holds the sessions that called last, each with the token of its last call; the order of
their uses is that of their last calls. -/
structure Mirrors (guard : TokenGuard) (calls : List Call) : Prop where
  keys : guard.sessions.map Session.key = (Call.recent calls).take guard.limit
  tokens : ∀ s ∈ guard.sessions, s.token = Call.lastToken? calls s.key
  ordered : Ordered guard.sessions
  counted : ∀ s ∈ guard.sessions, s.used ≤ guard.uses

namespace Mirrors

variable {guard : TokenGuard} {calls : List Call} {key token : String}

theorem distinct (h : guard.Mirrors calls) : (guard.sessions.map Session.key).Nodup := by
  rw [h.keys]
  exact (Call.nodup_recent calls).sublist (List.take_sublist _ _)

theorem length_le (h : guard.Mirrors calls) : guard.sessions.length ≤ guard.limit := by
  rw [← List.length_map, h.keys, List.length_take]
  exact Nat.min_le_left _ _

theorem call (h : guard.Mirrors calls) {others : List Session}
    (stay : others.Sublist guard.sessions)
    (keys : others.map Session.key =
      ((Call.recent calls).filter fun k => k != key).take (guard.limit - 1)) :
    Mirrors { guard with
      sessions := ⟨key, some token, guard.uses + 1⟩ :: others, uses := guard.uses + 1 }
      (calls ++ [(key, token)]) where
  keys := by
    obtain ⟨n, hn⟩ := Nat.exists_eq_add_of_lt guard.limit_pos
    rw [Nat.zero_add] at hn
    rw [List.map_cons, keys, Call.recent_concat, hn, Nat.add_sub_cancel, List.take_succ_cons]
  tokens s hs := by
    rw [Call.lastToken?_concat]
    rcases List.mem_cons.1 hs with rfl | hs
    · simp
    · have other : s.key ≠ key := by
        have listed : s.key ∈ others.map Session.key := List.mem_map_of_mem hs
        rw [keys] at listed
        exact bne_iff_ne.1 (List.mem_filter.1 (List.mem_of_mem_take listed)).2
      rw [if_neg (Ne.symm other)]
      exact h.tokens s (stay.subset hs)
  ordered := by
    refine List.pairwise_cons.2 ⟨fun s hs => ?_, h.ordered.sublist stay⟩
    exact Nat.lt_succ_of_le (h.counted s (stay.subset hs))
  counted s hs := by
    rcases List.mem_cons.1 hs with rfl | hs
    · exact Nat.le_refl _
    · exact Nat.le_succ_of_le (h.counted s (stay.subset hs))

theorem submit (h : guard.Mirrors calls) (lasting : guard.forgetful = false) (key token : String) :
    (guard.submit key token).1.Mirrors (calls ++ [(key, token)]) := by
  unfold TokenGuard.submit
  dsimp only
  split
  · next session found =>
    have held : key ∈ (Call.recent calls).take guard.limit := by
      obtain ⟨there, rfl⟩ := of_find? found
      rw [← h.keys]
      exact List.mem_map_of_mem there
    refine h.call List.filter_sublist ?_
    rw [← filter_take_of_mem (Call.nodup_recent calls) held, ← h.keys, List.filter_map]
    rfl
  · next unknown =>
    have absent : key ∉ (Call.recent calls).take guard.limit := by
      rw [← h.keys]
      exact absent_of_find? unknown
    have fewer : key ∉ (Call.recent calls).take (guard.limit - 1) := fun held =>
      absent (List.take_subset_take_left _ (Nat.sub_le _ _) held)
    rw [room_eq_take lasting h.ordered h.distinct h.length_le]
    refine h.call (List.take_sublist _ _) ?_
    rw [List.map_take, h.keys, List.take_take, take_filter_of_not_mem fewer,
      Nat.min_eq_left (Nat.sub_le _ _)]

/-- The guard refuses the token that it remembers of the session, and no other. -/
theorem refuses_iff (h : guard.Mirrors calls) :
    ((guard.submit key token).2 = .error .duplicateSubmission ↔
      Call.Repeats guard.limit calls key token) ∧
    ((guard.submit key token).2 = .ok () ↔ ¬Call.Repeats guard.limit calls key token) := by
  rw [Call.repeats_iff, ← h.keys]
  unfold TokenGuard.submit
  dsimp only
  split
  · next session found =>
    obtain ⟨held, rfl⟩ := of_find? found
    have listed : session.key ∈ guard.sessions.map Session.key := List.mem_map_of_mem held
    rw [← h.tokens session held]
    by_cases same : session.token = some token
    · simp [same, listed]
    · simp [same]
  · next unknown => simp [absent_of_find? unknown]

end Mirrors

theorem forgetful_after (guard : TokenGuard) (calls : List Call) :
    (guard.after calls).forgetful = guard.forgetful := by
  induction calls using List.reverseRecOn with
  | nil => rfl
  | append_singleton front c ih => rw [after_concat, forgetful_submit, ih]

theorem limit_after (guard : TokenGuard) (calls : List Call) :
    (guard.after calls).limit = guard.limit := by
  induction calls using List.reverseRecOn with
  | nil => rfl
  | append_singleton front c ih => rw [after_concat, limit_submit, ih]

theorem mirrors_after (limit : Nat) (calls : List Call) :
    ((withLimit limit false).after calls).Mirrors calls := by
  induction calls using List.reverseRecOn with
  | nil => exact ⟨List.take_nil.symm, nofun, .nil, nofun⟩
  | append_singleton front c ih =>
    rw [after_concat]
    exact ih.submit (forgetful_after ..) c.1 c.2

theorem length_after_le (limit : Nat) (forgetful : Bool) (calls : List Call) :
    ((withLimit limit forgetful).after calls).sessions.length ≤ max limit 1 := by
  induction calls using List.reverseRecOn with
  | nil => exact Nat.zero_le _
  | append_singleton front c ih =>
    have limits : ((withLimit limit forgetful).after front).limit = max limit 1 := limit_after ..
    rw [after_concat]
    rw [← limits] at ih ⊢
    exact length_submit_le ih c.1 c.2

/-- After any calls, a further call is refused just if the session's last one had the same token and
fewer other sessions than the limit have called since. The guard holds the sessions that called last, as
many as the limit allows; with a time of idleness that has no length it holds no more than that. -/
theorem holds_recent_sessions (limit : Nat) (calls : List Call) :
    let guard := (withLimit limit false).after calls
    (∀ key token,
      ((guard.submit key token).2 = .error .duplicateSubmission ↔
        Call.Repeats (max limit 1) calls key token) ∧
      ((guard.submit key token).2 = .ok () ↔ ¬Call.Repeats (max limit 1) calls key token)) ∧
    guard.sessions.map Session.key = (Call.recent calls).take (max limit 1) ∧
    guard.sessions.length = min (max limit 1) (calls.map Prod.fst).toFinset.card ∧
    ((withLimit limit true).after calls).sessions.length ≤ max limit 1 := by
  intro guard
  have mirrors : guard.Mirrors calls := mirrors_after limit calls
  have limits : guard.limit = max limit 1 := limit_after ..
  rw [← limits]
  refine ⟨fun key token => mirrors.refuses_iff, mirrors.keys, ?_, ?_⟩
  · rw [← List.length_map, mirrors.keys, List.length_take, Call.length_recent]
  · rw [limits]
    exact length_after_le limit true calls

end TokenGuard
end Registrar
