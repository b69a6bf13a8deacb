import Registrar.Proofs.Desk.Batch
import Registrar.Proofs.Identifier.Lists

/-!
What a batch answers, item by item. Main statement: a batch of a solitary operation complains of just
the records for which a request for that record alone fails, changes the rows of the others, and does not
care for the order, the repetition or the grouping of the identifiers.
-/

namespace Registrar

namespace Identifier

variable {I : Type} [Identifier I] {tokens raw : List String} {found ids : List I}

theorem parse_of_reads {t : String}
    (reads : List.Forall₂ (fun t id => parse (I := I) t = .ok id) tokens found) (h : t ∈ tokens) :
    ∃ id : I, parse t = .ok id := by
  induction reads with
  | nil => cases h
  | cons read _ ih =>
    rcases List.mem_cons.1 h with rfl | later
    · exact ⟨_, read⟩
    · exact ih later

theorem parseTokens_malformed (h : ∃ t ∈ tokens, ∀ id : I, parse t ≠ .ok id) :
    ∃ front token rest fault, tokens = front ++ token :: rest ∧
      (∀ t ∈ front, ∃ id : I, parse t = .ok id) ∧ parse (I := I) token = .error fault ∧
      parseTokens (I := I) tokens = .error fault := by
  rcases parseTokens_cases (I := I) tokens with ⟨found, reads, _⟩ | malformed
  · obtain ⟨bad, there, none⟩ := h
    obtain ⟨id, read⟩ := parse_of_reads reads there
    exact absurd read (none id)
  · exact malformed

theorem parseTokens_ok (h : ∀ t ∈ tokens, ∃ id : I, parse t = .ok id) :
    ∃ found : List I, parseTokens tokens = .ok found := by
  rcases parseTokens_cases (I := I) tokens with
    ⟨found, _, all⟩ | ⟨front, token, rest, fault, rfl, _, malformed, _⟩
  · exact ⟨found, all⟩
  · obtain ⟨id, read⟩ := h token (by simp)
    cases malformed.symm.trans read

theorem mem_parseTokens (h : parseTokens tokens = .ok found) (id : I) :
    id ∈ found ↔ ∃ t ∈ tokens, parse t = .ok id := by
  induction tokens generalizing found with
  | nil =>
    cases h
    simp
  | cons t r ih =>
    unfold parseTokens at h
    split at h
    · cases h
    · next first hfirst =>
      split at h
      · cases h
      · next others hothers =>
        cases h
        rw [List.mem_cons, ih hothers, List.exists_mem_cons_iff, hfirst]
        exact or_congr_left ⟨fun same => same ▸ rfl, fun same => (Except.ok.inj same).symm⟩

variable [DecidableEq I]

theorem mem_parseAll (h : parseAll raw = .ok ids) (id : I) :
    id ∈ ids ↔ ∃ t ∈ split raw, parse t = .ok id := by
  unfold parseAll at h
  split at h
  · cases h
  · next found hfound =>
    cases h
    rw [List.mem_eraseDups, mem_parseTokens hfound]

theorem parseAll_ok (h : ∀ t ∈ split raw, ∃ id : I, parse t = .ok id) :
    ∃ ids : List I, parseAll raw = .ok ids := by
  obtain ⟨found, hfound⟩ := parseTokens_ok h
  exact ⟨found.eraseDups, by rw [parseAll, hfound]⟩

theorem parseAll_malformed (h : ∃ t ∈ split raw, ∀ id : I, parse t ≠ .ok id) :
    ∃ front token rest fault, split raw = front ++ token :: rest ∧
      (∀ t ∈ front, ∃ id : I, parse t = .ok id) ∧ parse (I := I) token = .error fault ∧
      parseAll (I := I) raw = .error fault := by
  obtain ⟨front, token, rest, fault, tokens, before, malformed, failed⟩ := parseTokens_malformed h
  exact ⟨front, token, rest, fault, tokens, before, malformed, by rw [parseAll, failed]⟩

end Identifier

namespace Batch

/-- What an outcome tells of a batch of so many records with these complaints. -/
structure Reports (name : String) (total : Nat) (complaints : List (String × String))
    (o : Outcome) : Prop where
  distinct : (complaints.map Prod.fst).Nodup
  errors : o.errors.getD [] = complaints
  success : o.type = .success ↔ complaints = []
  failure : o.type = .failure ↔ 0 < total ∧ complaints.length = total
  warning : o.type = .warning ↔ 0 < complaints.length ∧ complaints.length < total
  completed : o.type = .success → o.message = s!"{name} completed: {total} record(s)"
  processed : o.type = .warning → o.message =
    s!"{name} processed. {total - complaints.length} succeeded, {complaints.length} failed"

theorem reports_classify (name : String) {total : Nat} {errors : List (String × String)}
    (distinct : (errors.map Prod.fst).Nodup) (few : errors.length ≤ total) :
    Reports name total errors (classify name total errors) := by
  unfold classify
  dsimp only
  split
  · next none =>
    have nothing : errors = [] := List.length_eq_zero_iff.1 none
    subst nothing
    exact ⟨distinct, rfl, by simp [Outcome.success], by simp [Outcome.success]; omega,
      by simp [Outcome.success], fun _ => rfl, by simp [Outcome.success]⟩
  · next some =>
    have something : errors ≠ [] := fun e => some (by simp [e])
    split
    · next all =>
      exact ⟨distinct, rfl, by simp [something], by simp; omega, by simp; omega, by simp, by simp⟩
    · next part =>
      exact ⟨distinct, rfl, by simp [something], by simp; omega, by simp; omega, by simp,
        fun _ => rfl⟩

end Batch

/-- The answer of a request for one record that fails with the message. -/
def Outcome.FailsWith (answer : Except Error Outcome) (key message : String) : Prop :=
  ∃ outcome, answer = .ok outcome ∧ outcome.type = .failure ∧
    outcome.errors = some [(key, message)]

namespace Desk

variable {I E : Type} [Identifier I] [DecidableEq I]

/-- A batch goes item by item. The requests in question are those that ask for the same thing, and
`Done` tells what becomes of the row of a record that does not fail. -/
structure ItemByItem (d : Desk I E) (name : String) (asks : Params → Prop)
    (request : Params → Action Outcome) (Done : SavedRow → Option SavedRow → Prop)
    (r : Registry) : Prop where
  /-- If a token is malformed, the first such token is refused and nothing happens. -/
  malformed {params : Params} : asks params →
    (∃ t ∈ Identifier.split (params.getAll "ids"), ∀ id : I, Identifier.parse t ≠ .ok id) →
    ∃ front token rest reason, Identifier.split (params.getAll "ids") = front ++ token :: rest ∧
      (∀ t ∈ front, ∃ id : I, Identifier.parse t = .ok id) ∧
      (∀ id : I, Identifier.parse token ≠ .ok id) ∧
      request params r = (r, .error (.malformedIdentifier token reason))
  /-- Of the records that the tokens name, the batch complains of those that a request for them alone
  fails for, with the same message. The rows of the others are changed, and no further rows. -/
  answered {params : Params} : asks params →
    (∀ t ∈ Identifier.split (params.getAll "ids"), ∃ id : I, Identifier.parse t = .ok id) →
    ∃ (ids : List I) (errors : List (String × String)) (outcome : Outcome)
      (fate : SavedRow → Option SavedRow),
      ids.Nodup ∧
      (∀ id, id ∈ ids ↔
        ∃ t ∈ Identifier.split (params.getAll "ids"), Identifier.parse t = .ok id) ∧
      (request params r).2 = .ok outcome ∧ Batch.Reports name ids.length errors outcome ∧
      (∀ pair ∈ errors, ∃ id ∈ ids, pair.1 = Identifier.text id) ∧
      (∀ id ∈ ids, ∀ other, asks other →
        Identifier.parseAll (other.getAll "ids") = .ok [id] → ∀ message,
        ((Identifier.text id, message) ∈ errors ↔
          Outcome.FailsWith (request other r).2 (Identifier.text id) message)) ∧
      (request params r).1.store.rows = r.store.rows.filterMap fate ∧
      ∀ row ∈ r.store.rows,
        (∀ id ∈ ids, row.isAt d.kind.entityType (Identifier.text id) →
          (∀ message, (Identifier.text id, message) ∉ errors) → Done row (fate row)) ∧
        ((∀ id ∈ ids, row.isAt d.kind.entityType (Identifier.text id) →
          ∃ message, (Identifier.text id, message) ∈ errors) → fate row = some row)
  /-- The same tokens in any order, number and grouping give the same answer and the same rows. -/
  regrouped {params other : Params} : asks params → asks other →
    (∀ t ∈ Identifier.split (params.getAll "ids"), ∃ id : I, Identifier.parse t = .ok id) →
    (∀ t, t ∈ Identifier.split (other.getAll "ids") ↔
      t ∈ Identifier.split (params.getAll "ids")) →
    (request other r).2 = (request params r).2 ∧
      (request other r).1.store.rows = (request params r).1.store.rows

section Solitary

variable [LawfulIdentifier I] {d : Desk I E} {operation : E → Action Unit} {r : Registry}
variable {Near : Registry → Prop} {ids : List I}

omit [DecidableEq I] [LawfulIdentifier I] in
theorem complaints_cons (id : I) (rest : List I) :
    d.complaints operation r (id :: rest) =
      match (d.alone operation r id).2 with
      | .ok () => d.complaints operation r rest
      | .error fault => (Identifier.text id, fault.message) :: d.complaints operation r rest := by
  unfold complaints Batch.complaints alone
  rw [List.map_cons, List.filterMap_cons]
  cases (Batch.step (fun r e => operation e r) r (d.target r.store id)).2 <;> rfl

omit [DecidableEq I] [LawfulIdentifier I] in
theorem mem_complaints {pair : String × String} :
    pair ∈ d.complaints operation r ids ↔ ∃ id ∈ ids, pair.1 = Identifier.text id ∧
      ∃ fault, (d.alone operation r id).2 = .error fault ∧ pair.2 = fault.message := by
  induction ids with
  | nil => exact ⟨fun h => absurd h List.not_mem_nil, fun ⟨_, h, _⟩ => absurd h List.not_mem_nil⟩
  | cons id rest ih =>
    rw [complaints_cons, List.exists_mem_cons_iff, ← ih]
    cases result : (d.alone operation r id).2 with
    | ok _ => simp
    | error fault => simp [Prod.ext_iff]

omit [DecidableEq I] [LawfulIdentifier I] in
theorem keys_complaints_sublist (ids : List I) :
    ((d.complaints operation r ids).map Prod.fst).Sublist (ids.map Identifier.text) := by
  induction ids with
  | nil => exact .slnil
  | cons id rest ih =>
    rw [complaints_cons, List.map_cons]
    split
    · exact ih.cons _
    · exact ih.cons_cons _

omit [DecidableEq I] in
theorem nodup_complaints (distinct : ids.Nodup) :
    ((d.complaints operation r ids).map Prod.fst).Nodup :=
  (keys_complaints_sublist ids).nodup
    (List.Pairwise.map _ (fun _ _ other same => other (LawfulIdentifier.text_injective same))
      distinct)

theorem Solitary.failsWith_iff (solitary : d.Solitary operation r Near)
    (each : r.store.OneRowEach) (name : String) {params : Params} {id : I}
    (parsed : Identifier.parseAll (params.getAll "ids") = .ok [id])
    (readable : d.Readable r.store [id]) (message : String) :
    Outcome.FailsWith (d.batch name operation params r).2 (Identifier.text id) message ↔
      ∃ fault, (d.alone operation r id).2 = .error fault ∧ message = fault.message := by
  have noMore : d.complaints operation r [] = [] := rfl
  rw [(solitary.batch each name parsed readable).1, complaints_cons, noMore]
  cases (d.alone operation r id).2 with
  | ok _ =>
    constructor
    · rintro ⟨_, h, fails, _⟩
      cases h
      cases fails
    · rintro ⟨_, h, _⟩
      cases h
  | error fault =>
    constructor
    · rintro ⟨_, h, _, errors⟩
      cases h
      cases errors
      exact ⟨fault, rfl, rfl⟩
    · rintro ⟨_, h, rfl⟩
      cases h
      exact ⟨_, rfl, rfl, rfl⟩

omit [DecidableEq I] [LawfulIdentifier I] in
theorem of_alone_ok {id : I} (done : (d.alone operation r id).2 = .ok ()) :
    ∃ e, r.store.find? d.kind id = .ok (some e) ∧ d.alone operation r id = operation e r := by
  cases record : (d.target r.store id).record with
  | error fault =>
    rw [alone_of_record_error record] at done
    cases done
  | ok e => exact ⟨e, d.find?_of_target record, alone_of_record record⟩

omit [DecidableEq I] [LawfulIdentifier I] in
theorem rows_of_alone_error
    (failed : ∀ e fault, (operation e r).2 = .error fault →
      (operation e r).1.store.rows = r.store.rows) {id : I} {fault : Error}
    (h : (d.alone operation r id).2 = .error fault) :
    (d.alone operation r id).1.store.rows = r.store.rows := by
  cases record : (d.target r.store id).record with
  | error _ => rw [alone_of_record_error record]
  | ok e =>
    rw [alone_of_record record] at h ⊢
    exact failed e fault h

omit [LawfulIdentifier I] in
theorem readable_of_parseAll {raw : List String} (parsed : Identifier.parseAll raw = .ok ids)
    (readable : ∀ token (id : I), Identifier.parse token = .ok id →
      ∃ found, r.store.find? d.kind id = .ok found) : d.Readable r.store ids := by
  intro id hid
  obtain ⟨token, _, read⟩ := (Identifier.mem_parseAll parsed id).1 hid
  exact readable token id read

omit [DecidableEq I] in
theorem perm_putAll_complaints (distinct : ids.Nodup) :
    (Entries.putAll [] (d.complaints operation r ids)).Perm (d.complaints operation r ids) :=
  Entries.perm_putAll (nodup_complaints distinct)

omit [DecidableEq I] in
theorem mem_putAll_complaints (distinct : ids.Nodup) {id : I} (hid : id ∈ ids) {message : String} :
    (Identifier.text id, message) ∈ Entries.putAll [] (d.complaints operation r ids) ↔
      ∃ fault, (d.alone operation r id).2 = .error fault ∧ message = fault.message := by
  rw [(perm_putAll_complaints distinct).mem_iff, mem_complaints]
  constructor
  · rintro ⟨i, _, key, fails⟩
    cases LawfulIdentifier.text_injective key
    exact fails
  · exact fun fails => ⟨id, hid, rfl, fails⟩

omit [DecidableEq I] in
theorem reports_complaints (name : String) (distinct : ids.Nodup) :
    Batch.Reports name ids.length (Entries.putAll [] (d.complaints operation r ids))
      (Batch.classify name ids.length (Entries.putAll [] (d.complaints operation r ids))) := by
  refine Batch.reports_classify name ?_ ?_
  · exact ((perm_putAll_complaints distinct).map Prod.fst).nodup_iff.2 (nodup_complaints distinct)
  · have fewer : ((d.complaints operation r ids).map Prod.fst).length ≤
        (ids.map Identifier.text).length := (keys_complaints_sublist ids).length_le
    rwa [List.length_map, List.length_map, ← (perm_putAll_complaints distinct).length_eq] at fewer

omit [DecidableEq I] in
theorem settle_of_done {row : SavedRow} (each : r.store.OneRowEach) (hrow : row ∈ r.store.rows)
    {id : I} (hid : id ∈ ids) (there : row.isAt d.kind.entityType (Identifier.text id))
    (clean : ∀ fault, (d.alone operation r id).2 ≠ .error fault) :
    ∃ e, r.store.find? d.kind id = .ok (some e) ∧
      r.store.row? d.kind.entityType (Identifier.text id) = some row ∧
      (operation e r).2 = .ok () ∧ d.settle operation r ids row =
        (operation e r).1.store.row? d.kind.entityType (Identifier.text id) := by
  cases result : (d.alone operation r id).2 with
  | error fault => exact absurd result (clean fault)
  | ok _ =>
    obtain ⟨e, found, same⟩ := of_alone_ok result
    rw [same] at result
    exact ⟨e, found, each.row?_eq hrow there, result, by rw [settle_of_listed hid there, same]⟩

omit [DecidableEq I] in
theorem settle_of_fails {row : SavedRow} (each : r.store.OneRowEach) (hrow : row ∈ r.store.rows)
    (failed : ∀ e fault, (operation e r).2 = .error fault →
      (operation e r).1.store.rows = r.store.rows)
    (fails : ∀ id ∈ ids, row.isAt d.kind.entityType (Identifier.text id) →
      ∃ fault, (d.alone operation r id).2 = .error fault) :
    d.settle operation r ids row = some row := by
  by_cases listed : ∃ id ∈ ids, row.isAt d.kind.entityType (Identifier.text id)
  · obtain ⟨id, hid, there⟩ := listed
    obtain ⟨fault, result⟩ := fails id hid there
    rw [settle_of_listed hid there, Store.row?_congr (rows_of_alone_error failed result)]
    exact each.row?_eq hrow there
  · simp only [not_exists, not_and] at listed
    exact settle_of_not_listed listed

theorem Solitary.batch_congr (solitary : d.Solitary operation r Near) (each : r.store.OneRowEach)
    (name : String) {params other : Params} {others : List I}
    (parsed : Identifier.parseAll (params.getAll "ids") = .ok ids)
    (parsed' : Identifier.parseAll (other.getAll "ids") = .ok others)
    (readable : d.Readable r.store ids) (members : ∀ id, id ∈ others ↔ id ∈ ids) :
    (d.batch name operation other r).2 = (d.batch name operation params r).2 ∧
      (d.batch name operation other r).1.store.rows =
        (d.batch name operation params r).1.store.rows := by
  have distinct := Identifier.nodup_parseAll parsed'
  have perm : others.Perm ids :=
    (List.perm_ext_iff_of_nodup distinct (Identifier.nodup_parseAll parsed)).2 members
  have complained : (d.complaints operation r others).Perm (d.complaints operation r ids) :=
    (perm.map _).filterMap _
  obtain ⟨answer, rows⟩ := solitary.batch each name parsed readable
  obtain ⟨answer', rows'⟩ := solitary.batch each name parsed' fun id hid =>
    readable id ((members id).1 hid)
  rw [answer, answer', rows, rows', perm.length_eq,
    Entries.putAll_perm (nodup_complaints distinct) complained]
  exact ⟨rfl, List.filterMap_congr fun row _ => settle_congr members⟩

/-- A solitary operation goes item by item in batches. -/
theorem Solitary.itemByItem (solitary : d.Solitary operation r Near) (each : r.store.OneRowEach)
    {name : String} {asks : Params → Prop} {request : Params → Action Outcome}
    {Done : SavedRow → Option SavedRow → Prop}
    (serves : ∀ params, asks params → request params r = d.batch name operation params r)
    (rejects : ∀ token fault, Identifier.parse (I := I) token = .error fault →
      ∃ reason, fault = .malformedIdentifier token reason)
    (readable : ∀ token (id : I), Identifier.parse token = .ok id →
      ∃ found, r.store.find? d.kind id = .ok found)
    (failed : ∀ e fault, (operation e r).2 = .error fault →
      (operation e r).1.store.rows = r.store.rows)
    (done : ∀ (id : I) e row, r.store.find? d.kind id = .ok (some e) →
      r.store.row? d.kind.entityType (Identifier.text id) = some row →
      (operation e r).2 = .ok () →
      Done row ((operation e r).1.store.row? d.kind.entityType (Identifier.text id))) :
    d.ItemByItem name asks request Done r where
  malformed {params} asked some := by
    obtain ⟨front, token, rest, fault, tokens, before, malformed, refused⟩ :=
      Identifier.parseAll_malformed some
    obtain ⟨reason, rfl⟩ := rejects token fault malformed
    refine ⟨front, token, rest, reason, tokens, before, fun id h => ?_, ?_⟩
    · cases malformed.symm.trans h
    · rw [serves params asked, Desk.batch, Desk.targets, refused]
  answered {params} asked wellFormed := by
    obtain ⟨ids, parsed⟩ := Identifier.parseAll_ok wellFormed
    have distinct := Identifier.nodup_parseAll parsed
    have read := readable_of_parseAll parsed readable
    obtain ⟨answer, rows⟩ := solitary.batch each name parsed read
    refine ⟨ids, Entries.putAll [] (d.complaints operation r ids), _, d.settle operation r ids,
      distinct, Identifier.mem_parseAll parsed, by rw [serves params asked]; exact answer,
      reports_complaints name distinct, ?_, ?_, by rw [serves params asked]; exact rows,
      fun row hrow => ⟨?_, ?_⟩⟩
    · intro pair hpair
      obtain ⟨id, hid, key, _⟩ :=
        mem_complaints.1 ((perm_putAll_complaints distinct).mem_iff.1 hpair)
      exact ⟨id, hid, key⟩
    · intro id hid other asked' parsed' message
      rw [mem_putAll_complaints distinct hid, serves other asked']
      refine (solitary.failsWith_iff each name parsed' (fun i hi => ?_) message).symm
      exact read i (List.mem_singleton.1 hi ▸ hid)
    · intro id hid there clean
      obtain ⟨e, found, place, result, settled⟩ := settle_of_done each hrow hid there
        fun fault result => clean _ ((mem_putAll_complaints distinct hid).2 ⟨fault, result, rfl⟩)
      rw [settled]
      exact done id e row found place result
    · refine fun fails => settle_of_fails each hrow failed fun id hid there => ?_
      obtain ⟨message, complaint⟩ := fails id hid there
      obtain ⟨fault, result, _⟩ := (mem_putAll_complaints distinct hid).1 complaint
      exact ⟨fault, result⟩
  regrouped {params other} asked asked' wellFormed same := by
    obtain ⟨ids, parsed⟩ := Identifier.parseAll_ok wellFormed
    obtain ⟨others, parsed'⟩ := Identifier.parseAll_ok fun t ht => wellFormed t ((same t).1 ht)
    rw [serves params asked, serves other asked']
    refine solitary.batch_congr each name parsed parsed' (readable_of_parseAll parsed readable)
      fun id => ?_
    rw [Identifier.mem_parseAll parsed, Identifier.mem_parseAll parsed']
    exact exists_congr fun t => and_congr_left fun _ => same t

end Solitary
end Desk
end Registrar
