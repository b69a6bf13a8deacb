import Registrar.Proofs.Desk.Guard
import Registrar.Proofs.Desk.Run
import Registrar.Proofs.Text.Blank

/-!
Values that the guard of unique columns does not see. Main statements: which texts read as "not a
number", and each of them that is short enough can be the sign-in name of two users.
-/

namespace Registrar

open Json Number

namespace Number

theorem Double.ofDecimal_ne_nan (negative : Bool) (digits : Nat) (exponent : Int) :
    ofDecimal negative digits exponent ≠ .nan := by
  have ofRatio_ne_nan (num den : Nat) : ofRatio negative num den ≠ .nan := by
    unfold ofRatio inRange zero
    dsimp only
    split
    · exact Double.noConfusion
    · split <;> split <;> exact Double.noConfusion
  unfold ofDecimal zero
  dsimp only
  split
  · exact Double.noConfusion
  · split
    · exact Double.noConfusion
    · exact ofRatio_ne_nan _ _

theorem readDouble?_eq_nan_iff (s : List Char) :
    readDouble? s = some .nan ↔ (sign s).2.map Char.toLower = "nan".toList := by
  have decimal?_ne_nan (negative : Bool) (r : List Char) : decimal? negative r ≠ some .nan := by
    obtain ⟨parts, shape⟩ : ∃ parts : List Char × List Char, decimal? negative r =
        if (spanDigits r).1.isEmpty && parts.1.isEmpty then none
        else (exponent? parts.2).map fun e => .ofDecimal negative
          (digitsValue ((spanDigits r).1 ++ parts.1)) (e - parts.1.length) := ⟨_, rfl⟩
    rw [shape]
    split
    · exact (Option.some_ne_none _).symm
    · intro h
      obtain ⟨e, _, he⟩ := Option.map_eq_some_iff.1 h
      exact Double.ofDecimal_ne_nan _ _ _ he
  unfold readDouble?
  dsimp only
  split
  · next word =>
    refine ⟨fun h => by simp at h, fun h => ?_⟩
    rw [h] at word
    exact absurd word (by decide)
  · split
    · next word => exact ⟨fun _ => word, fun _ => rfl⟩
    · next other => exact ⟨fun h => absurd h (decimal?_ne_nan _ _), fun h => absurd h other⟩

end Number

theorem Json.Value.isNan_text_iff (s : String) :
    (Value.text s).IsNan ↔ (sign (Text.trimmed s.toList)).2.map Char.toLower = "nan".toList :=
  readDouble?_eq_nan_iff _

theorem Row.not_blank_of_number? {s : String} (h : number? (.text s) ≠ none) :
    Text.allBlank s = false := by
  refine Bool.eq_false_iff.2 fun blank => h ?_
  rw [number?, Text.trimmed_of_allBlank blank]
  rfl

theorem Json.Value.IsNan.not_blank {s : String} (h : (Value.text s).IsNan) :
    Text.allBlank s = false :=
  Row.not_blank_of_number? fun none => nomatch none.symm.trans h

namespace Desk

variable {I E : Type} [DecidableEq I] {d : Desk I E}

theorem clash_of_unseen {creating : Bool} {e : E} {s : Store} {f : Field} {v : Value}
    (hv : Row.extract (d.kind.encode e) f.name = some v)
    (unseen : ∀ row ∈ s.rows, row.entityType = d.kind.entityType →
      ({ client := [.equal f.name v] } : Filter).accepts row.content = false) :
    d.clash creating e s f = .ok () := by
  have nothing : (s.contents d.kind.entityType).filter
      ({ client := [.equal f.name v] } : Filter).accepts = [] := by
    refine List.filter_eq_nil_iff.2 fun content h => ?_
    obtain ⟨row, hrow, rfl⟩ := List.mem_map.1 h
    obtain ⟨hrow, type⟩ := List.mem_filter.1 hrow
    rw [unseen row hrow (eq_of_beq type)]
    exact Bool.false_ne_true
  have query : s.query d.kind { client := [.equal f.name v] } [] = .ok [] := by
    rw [Store.query_unsorted, nothing]
    rfl
  simp [clash, hv, query]

end Desk

namespace User

def rules : RuleSet := [
  ("aclCode", { maxLength := some 64 }),
  ("aclType", { isInteger := true }),
  ("createdAt", { isReadonly := true, isTimestamp := true }),
  ("createdBy", { isReadonly := true, maxLength := some 64 }),
  ("department", { required := true }),
  ("department.id", { required := true }),
  ("email", { maxLength := some 128, isEmail := true }),
  ("nick", { maxLength := some 64 }),
  ("password", { maxLength := some 128 }),
  ("signinid", { required := true, isUnique := true, isReadonly := true, maxLength := some 64 })]

theorem ofSchema_eq_rules : RuleSet.ofSchema schema = rules := by rfl

def desk : Desk Int User := { kind := kind, policy := policy }

def registrar : Occasion := ⟨⟨"admin", none, [], none⟩, "do-create"⟩

def clock : Supply := ⟨⟨0, 0⟩, fun _ => "t"⟩

theorem clock_isSound : clock.IsSound := by
  have shown : Text.allBlank "t" = false := by decide
  exact fun _ => shown

def signinField : Field :=
  { Field.text "signinid" "Sign-in ID" with
    column := some { nullable := false, isUnique := true, updatable := false, length := 64 }
    comparable := true }

def joining (signinid : String) : Request where
  desk
  law := kind_lawful
  supply := clock
  sound := clock_isSound
  caller := registrar.caller
  job := .create ⟨.mutation, [("signinid", signinid), ("department.id", "D10")]⟩

def newcomer (signinid : String) : User where
  signinid
  code := some "D10"
  department := some ⟨"D10"⟩
  createdBy := some "admin"
  createdAt := some ⟨0, 0⟩

theorem doCreate_newcomer (signinid : String) (r : Registry) :
    let filed := desk.commit clock registrar true (newcomer signinid) r
    desk.doCreate clock ⟨.mutation, [("signinid", signinid), ("department.id", "D10")]⟩
      registrar.caller r =
        (filed.1, filed.2.map fun saved => .success "Created" (some (kind.encode saved))) := by
  have worked : desk.working ⟨.mutation, [("signinid", signinid), ("department.id", "D10")]⟩
      registrar.caller r.store = .ok { signinid, department := some ⟨"D10"⟩ } := rfl
  have created : desk.create clock registrar { signinid, department := some ⟨"D10"⟩ } r =
      desk.commit clock registrar true (newcomer signinid) r := rfl
  rw [← created]
  simp only [Desk.doCreate, Desk.report, worked]
  rfl

theorem apply_joining (signinid : String) (r : Registry) :
    (joining signinid).apply r = (desk.commit clock registrar true (newcomer signinid) r).1 :=
  congrArg Prod.fst (doCreate_newcomer signinid r)

theorem toValue_newcomer (signinid : String) : toValue (newcomer signinid) = .object [
    ("aclCode", .text "D10"), ("aclType", .int 0), ("createdAt", .text (Instant.text ⟨0, 0⟩)),
    ("createdBy", .text "admin"), ("department", Reference.toValue ⟨"D10"⟩), ("email", .null),
    ("enabled", .bool false), ("id", .null), ("nick", .text ""), ("password", .null),
    ("signinid", .text signinid), ("version", .int 0)] := by rfl

theorem validate_newcomer {signinid : String} (shown : Text.allBlank signinid = false)
    (short : signinid.toList.length ≤ 64) :
    rules.validate schema (toValue (newcomer signinid)) = .ok () := by
  refine RuleSet.validate_eq_ok_iff.2 (List.flatMap_eq_nil_iff.2 fun rule hrule => ?_)
  rw [toValue_newcomer]
  -- Each rule asks for one text of the record, which has to be laid open before the rule is run.
  have run {name : String} (text : String) {c : Constraints} (kept : RuleSet.isForClients name = false)
      (own : RuleSet.valueText (toValue (newcomer signinid)) name = text)
      (passed : c.check ((schema.find? name).elim name Field.label) text = []) :
      (if RuleSet.isForClients name then []
        else c.check ((schema.find? name).elim name Field.label)
          (RuleSet.valueText (toValue (newcomer signinid)) name)) = [] := by
    rw [kept, own]
    exact passed
  rw [toValue_newcomer] at run
  simp only [rules, List.mem_cons, List.not_mem_nil, or_false] at hrule
  rcases hrule with rfl | rfl | rfl | rfl | rfl | rfl | rfl | rfl | rfl | rfl
  · exact run "D10" (by decide) rfl (by decide)
  · simp [Constraints.check, Constraints.violations]
  · simp [Constraints.check, Constraints.violations]
  · exact run "admin" (by decide) rfl (by decide)
  · exact run "D10" (by decide) rfl (by decide)
  · rfl
  · rfl
  · rfl
  · rfl
  · refine run signinid (by decide) rfl ?_
    have counted := Nat.le_trans (Nat.mod_le _ (Number.maxWord32 + 1)) short
    simpa [Constraints.check, Constraints.violations, shown] using counted

theorem check_newcomer {signinid : String} (shown : Text.allBlank signinid = false)
    (short : signinid.toList.length ≤ 64) (s : Store) :
    desk.check rules true (newcomer signinid) s =
      desk.clash true (newcomer signinid) s signinField := by
  have valid : rules.validate desk.kind.schema (desk.kind.encode (newcomer signinid)) = .ok () :=
    validate_newcomer shown short
  have unique : desk.kind.schema.declared.filter Field.isUnique = [signinField] := by rfl
  have alone : [signinField].forM (desk.clash true (newcomer signinid) s) =
      (desk.clash true (newcomer signinid) s signinField >>= fun _ => .ok ()) := rfl
  rw [Desk.check, valid, unique]
  dsimp only
  rw [alone]
  cases desk.clash true (newcomer signinid) s signinField <;> rfl

theorem apply_joining_of_free {signinid : String} (shown : Text.allBlank signinid = false)
    (short : signinid.toList.length ≤ 64) {r : Registry} (known : (r.rules.rules schema).1 = rules)
    (free : desk.clash true (newcomer signinid) r.store signinField = .ok ()) :
    (joining signinid).apply r =
      { r with
        store := (r.store.save kind clock registrar.author (newcomer signinid)).1
        rules := (r.rules.rules schema).2 } := by
  have checked : desk.check (r.rules.rules desk.kind.schema).1 true (newcomer signinid) r.store =
      .ok () := by
    rw [show desk.kind.schema = schema from rfl, known, check_newcomer shown short, free]
  rw [apply_joining, Desk.commit]
  simp only [Desk.rules, checked]
  rfl

theorem rows_save_newcomer (signinid : String) {s : Store} (key : String)
    (hkey : Number.intText (s.saves + 1 : Nat) = key) (vacant : s.row? "user" key = none) :
    (s.save kind clock registrar.author (newcomer signinid)).1.rows = s.rows ++
      [kind.row key { newcomer signinid with id := some ((s.saves + 1 : Nat) : Int) }] := by
  have named : s.named kind clock (newcomer signinid) =
      { newcomer signinid with id := some ((s.saves + 1 : Nat) : Int) } :=
    Store.named_of_isNew kind rfl
  have key : kind.key (s.named kind clock (newcomer signinid)) = key := by
    rw [named]
    exact hkey
  have added := (Store.save_vacant (k := kind) clock registrar.author
    (by rw [key]; exact vacant) (by rw [named]; rfl)).2.1
  rwa [key, named] at added

section Twins

variable {signinid : String} (nan : (Value.text signinid).IsNan)
  (short : signinid.toList.length ≤ 64)

include nan short

/-- A newcomer passes although all users have the sign-in name already. -/
theorem apply_joining_of_same {r : Registry} (known : (r.rules.rules schema).1 = rules)
    (same : ∀ row ∈ r.store.rows, Row.extract row.content "signinid" = some (.text signinid)) :
    (joining signinid).apply r =
      { r with
        store := (r.store.save kind clock registrar.author (newcomer signinid)).1
        rules := (r.rules.rules schema).2 } := by
  have shown : Row.extract (kind.encode (newcomer signinid)) "signinid" = some (.text signinid) :=
    rfl
  exact apply_joining_of_free nan.not_blank short known (Desk.clash_of_unseen shown fun row hrow _ =>
    Bool.eq_false_iff.2 fun seen => (Filter.accepts_own_iff (same row hrow)).1 seen nan)

theorem rows_joining_twice :
    (Request.run [joining signinid, joining signinid] {}).store.rows =
      [kind.row "1" { newcomer signinid with id := some 1 },
        kind.row "2" { newcomer signinid with id := some 2 }] := by
  have once := apply_joining_of_same nan short (r := {}) ofSchema_eq_rules (by simp)
  have rows : ((joining signinid).apply {}).store.rows =
      [kind.row "1" { newcomer signinid with id := some 1 }] := by
    rw [once]
    exact rows_save_newcomer signinid "1" rfl rfl
  have saves : ((joining signinid).apply {}).store.saves = 1 := by
    rw [once]
    exact Store.saves_save ..
  have known : (((joining signinid).apply {}).rules.rules schema).1 = rules := by
    rw [once]
    rfl
  have twice := apply_joining_of_same nan short (r := (joining signinid).apply {}) known (by
    rw [rows]
    simp only [List.mem_singleton, forall_eq]
    rfl)
  simp only [Request.run, List.foldl_cons, List.foldl_nil]
  rw [twice, rows_save_newcomer signinid "2" (by rw [saves]; rfl) (by
    rw [Store.row?, rows]; rfl), rows, saves]
  rfl

end Twins
end User
end Registrar
