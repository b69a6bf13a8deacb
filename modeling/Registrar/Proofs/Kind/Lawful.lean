import Mathlib.Logic.Function.Basic
import Registrar.Department
import Registrar.Freeform
import Registrar.Proofs.Entries
import Registrar.Proofs.Number.Decimal
import Registrar.Role
import Registrar.User

/-!
Lawful kinds: the accessors of a record and its data form tell the same identifier and version, and
a setter touches its own entry only. Main statements: departments, roles, users and all freeform
records that show their entries are lawful.
-/

namespace Registrar

open Json

namespace Number

theorem natText_injective : Function.Injective natText := by
  intro m n h
  have digits : Nat.toDigits 10 m = Nat.toDigits 10 n := String.ofList_injective h
  rw [← Nat.ofDigitChars_ten_toDigits (n := m), digits, Nat.ofDigitChars_ten_toDigits]

theorem not_allBlank_natText (m : Nat) : Text.allBlank (natText m) = false := by
  obtain ⟨c, rest, digits⟩ :=
    List.exists_cons_of_ne_nil (Nat.toDigits_ne_nil (n := m) (b := 10))
  have digit : c.isDigit :=
    Nat.isDigit_of_mem_toDigits (b := 10) (n := m) (by decide) (by decide) (by simp [digits])
  simp [Text.allBlank, natText, digits, not_isBlank_of_isDigit digit]

theorem not_allBlank_intText (n : Int) : Text.allBlank (intText n) = false := by
  cases n with
  | ofNat m => exact not_allBlank_natText m
  | negSucc m => simp [intText, Text.allBlank, show Text.isBlank '-' = false by decide]

theorem natText_ne_minus (m : Nat) (s : String) : natText m ≠ "-" ++ s := by
  intro h
  have minus : Nat.toDigits 10 m = '-' :: s.toList := by
    have := congrArg String.toList h
    simpa [natText] using this
  have digit : ('-').isDigit :=
    Nat.isDigit_of_mem_toDigits (b := 10) (n := m) (by decide) (by decide) (by simp [minus])
  simp at digit

theorem intText_injective : Function.Injective intText := by
  intro m n h
  match m, n with
  | .ofNat m, .ofNat n => exact congrArg Int.ofNat (natText_injective h)
  | .ofNat m, .negSucc n => exact absurd h (natText_ne_minus m _)
  | .negSucc m, .ofNat n => exact absurd h.symm (natText_ne_minus n _)
  | .negSucc m, .negSucc n =>
    have digits : natText (m + 1) = natText (n + 1) := String.append_right_inj "-" |>.1 h
    exact congrArg Int.negSucc (Nat.succ.inj (natText_injective digits))

end Number

/-- The data form of a value that stands for no identifier. -/
def Json.Value.isUnset : Value → Bool
  | .text s => Text.allBlank s
  | .int n => n ≤ 0
  | _ => true

/-- Identifiers that their text and their data form tell apart, and whose fresh values count as
set. -/
class LawfulIdentifier (I : Type) [Identifier I] : Prop where
  text_injective : Function.Injective (Identifier.text : I → String)
  text_toValue (i : I) : Row.text (Identifier.toValue i) = Identifier.text i
  toValue_ne_null (i : I) : Identifier.toValue i ≠ .null
  toValue_of_ofValue? {v : Value} {i : I} :
    Identifier.ofValue? v = some i → Identifier.toValue i = v
  isUnset_toValue (i : I) : (Identifier.toValue i).isUnset = Identifier.isUnset i
  fresh_isSet {text : String} {n : Nat} : Text.allBlank text = false → 0 < n →
    Identifier.isUnset (Identifier.fresh text n : I) = false

theorem Json.Value.eq_text_of_text? {v : Value} {s : String} (h : v.text? = some s) :
    Value.text s = v := by
  cases v <;> simp_all [Value.text?]

instance : LawfulIdentifier String where
  text_injective _ _ h := h
  text_toValue _ := rfl
  toValue_ne_null _ := Value.noConfusion
  toValue_of_ofValue? := Value.eq_text_of_text?
  isUnset_toValue _ := rfl
  fresh_isSet h _ := h

instance : LawfulIdentifier Int where
  text_injective := Number.intText_injective
  text_toValue _ := rfl
  toValue_ne_null _ := Value.noConfusion
  toValue_of_ofValue? {v i} h := by
    cases v with
    | int n =>
      simp only [Identifier.ofValue?] at h
      split at h <;> simp_all [Identifier.toValue]
    | _ => cases h
  isUnset_toValue _ := rfl
  fresh_isSet {text n} _ hn := by
    simp only [Identifier.isUnset, Identifier.fresh, decide_eq_false_iff_not]
    omega

theorem LawfulIdentifier.ofOption_injective {I : Type} [Identifier I] [LawfulIdentifier I] :
    Function.Injective (Value.ofOption (Identifier.toValue : I → Value)) := by
  intro a b same
  cases a with
  | none =>
    cases b with
    | none => rfl
    | some j => exact absurd same.symm (toValue_ne_null j)
  | some i =>
    cases b with
    | none => exact absurd same (toValue_ne_null i)
    | some j =>
      have texts := congrArg Row.text same
      simp only [Value.ofOption, text_toValue] at texts
      rw [text_injective texts]

/-- The accessors and the data form of a kind's records agree. -/
structure Kind.Lawful {I E : Type} [Identifier I] (k : Kind I E) : Prop where
  id_setId (i : I) (e : E) : k.id (k.setId i e) = some i
  id_setVersion (n : Int) (e : E) : k.id (k.setVersion n e) = k.id e
  version_setVersion (n : Int) (e : E) : k.version (k.setVersion n e) = n
  field_id (e : E) : (k.encode e).field? "id" = some (.ofOption Identifier.toValue (k.id e))
  field_version (e : E) : (k.encode e).field? "version" = some (.int (k.version e))
  field_setId (i : I) (e : E) {key : String} : key ≠ "id" →
    (k.encode (k.setId i e)).field? key = (k.encode e).field? key
  field_setVersion (n : Int) (e : E) {key : String} : key ≠ "version" →
    (k.encode (k.setVersion n e)).field? key = (k.encode e).field? key
  decode_id {v w : Value} {e : E} : k.decode v = .ok e → v.field? "id" = some w →
    Value.ofOption Identifier.toValue (k.id e) = w
  decode_version {v w : Value} {e : E} : k.decode v = .ok e → v.field? "version" = some w →
    Value.int (k.version e) = w

theorem Row.textAt_id {row v : Value} (h : row.field? "id" = some v) (filled : v ≠ .null) :
    Row.textAt row "id" = Row.text v := by
  have path : Text.split '.' "id" = ["id"] := by decide
  have notNull : v.isNull = false := by cases v <;> first | rfl | exact absurd rfl filled
  rw [textAt, extract, path, descend, h]
  simp [descend, notNull]

theorem Kind.Lawful.textAt_encode {I E : Type} [Identifier I] [LawfulIdentifier I] {k : Kind I E}
    (law : k.Lawful) {e : E} {id : I} (h : k.id e = some id) :
    Row.textAt (k.encode e) "id" = Identifier.text id := by
  have shown := law.field_id e
  rw [h] at shown
  exact (Row.textAt_id shown (LawfulIdentifier.toValue_ne_null id)).trans
    (LawfulIdentifier.text_toValue id)

namespace Json

theorem Value.fields?_of_field? {v w : Value} {names : List String} {name : String}
    {fields : Fields} (hw : v.field? name = some w) (h : v.fields? names = some fields) :
    fields name = some w := by
  cases v with
  | object entries =>
    cases h
    exact hw
  | _ => cases hw

theorem Fields.ofOption_of_optional? {α : Type} {read : Value → Option α} {encode : α → Value}
    {fields : Fields} {name : String} {o : Option α} {w : Value}
    (exact : ∀ {a}, read w = some a → encode a = w)
    (h : fields.optional? read name = some o) (hw : fields name = some w) :
    Value.ofOption encode o = w := by
  simp only [Fields.optional?, hw] at h
  split at h
  · next null =>
    cases h
    cases w <;> simp_all [Value.isNull, Value.ofOption]
  · obtain ⟨a, ha, rfl⟩ := Option.map_eq_some_iff.1 h
    exact exact ha

theorem Fields.int_of_int32 {fields : Fields} {name : String} {n : Int} {w : Value}
    (h : fields.int32 name = .ok n) (hw : fields name = some w) : Value.int n = w := by
  simp only [Fields.int32, hw] at h
  grind

theorem Fields.fits_of_int32 {fields : Fields} {name : String} {n : Int}
    (h : fields.int32 name = .ok n) : Number.fitsInt32 n := by
  unfold Fields.int32 at h
  split at h
  · split at h
    · next fits =>
      cases h
      exact fits
    · cases h
  · cases h
  · cases h

end Json

section Reading

variable {I E : Type} [Identifier I] {k : Kind I E}

/-- A record is read from fields of its data form, which show its identifier and version. -/
def Kind.Reads (k : Kind I E) : Prop :=
  ∀ v e, k.decode v = .ok e → ∃ fields : Fields,
    (∀ name w, v.field? name = some w → fields name = some w) ∧
    fields.optional? Identifier.ofValue? "id" = some (k.id e) ∧
    fields.int32 "version" = .ok (k.version e)

theorem Kind.Reads.decode_id [LawfulIdentifier I] (reads : k.Reads) {v w : Value} {e : E}
    (h : k.decode v = .ok e) (hw : v.field? "id" = some w) :
    Value.ofOption Identifier.toValue (k.id e) = w := by
  obtain ⟨fields, shown, hid, _⟩ := reads v e h
  exact Fields.ofOption_of_optional? LawfulIdentifier.toValue_of_ofValue? hid (shown _ w hw)

theorem Kind.Reads.decode_version (reads : k.Reads) {v w : Value} {e : E}
    (h : k.decode v = .ok e) (hw : v.field? "version" = some w) :
    Value.int (k.version e) = w := by
  obtain ⟨fields, shown, _, hversion⟩ := reads v e h
  exact Fields.int_of_int32 hversion (shown _ w hw)

end Reading

theorem Json.Value.field?_ofPairs_congr {key changed : String} (h : key ≠ changed) (a b : Value)
    (front rest : List (String × Value)) :
    (Value.ofPairs (front ++ (changed, a) :: rest)).field? key =
      (Value.ofPairs (front ++ (changed, b) :: rest)).field? key := by
  simp only [Value.ofPairs, Value.field?, Entries.putAll, List.foldl_append, List.foldl_cons]
  refine Entries.get?_putAll_congr ?_ rest
  rw [Entries.get?_put_of_ne h, Entries.get?_put_of_ne h]

namespace Department

/-- Each field of the department is read from the entry under its name. -/
structure ReadFrom (d : Department) (fields : Fields) : Prop where
  id : fields.optional? Value.text? "id" = some d.id
  version : fields.int32 "version" = .ok d.version
  code : fields.text? "code" = some d.code
  name : fields.text? "name" = some d.name
  parent : fields.optional? Reference.read? "parent" = some d.parent
  description : fields.optional? Value.text? "description" = some d.description
  createdBy : fields.optional? Value.text? "createdBy" = some d.createdBy
  createdAt : fields.optional? Value.instant? "createdAt" = some d.createdAt

theorem readFrom_of_decode {v : Value} {d : Department} (h : kind.decode v = .ok d) :
    ∃ fields, v.fields? fieldNames = some fields ∧ d.ReadFrom fields := by
  change ofValue v = .ok d at h
  unfold ofValue at h
  split at h
  · next fields hf =>
    simp only [bind, Except.bind] at h
    split at h
    · cases h
    · next version hversion =>
      split at h
      · next found hfound =>
        cases h
        simp only [ofFields?, Option.bind_eq_bind, Option.bind_eq_some_iff] at hfound
        obtain ⟨id, hid, code, hcode, name, hname, parent, hparent, text, htext, actor, hactor,
          time, htime, same⟩ := hfound
        cases same
        exact ⟨fields, hf, hid, hversion, hcode, hname, hparent, htext, hactor, htime⟩
      · cases h
  · cases h

theorem kind_reads : kind.Reads := by
  intro v e h
  obtain ⟨fields, hf, read⟩ := readFrom_of_decode h
  exact ⟨fields, fun _ _ hw => Value.fields?_of_field? hw hf, read.id, read.version⟩

theorem kind_lawful : kind.Lawful where
  id_setId _ _ := rfl
  id_setVersion _ _ := rfl
  version_setVersion _ _ := rfl
  field_id _ := rfl
  field_version _ := rfl
  field_setId _ _ _ h := Value.field?_ofPairs_congr h _ _ [] _
  field_setVersion _ _ _ h := Value.field?_ofPairs_congr h _ _ [_] _
  decode_id := kind_reads.decode_id
  decode_version := kind_reads.decode_version

end Department

namespace Role

/-- Each field of the role is read from the entry under its name. -/
structure ReadFrom (r : Role) (fields : Fields) : Prop where
  id : fields.optional? Value.text? "id" = some r.id
  version : fields.int32 "version" = .ok r.version
  code : fields.text? "code" = some r.code
  name : fields.text? "name" = some r.name
  level : fields.int32 "aclType" = .ok r.level
  description : fields.optional? Value.text? "description" = some r.description
  disabled : fields.bool? "disabled" = some r.disabled
  createdBy : fields.optional? Value.text? "createdBy" = some r.createdBy
  createdAt : fields.optional? Value.instant? "createdAt" = some r.createdAt

theorem readFrom_of_decode {v : Value} {r : Role} (h : kind.decode v = .ok r) :
    ∃ fields, v.fields? fieldNames = some fields ∧ r.ReadFrom fields := by
  change ofValue v = .ok r at h
  unfold ofValue at h
  split at h
  · next fields hf =>
    simp only [bind, Except.bind] at h
    split at h
    · cases h
    · next level hlevel =>
      split at h
      · cases h
      · next version hversion =>
        split at h
        · next found hfound =>
          cases h
          simp only [ofFields?, Option.bind_eq_bind, Option.bind_eq_some_iff] at hfound
          obtain ⟨id, hid, code, hcode, name, hname, text, htext, disabled, hdisabled, actor, hactor,
            time, htime, same⟩ := hfound
          cases same
          exact ⟨fields, hf, hid, hversion, hcode, hname, hlevel, htext, hdisabled, hactor, htime⟩
        · cases h
  · cases h

theorem kind_reads : kind.Reads := by
  intro v e h
  obtain ⟨fields, hf, read⟩ := readFrom_of_decode h
  exact ⟨fields, fun _ _ hw => Value.fields?_of_field? hw hf, read.id, read.version⟩

theorem kind_lawful : kind.Lawful where
  id_setId _ _ := rfl
  id_setVersion _ _ := rfl
  version_setVersion _ _ := rfl
  field_id _ := rfl
  field_version _ := rfl
  field_setId _ _ _ h := Value.field?_ofPairs_congr h _ _ [] _
  field_setVersion _ _ _ h := Value.field?_ofPairs_congr h _ _ [_] _
  decode_id := kind_reads.decode_id
  decode_version := kind_reads.decode_version

end Role

namespace User

/-- Each field of the user is read from the entry under its name. -/
structure ReadFrom (u : User) (fields : Fields) : Prop where
  id : fields.optional? Identifier.ofValue? "id" = some u.id
  version : fields.int32 "version" = .ok u.version
  signinid : fields.text? "signinid" = some u.signinid
  nick : fields.text? "nick" = some u.nick
  password : fields.optional? Value.text? "password" = some u.password
  email : fields.optional? Value.text? "email" = some u.email
  code : fields.optional? Value.text? "aclCode" = some u.code
  level : fields.int32 "aclType" = .ok u.level
  department : fields.optional? Reference.read? "department" = some u.department
  enabled : fields.bool? "enabled" = some u.enabled
  createdBy : fields.optional? Value.text? "createdBy" = some u.createdBy
  createdAt : fields.optional? Value.instant? "createdAt" = some u.createdAt

theorem readFrom_of_decode {v : Value} {u : User} (h : kind.decode v = .ok u) :
    ∃ fields, v.fields? fieldNames = some fields ∧ u.ReadFrom fields := by
  change ofValue v = .ok u at h
  unfold ofValue at h
  split at h
  · next fields hf =>
    simp only [bind, Except.bind] at h
    split at h
    · cases h
    · next level hlevel =>
      split at h
      · cases h
      · next version hversion =>
        split at h
        · next found hfound =>
          cases h
          simp only [ofFields?, Option.bind_eq_bind, Option.bind_eq_some_iff] at hfound
          obtain ⟨id, hid, signinid, hsigninid, nick, hnick, password, hpassword, email, hemail,
            code, hcode, department, hdepartment, enabled, henabled, actor, hactor, time, htime,
            same⟩ := hfound
          cases same
          exact ⟨fields, hf, hid, hversion, hsigninid, hnick, hpassword, hemail, hcode, hlevel,
            hdepartment, henabled, hactor, htime⟩
        · cases h
  · cases h

theorem kind_reads : kind.Reads := by
  intro v e h
  obtain ⟨fields, hf, read⟩ := readFrom_of_decode h
  exact ⟨fields, fun _ _ hw => Value.fields?_of_field? hw hf, read.id, read.version⟩

theorem kind_lawful : kind.Lawful where
  id_setId _ _ := rfl
  id_setVersion _ _ := rfl
  version_setVersion _ _ := rfl
  field_id _ := rfl
  field_version _ := rfl
  field_setId _ _ _ h := Value.field?_ofPairs_congr h _ _ [] _
  field_setVersion _ _ _ h := Value.field?_ofPairs_congr h _ _ [_] _
  decode_id := kind_reads.decode_id
  decode_version := kind_reads.decode_version

end User

namespace Freeform

variable {I : Type} [Identifier I]

theorem of_ofValue {v : Value} {r : Freeform I} (h : ofValue v = .ok r) :
    ∃ fields : Fields, (∀ name, fields name = v.field? name) ∧
      fields.optional? Identifier.ofValue? "id" = some r.id ∧
      fields.int32 "version" = .ok r.version := by
  unfold ofValue at h
  split at h
  · next entries =>
    dsimp only at h
    split at h
    · next id hid =>
      simp only [bind, Except.bind] at h
      split at h
      · cases h
      · next version hversion =>
        cases h
        exact ⟨_, fun _ => rfl, hid, hversion⟩
    · cases h
  · cases h

theorem field?_toValue (r : Freeform I) {key : String} (hid : key ≠ "id")
    (hversion : key ≠ "version") : r.toValue.field? key = Entries.get? key r.entries := by
  rw [toValue, Value.field?, Entries.get?_put_of_ne hid, Entries.get?_put_of_ne hversion]

theorem field?_toValue_id (r : Freeform I) :
    r.toValue.field? "id" = some (.ofOption Identifier.toValue r.id) :=
  Entries.get?_put_self ..

theorem field?_toValue_version (r : Freeform I) :
    r.toValue.field? "version" = some (.int r.version) := by
  rw [toValue, Value.field?, Entries.get?_put_of_ne (by decide), Entries.get?_put_self]

theorem kind_reads (design : Design) : (kind design : Kind I (Freeform I)).Reads := by
  intro v r h
  obtain ⟨fields, hf, hid, hversion⟩ := of_ofValue h
  exact ⟨fields, fun _ _ hw => (hf _).trans hw, hid, hversion⟩

theorem kind_lawful [LawfulIdentifier I] {design : Design} (shown : design.isOpaque = false) :
    (kind design : Kind I (Freeform I)).Lawful where
  id_setId _ _ := rfl
  id_setVersion _ _ := rfl
  version_setVersion _ _ := rfl
  field_id r := by simpa [kind, shown] using r.field?_toValue_id
  field_version r := by simpa [kind, shown] using r.field?_toValue_version
  field_setId i r key h := by
    by_cases hv : key = "version"
    · simp [kind, shown, hv, field?_toValue_version]
    · simp [kind, shown, field?_toValue _ h hv]
  field_setVersion n r key h := by
    by_cases hi : key = "id"
    · simp [kind, shown, hi, field?_toValue_id]
    · simp [kind, shown, field?_toValue _ hi h]
  decode_id := (kind_reads design).decode_id
  decode_version := (kind_reads design).decode_version

end Freeform
end Registrar
