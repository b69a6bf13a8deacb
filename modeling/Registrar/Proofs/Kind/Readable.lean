import Registrar.Proofs.Desk.Bound
import Registrar.Proofs.Instant.Clock

/-!
Records read back from their data form. Numbers have to fit into 32 bits, the number of a user into 64,
and the time of the first save has to read back from its text. Main statements: such departments, roles
and users are what their data form is read as; and no request changes the time of the first save.
-/

namespace Registrar

open Json

namespace Json.Fields

variable {α : Type} {fields : Fields} {name : String}

section Congr

variable {others : Fields} (same : others name = fields name)

include same

theorem optional?_congr (read : Value → Option α) :
    others.optional? read name = fields.optional? read name := by
  rw [optional?, optional?, same]

theorem text?_congr : others.text? name = fields.text? name := by
  rw [text?, text?, same]

theorem bool?_congr : others.bool? name = fields.bool? name := by
  rw [bool?, bool?, same]

theorem int32_congr : others.int32 name = fields.int32 name := by
  rw [int32, int32, same]

end Congr

theorem optional?_ofOption {read : Value → Option α} {encode : α → Value} {o : Option α}
    (shown : fields name = some (.ofOption encode o))
    (reads : ∀ a, o = some a → read (encode a) = some a ∧ (encode a).isNull = false) :
    fields.optional? read name = some o := by
  rw [optional?, shown]
  cases o with
  | none => rfl
  | some a =>
    obtain ⟨same, shown⟩ := reads a rfl
    simp [Value.ofOption, shown, same]

theorem of_optional?_some {read : Value → Option α} {a : α}
    (h : fields.optional? read name = some (some a)) : ∃ v, fields name = some v ∧ read v = some a := by
  unfold optional? at h
  split at h
  · cases h
  · next v shown =>
    split at h
    · cases h
    · obtain ⟨b, read, same⟩ := Option.map_eq_some_iff.1 h
      cases same
      exact ⟨v, shown, read⟩

theorem int32_of_fits {n : Int} (shown : fields name = some (.int n)) (fits : Number.fitsInt32 n) :
    fields.int32 name = .ok n := by
  simp [int32, shown, fits]

theorem text_of_option {o : Option String} (shown : fields name = some (.ofOption .text o)) :
    fields.optional? Value.text? name = some o :=
  optional?_ofOption shown fun _ _ => ⟨rfl, rfl⟩

theorem reference_of_option {o : Option Reference}
    (shown : fields name = some (.ofOption Reference.toValue o)) :
    fields.optional? Reference.read? name = some o :=
  optional?_ofOption shown fun _ _ => ⟨rfl, rfl⟩

theorem instant_of_option {o : Option Instant}
    (shown : fields name = some (.ofOption (fun t => .text t.text) o))
    (reads : ∀ t, o = some t → t.ReadsBack) : fields.optional? Value.instant? name = some o := by
  refine optional?_ofOption shown fun t ht => ⟨?_, rfl⟩
  rw [Value.instant?, Value.text?, Option.bind_some]
  exact reads t ht

theorem readsBack_of_instant {t : Instant} (h : fields.optional? Value.instant? name = some (some t)) :
    t.ReadsBack := by
  obtain ⟨v, _, read⟩ := of_optional?_some h
  obtain ⟨s, _, read⟩ := Option.bind_eq_some_iff.1 read
  exact Instant.readsBack_of_read? read

theorem number_of_option {o : Option Int} (shown : fields name = some (.ofOption .int o))
    (fits : ∀ n, o = some n → Number.fitsInt64 n) :
    fields.optional? Identifier.ofValue? name = some o :=
  optional?_ofOption shown fun n hn => ⟨if_pos (fits n hn), rfl⟩

theorem text?_of_text {s : String} (shown : fields name = some (.text s)) :
    fields.text? name = some s := by
  rw [text?, shown]
  rfl

theorem bool?_of_bool {b : Bool} (shown : fields name = some (.bool b)) :
    fields.bool? name = some b := by
  rw [bool?, shown]

/-! What is read of an entry has it as data form. -/

theorem text_of_text? {text : String} {w : Value} (read : fields.text? name = some text)
    (shown : fields name = some w) : Value.text text = w := by
  rw [text?, shown] at read
  exact Value.eq_text_of_text? read

theorem bool_of_bool? {b : Bool} {w : Value} (read : fields.bool? name = some b)
    (shown : fields name = some w) : Value.bool b = w := by
  rw [bool?, shown] at read
  cases w with
  | bool c =>
    cases read
    rfl
  | _ => cases read

theorem same_reference {o p : Option Reference}
    (read : fields.optional? Reference.read? name = some o)
    (shown : fields name = some (.ofOption Reference.toValue p)) : o = p :=
  Option.some.inj (read.symm.trans (reference_of_option shown))

theorem same_instant {o p : Option Instant}
    (read : fields.optional? Value.instant? name = some o)
    (shown : fields name = some (.ofOption (fun t => .text t.text) p))
    (reads : ∀ t, p = some t → t.ReadsBack) : o = p :=
  Option.some.inj (read.symm.trans (instant_of_option shown reads))

end Json.Fields

theorem Json.Value.field?_layout {E : Type} (layout : List (String × (E → Value)))
    (distinct : (layout.map Prod.fst).Nodup) (e : E) (name : String) :
    (Value.ofPairs (layout.map fun entry => (entry.1, entry.2 e))).field? name =
      (Entries.get? name layout).map fun shows => shows e := by
  rw [ofPairs, field?, Entries.get?_putAll, Entries.get?_map]
  · exact Option.or_none
  · rwa [List.map_map]

def Instant.shown (time : Option Instant) : Value := .ofOption (fun t => .text t.text) time

/-- The kind's records show the time of their first save, which no request sets. -/
structure Kind.Dated {I E : Type} (k : Kind I E) (time : E → Option Instant) : Prop where
  exempt : "createdAt" ∈ k.schema.exempt
  field (e : E) : (k.encode e).field? "createdAt" = some (Instant.shown (time e))
  decode {v : Value} {e : E} : k.decode v = .ok e → ∃ fields : Fields,
    (∀ w, v.field? "createdAt" = some w → fields "createdAt" = some w) ∧
    fields.optional? Value.instant? "createdAt" = some (time e)

namespace Kind.Dated

variable {I E : Type} {k : Kind I E} {time : E → Option Instant}

theorem of_decode (dated : k.Dated time) {v : Value} {e : E} (h : k.decode v = .ok e)
    {o : Option Instant} (shown : v.field? "createdAt" = some (Instant.shown o))
    (reads : ∀ t, o = some t → t.ReadsBack) : time e = o := by
  obtain ⟨fields, same, read⟩ := dated.decode h
  rw [Fields.instant_of_option (same _ shown) reads] at read
  exact (Option.some.inj read).symm

theorem of_bind [Identifier I] (dated : k.Dated time) {params : Params} {e bound : E}
    (h : k.bind params e = .ok bound) (reads : ∀ t, time e = some t → t.ReadsBack) :
    time bound = time e := by
  obtain ⟨entries, values, hentries, hvalues, ⟨_, rfl⟩ | decoded⟩ := Kind.bind_cases h
  · rfl
  · have untouched : ∀ pair ∈ values, pair.1 ≠ "createdAt" := by
      intro pair hp named
      obtain ⟨f, hf, same⟩ := name_of_mem_requestedValues hvalues hp
      have binds := (List.mem_filter.1 hf).2
      have exempt := dated.exempt
      rw [← named, same] at exempt
      simp [Schema.binds, exempt] at binds
    have shown := dated.field e
    rw [hentries, Value.field?, ← Entries.get?_putAll_of_ne untouched] at shown
    exact dated.of_decode decoded shown reads

end Kind.Dated

namespace Department

def layout : List (String × (Department → Value)) := [
  ("id", fun d => .ofOption .text d.id),
  ("version", fun d => .int d.version),
  ("code", fun d => .text d.code),
  ("name", fun d => .text d.name),
  ("parent", fun d => .ofOption Reference.toValue d.parent),
  ("description", fun d => .ofOption .text d.description),
  ("createdBy", fun d => .ofOption .text d.createdBy),
  ("createdAt", fun d => Instant.shown d.createdAt)]

theorem field?_encode (d : Department) (name : String) :
    (kind.encode d).field? name = (Entries.get? name layout).map fun shows => shows d :=
  Value.field?_layout layout (by decide) d name

theorem decode_of_readFrom {v : Value} {d : Department} {fields : Fields}
    (hf : v.fields? fieldNames = some fields) (read : d.ReadFrom fields) : kind.decode v = .ok d := by
  have hrest : ofFields? fields d.version = some d := by
    unfold ofFields?
    rw [read.id, read.code, read.name, read.parent, read.description, read.createdBy,
      read.createdAt]
    rfl
  show ofValue v = .ok d
  unfold ofValue
  rw [hf]
  simp only [read.version, bind, Except.bind, hrest]

theorem decode_encode {d : Department} (version : Number.fitsInt32 d.version)
    (time : ∀ t, d.createdAt = some t → t.ReadsBack) : kind.decode (kind.encode d) = .ok d := by
  obtain ⟨fields, hf, shown⟩ : ∃ fields : Fields, (toValue d).fields? fieldNames = some fields ∧
      ∀ name, fields name = (Entries.get? name layout).map fun shows => shows d :=
    ⟨_, rfl, field?_encode d⟩
  exact decode_of_readFrom hf {
    id := Fields.text_of_option (shown _)
    version := Fields.int32_of_fits (shown _) version
    code := Fields.text?_of_text (shown _)
    name := Fields.text?_of_text (shown _)
    parent := Fields.reference_of_option (shown _)
    description := Fields.text_of_option (shown _)
    createdBy := Fields.text_of_option (shown _)
    createdAt := Fields.instant_of_option (shown _) time }

theorem shows_read {v w : Value} {x : Department} {name : String} {shows : Department → Value}
    (h : kind.decode v = .ok x) (entry : (name, shows) ∈ layout) (given : v.field? name = some w)
    (reference : name = "parent" → ∃ p, w = .ofOption Reference.toValue p)
    (time : name = "createdAt" → ∃ p, w = Instant.shown p ∧ ∀ t, p = some t → t.ReadsBack) :
    shows x = w := by
  obtain ⟨fields, hf, read⟩ := readFrom_of_decode h
  have shown : fields name = some w := Value.fields?_of_field? given hf
  simp only [layout, List.mem_cons, Prod.mk.injEq, List.not_mem_nil, or_false] at entry
  rcases entry with
    ⟨rfl, rfl⟩ | ⟨rfl, rfl⟩ | ⟨rfl, rfl⟩ | ⟨rfl, rfl⟩ | ⟨rfl, rfl⟩ | ⟨rfl, rfl⟩ | ⟨rfl, rfl⟩ |
    ⟨rfl, rfl⟩
  · exact Fields.ofOption_of_optional? Value.eq_text_of_text? read.id shown
  · exact Fields.int_of_int32 read.version shown
  · exact Fields.text_of_text? read.code shown
  · exact Fields.text_of_text? read.name shown
  · obtain ⟨p, rfl⟩ := reference rfl
    exact congrArg (Value.ofOption Reference.toValue) (Fields.same_reference read.parent shown)
  · exact Fields.ofOption_of_optional? Value.eq_text_of_text? read.description shown
  · exact Fields.ofOption_of_optional? Value.eq_text_of_text? read.createdBy shown
  · obtain ⟨p, rfl, reads⟩ := time rfl
    exact congrArg Instant.shown (Fields.same_instant read.createdAt shown reads)

theorem field?_of_decode {v : Value} {d x : Department} {name : String} (h : kind.decode v = .ok x)
    (time : name = "createdAt" → ∀ t, d.createdAt = some t → t.ReadsBack)
    (same : v.field? name = (kind.encode d).field? name) :
    (kind.encode x).field? name = (kind.encode d).field? name := by
  rw [field?_encode] at same
  rw [field?_encode, field?_encode]
  cases found : Entries.get? name layout with
  | none => rfl
  | some shows =>
    rw [found] at same
    refine congrArg some (shows_read h (Entries.mem_of_get? found) same (fun own => ?_) fun own => ?_)
    · subst own
      cases found
      exact ⟨_, rfl⟩
    · subst own
      cases found
      exact ⟨_, rfl, time rfl⟩

theorem kind_dated : kind.Dated createdAt where
  exempt := by decide
  field _ := rfl
  decode h := by
    obtain ⟨fields, hf, read⟩ := readFrom_of_decode h
    exact ⟨fields, fun _ hw => Value.fields?_of_field? hw hf, read.createdAt⟩

end Department

namespace Role

def layout : List (String × (Role → Value)) := [
  ("id", fun r => .ofOption .text r.id),
  ("version", fun r => .int r.version),
  ("code", fun r => .text r.code),
  ("name", fun r => .text r.name),
  ("aclType", fun r => .int r.level),
  ("description", fun r => .ofOption .text r.description),
  ("disabled", fun r => .bool r.disabled),
  ("createdBy", fun r => .ofOption .text r.createdBy),
  ("createdAt", fun r => Instant.shown r.createdAt)]

theorem field?_encode (r : Role) (name : String) :
    (kind.encode r).field? name = (Entries.get? name layout).map fun shows => shows r :=
  Value.field?_layout layout (by decide) r name

theorem decode_of_readFrom {v : Value} {r : Role} {fields : Fields}
    (hf : v.fields? fieldNames = some fields) (read : r.ReadFrom fields) : kind.decode v = .ok r := by
  have hrest : ofFields? fields r.level r.version = some r := by
    unfold ofFields?
    rw [read.id, read.code, read.name, read.description, read.disabled, read.createdBy,
      read.createdAt]
    rfl
  show ofValue v = .ok r
  unfold ofValue
  rw [hf]
  simp only [read.level, read.version, bind, Except.bind, hrest]

theorem decode_encode {r : Role} (version : Number.fitsInt32 r.version)
    (level : Number.fitsInt32 r.level) (time : ∀ t, r.createdAt = some t → t.ReadsBack) :
    kind.decode (kind.encode r) = .ok r := by
  obtain ⟨fields, hf, shown⟩ : ∃ fields : Fields, (toValue r).fields? fieldNames = some fields ∧
      ∀ name, fields name = (Entries.get? name layout).map fun shows => shows r :=
    ⟨_, rfl, field?_encode r⟩
  exact decode_of_readFrom hf {
    id := Fields.text_of_option (shown _)
    version := Fields.int32_of_fits (shown _) version
    code := Fields.text?_of_text (shown _)
    name := Fields.text?_of_text (shown _)
    level := Fields.int32_of_fits (shown _) level
    description := Fields.text_of_option (shown _)
    disabled := Fields.bool?_of_bool (shown _)
    createdBy := Fields.text_of_option (shown _)
    createdAt := Fields.instant_of_option (shown _) time }

theorem shows_read {v w : Value} {x : Role} {name : String} {shows : Role → Value}
    (h : kind.decode v = .ok x) (entry : (name, shows) ∈ layout) (given : v.field? name = some w)
    (time : name = "createdAt" → ∃ p, w = Instant.shown p ∧ ∀ t, p = some t → t.ReadsBack) :
    shows x = w := by
  obtain ⟨fields, hf, read⟩ := readFrom_of_decode h
  have shown : fields name = some w := Value.fields?_of_field? given hf
  simp only [layout, List.mem_cons, Prod.mk.injEq, List.not_mem_nil, or_false] at entry
  rcases entry with
    ⟨rfl, rfl⟩ | ⟨rfl, rfl⟩ | ⟨rfl, rfl⟩ | ⟨rfl, rfl⟩ | ⟨rfl, rfl⟩ | ⟨rfl, rfl⟩ | ⟨rfl, rfl⟩ |
    ⟨rfl, rfl⟩ | ⟨rfl, rfl⟩
  · exact Fields.ofOption_of_optional? Value.eq_text_of_text? read.id shown
  · exact Fields.int_of_int32 read.version shown
  · exact Fields.text_of_text? read.code shown
  · exact Fields.text_of_text? read.name shown
  · exact Fields.int_of_int32 read.level shown
  · exact Fields.ofOption_of_optional? Value.eq_text_of_text? read.description shown
  · exact Fields.bool_of_bool? read.disabled shown
  · exact Fields.ofOption_of_optional? Value.eq_text_of_text? read.createdBy shown
  · obtain ⟨p, rfl, reads⟩ := time rfl
    exact congrArg Instant.shown (Fields.same_instant read.createdAt shown reads)

theorem field?_of_decode {v : Value} {r x : Role} {name : String} (h : kind.decode v = .ok x)
    (time : name = "createdAt" → ∀ t, r.createdAt = some t → t.ReadsBack)
    (same : v.field? name = (kind.encode r).field? name) :
    (kind.encode x).field? name = (kind.encode r).field? name := by
  rw [field?_encode] at same
  rw [field?_encode, field?_encode]
  cases found : Entries.get? name layout with
  | none => rfl
  | some shows =>
    rw [found] at same
    refine congrArg some (shows_read h (Entries.mem_of_get? found) same fun own => ?_)
    subst own
    cases found
    exact ⟨_, rfl, time rfl⟩

theorem kind_dated : kind.Dated createdAt where
  exempt := by decide
  field _ := rfl
  decode h := by
    obtain ⟨fields, hf, read⟩ := readFrom_of_decode h
    exact ⟨fields, fun _ hw => Value.fields?_of_field? hw hf, read.createdAt⟩

theorem level_and_code_of_decode {r x : Role} (h : kind.decode (kind.encode r) = .ok x) :
    x.level = r.level ∧ x.code = r.code := by
  have level : (kind.encode x).field? "aclType" = (kind.encode r).field? "aclType" :=
    field?_of_decode h nofun rfl
  have code : (kind.encode x).field? "code" = (kind.encode r).field? "code" :=
    field?_of_decode h nofun rfl
  exact ⟨Value.int.inj (Option.some.inj level), Value.text.inj (Option.some.inj code)⟩

end Role

namespace User

def layout : List (String × (User → Value)) := [
  ("id", fun u => .ofOption .int u.id),
  ("version", fun u => .int u.version),
  ("signinid", fun u => .text u.signinid),
  ("nick", fun u => .text u.nick),
  ("password", fun u => .ofOption .text u.password),
  ("email", fun u => .ofOption .text u.email),
  ("aclCode", fun u => .ofOption .text u.code),
  ("aclType", fun u => .int u.level),
  ("department", fun u => .ofOption Reference.toValue u.department),
  ("enabled", fun u => .bool u.enabled),
  ("createdBy", fun u => .ofOption .text u.createdBy),
  ("createdAt", fun u => Instant.shown u.createdAt)]

theorem field?_encode (u : User) (name : String) :
    (kind.encode u).field? name = (Entries.get? name layout).map fun shows => shows u :=
  Value.field?_layout layout (by decide) u name

theorem decode_of_readFrom {v : Value} {u : User} {fields : Fields}
    (hf : v.fields? fieldNames = some fields) (read : u.ReadFrom fields) : kind.decode v = .ok u := by
  have hrest : ofFields? fields u.level u.version = some u := by
    unfold ofFields?
    rw [read.id, read.signinid, read.nick, read.password, read.email, read.code, read.department,
      read.enabled, read.createdBy, read.createdAt]
    rfl
  show ofValue v = .ok u
  unfold ofValue
  rw [hf]
  simp only [read.level, read.version, bind, Except.bind, hrest]

theorem decode_encode {u : User} (number : ∀ n, u.id = some n → Number.fitsInt64 n)
    (version : Number.fitsInt32 u.version) (level : Number.fitsInt32 u.level)
    (time : ∀ t, u.createdAt = some t → t.ReadsBack) : kind.decode (kind.encode u) = .ok u := by
  obtain ⟨fields, hf, shown⟩ : ∃ fields : Fields, (toValue u).fields? fieldNames = some fields ∧
      ∀ name, fields name = (Entries.get? name layout).map fun shows => shows u :=
    ⟨_, rfl, field?_encode u⟩
  exact decode_of_readFrom hf {
    id := Fields.number_of_option (shown _) number
    version := Fields.int32_of_fits (shown _) version
    signinid := Fields.text?_of_text (shown _)
    nick := Fields.text?_of_text (shown _)
    password := Fields.text_of_option (shown _)
    email := Fields.text_of_option (shown _)
    code := Fields.text_of_option (shown _)
    level := Fields.int32_of_fits (shown _) level
    department := Fields.reference_of_option (shown _)
    enabled := Fields.bool?_of_bool (shown _)
    createdBy := Fields.text_of_option (shown _)
    createdAt := Fields.instant_of_option (shown _) time }

theorem shows_read {v w : Value} {x : User} {name : String} {shows : User → Value}
    (h : kind.decode v = .ok x) (entry : (name, shows) ∈ layout) (given : v.field? name = some w)
    (reference : name = "department" → ∃ p, w = .ofOption Reference.toValue p)
    (time : name = "createdAt" → ∃ p, w = Instant.shown p ∧ ∀ t, p = some t → t.ReadsBack) :
    shows x = w := by
  obtain ⟨fields, hf, read⟩ := readFrom_of_decode h
  have shown : fields name = some w := Value.fields?_of_field? given hf
  simp only [layout, List.mem_cons, Prod.mk.injEq, List.not_mem_nil, or_false] at entry
  rcases entry with
    ⟨rfl, rfl⟩ | ⟨rfl, rfl⟩ | ⟨rfl, rfl⟩ | ⟨rfl, rfl⟩ | ⟨rfl, rfl⟩ | ⟨rfl, rfl⟩ | ⟨rfl, rfl⟩ |
    ⟨rfl, rfl⟩ | ⟨rfl, rfl⟩ | ⟨rfl, rfl⟩ | ⟨rfl, rfl⟩ | ⟨rfl, rfl⟩
  · exact Fields.ofOption_of_optional? LawfulIdentifier.toValue_of_ofValue? read.id shown
  · exact Fields.int_of_int32 read.version shown
  · exact Fields.text_of_text? read.signinid shown
  · exact Fields.text_of_text? read.nick shown
  · exact Fields.ofOption_of_optional? Value.eq_text_of_text? read.password shown
  · exact Fields.ofOption_of_optional? Value.eq_text_of_text? read.email shown
  · exact Fields.ofOption_of_optional? Value.eq_text_of_text? read.code shown
  · exact Fields.int_of_int32 read.level shown
  · obtain ⟨p, rfl⟩ := reference rfl
    exact congrArg (Value.ofOption Reference.toValue) (Fields.same_reference read.department shown)
  · exact Fields.bool_of_bool? read.enabled shown
  · exact Fields.ofOption_of_optional? Value.eq_text_of_text? read.createdBy shown
  · obtain ⟨p, rfl, reads⟩ := time rfl
    exact congrArg Instant.shown (Fields.same_instant read.createdAt shown reads)

theorem field?_of_decode {v : Value} {u x : User} {name : String} (h : kind.decode v = .ok x)
    (time : name = "createdAt" → ∀ t, u.createdAt = some t → t.ReadsBack)
    (same : v.field? name = (kind.encode u).field? name) :
    (kind.encode x).field? name = (kind.encode u).field? name := by
  rw [field?_encode] at same
  rw [field?_encode, field?_encode]
  cases found : Entries.get? name layout with
  | none => rfl
  | some shows =>
    rw [found] at same
    refine congrArg some (shows_read h (Entries.mem_of_get? found) same (fun own => ?_) fun own => ?_)
    · subst own
      cases found
      exact ⟨_, rfl⟩
    · subst own
      cases found
      exact ⟨_, rfl, time rfl⟩

theorem kind_dated : kind.Dated createdAt where
  exempt := by decide
  field _ := rfl
  decode h := by
    obtain ⟨fields, hf, read⟩ := readFrom_of_decode h
    exact ⟨fields, fun _ hw => Value.fields?_of_field? hw hf, read.createdAt⟩

theorem fits_of_decode {v : Value} {u : User} (h : kind.decode v = .ok u) :
    (∀ n, u.id = some n → Number.fitsInt64 n) ∧ Number.fitsInt32 u.level := by
  obtain ⟨fields, _, read⟩ := readFrom_of_decode h
  refine ⟨fun n hn => ?_, Fields.fits_of_int32 read.level⟩
  have hid := read.id
  rw [hn] at hid
  obtain ⟨w, _, read⟩ := Fields.of_optional?_some hid
  cases w with
  | int m =>
    simp only [Identifier.ofValue?] at read
    split at read
    · next fits =>
      cases read
      exact fits
    · cases read
  | _ => cases read

end User
end Registrar
