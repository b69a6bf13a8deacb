import Registrar.Proofs.Desk.Solitary
import Registrar.Proofs.Desk.Taken
import Registrar.Proofs.Desk.Twins
import Registrar.Proofs.Web.Forest
import Registrar.Proofs.Web.Views

/-!
Texts that the service calls taken. Main statement: the text that a refused request gives a unique column
is that of another row, or of the same number as that of another row, and of any two texts of one number
the second is refused although no row has it.
-/

namespace Registrar

open Json Row

namespace Web

variable {limits : PageLimits} {supply : Supply} {order : Order} {params : Params} {caller : Caller}
variable {r : Registry} {label text : String}

def Section.column : Section → String
  | .user => "signinid"
  | _ => "code"

def Section.Names (params : Params) (key : String) : Section → Prop
  | .user => ∃ id : Int, Desk.requestId params = .ok (some id) ∧ Identifier.text id = key
  | _ => ∃ id : String, Desk.requestId params = .ok (some id) ∧ Identifier.text id = key

def Section.draft (limits : PageLimits) (params : Params) (caller : Caller) (s : Store) :
    Section → Except Error Value
  | .department => ((departments limits).working params caller s).map Department.kind.encode
  | .role => ((roles limits).working params caller s).map Role.kind.encode
  | .user => ((users limits).working params caller s).map User.kind.encode

theorem departments_candid : (departments limits).Candid where
  parse raw := untaken_ok raw
  permit _ _ := untaken_ok ()
  prepare _ _ := untaken_ok _

theorem roles_candid : (roles limits).Candid where
  parse raw := untaken_ok raw
  permit _ _ := untaken_ok ()
  prepare _ _ := untaken_ok _

theorem users_candid : (users limits).Candid where
  parse raw := by
    simp only [Identifier.parse]
    cases Number.readSigned Number.maxInt64 raw.toList with
    | ok n => exact untaken_ok n
    | error fault => rintro label text ⟨⟩
  permit u caller := by
    show Untaken (User.permit u caller)
    unfold User.permit
    split
    · exact untaken_ok _
    · rintro label text ⟨⟩
  prepare u caller := by
    show Untaken (User.prepare u caller)
    unfold User.prepare
    dsimp only
    split
    all_goals
      split
      · exact untaken_ok _
      · rintro label text ⟨⟩

theorem departments_column : (departments limits).Column "code" Department.code where
  shows _ := rfl
  alone :=
    have alone : ∀ f ∈ Department.schema.declared, f.isUnique → f.name = "code" := by decide
    alone
  prepare {e x caller} h := by
    cases h
    split <;> rfl
  stamp _ _ _ := rfl

theorem roles_column : (roles limits).Column "code" Role.code where
  shows _ := rfl
  alone :=
    have alone : ∀ f ∈ Role.schema.declared, f.isUnique → f.name = "code" := by decide
    alone
  prepare h := by
    cases h
    rfl
  stamp _ _ _ := rfl

theorem users_column : (users limits).Column "signinid" User.signinid where
  shows _ := rfl
  alone :=
    have alone : ∀ f ∈ User.schema.declared, f.isUnique → f.name = "signinid" := by decide
    alone
  prepare {e x caller} h := by
    have prepared : User.prepare e caller = .ok x := h
    unfold User.prepare at prepared
    dsimp only at prepared
    split at prepared
    all_goals
      split at prepared
      · cases prepared
        rfl
      · cases prepared
  stamp _ _ _ := rfl

section Orders

variable {I E : Type} [Identifier I] [LawfulIdentifier I] [DecidableEq I] {d : Desk I E}
variable {column : String} {value : E → String}

theorem rival_of_carryOut (candid : d.Candid) (texts : d.Column column value)
    (shows : r.store.Shows d.kind fun _ => True) (law : d.kind.Lawful) (kept : r.store.WellKept)
    (keeps : d.KeepsId) (blank : d.kind.isNew d.kind.blank) (changes : order ≠ .delete)
    (h : (carryOut d supply order params caller r).2 = .error (.taken label text)) :
    ∃ e, d.working params caller r.store = .ok e ∧ value e = text ∧
      d.Rival column params r.store text := by
  cases order with
  | create => exact Desk.rival_of_doCreate candid texts shows law kept keeps blank h
  | update => exact Desk.rival_of_doUpdate candid texts shows law kept keeps blank h
  | save => exact Desk.rival_of_doSave candid texts shows law kept keeps blank h
  | delete => exact absurd rfl changes

end Orders

/-- A row of the section, under another key than the one that the request names, has a text with the
property in the unique column. -/
def Section.Holds (place : Section) (params : Params) (s : Store) (P : String → Prop) : Prop :=
  ∃ row ∈ s.rows, row.entityType = place.name ∧ (∀ key, place.Names params key → row.key ≠ key) ∧
    ∃ held, extract row.content place.column = some (.text held) ∧ P held

theorem shows_of_shows {I E : Type} {k : Kind I E} {P : E → Prop} {s : Store} (h : s.Shows k P) :
    s.Shows k fun _ => True := fun row hrow type => by
  obtain ⟨e, shown, _⟩ := h row hrow type
  exact ⟨e, shown, trivial⟩

theorem draft_of_working {I E : Type} [Identifier I] {d : Desk I E} {s : Store} {e : E} {column : String}
    {value : E → String} (texts : d.Column column value)
    (worked : d.working params caller s = .ok e) : ∃ v,
      (d.working params caller s).map d.kind.encode = .ok v ∧
        extract v column = some (.text (value e)) :=
  ⟨d.kind.encode e, by rw [worked]; rfl, texts.shows e⟩

theorem holds_of_taken {place : Section} (reached : Reached limits r) (changes : order ≠ .delete)
    (h : (orderAt limits supply place order params caller r).2 = .error (.taken label text)) :
    (∃ v, place.draft limits params caller r.store = .ok v ∧
      extract v place.column = some (.text text)) ∧
    place.Holds params r.store fun held => held = text ∨ SameAmount held text := by
  have kept := reached.kept.wellKept
  cases place with
  | department =>
    obtain ⟨e, worked, rfl, row, hrow, type, other, held⟩ := rival_of_carryOut departments_candid
      departments_column reached.shows_departments Department.kind_lawful kept departments_keepsId rfl
      changes h
    refine ⟨draft_of_working departments_column worked, row, hrow, type, ?_, held⟩
    rintro key ⟨id, named, rfl⟩
    exact other id named
  | role =>
    obtain ⟨e, worked, rfl, row, hrow, type, other, held⟩ := rival_of_carryOut roles_candid roles_column
      (shows_of_shows reached.fitLevels) Role.kind_lawful kept roles_keepsId rfl changes h
    refine ⟨draft_of_working roles_column worked, row, hrow, type, ?_, held⟩
    rintro key ⟨id, named, rfl⟩
    exact other id named
  | user =>
    obtain ⟨e, worked, rfl, row, hrow, type, other, held⟩ := rival_of_carryOut users_candid users_column
      (shows_of_shows reached.placed) User.kind_lawful kept users_keepsId rfl changes h
    refine ⟨draft_of_working users_column worked, row, hrow, type, ?_, held⟩
    rintro key ⟨id, named, rfl⟩
    exact other id named

def enlisting (signinid : String) : Params :=
  ⟨.mutation, [("signinid", signinid), ("department.id", "D10")]⟩

def enlisted (signinid : String) : Posted where
  supply := User.clock
  sound := User.clock_isSound
  caller := User.registrar.caller
  post := .order .user .create (enlisting signinid)

def withUser (signinid : String) : Registry :=
  Posted.run {} [enlisted signinid] (begin {} User.clock).1

theorem reached_withUser (signinid : String) : Reached {} (withUser signinid) :=
  ⟨{}, User.clock, [enlisted signinid], User.clock_isSound, rfl⟩

theorem not_blank_of_same {s t : String} (h : SameAmount s t) :
    Text.allBlank s = false ∧ Text.allBlank t = false := by
  obtain ⟨n, ofS, ofT⟩ := h
  obtain ⟨x, hx, _⟩ := Option.bind_eq_some_iff.1 ofS
  obtain ⟨y, hy, _⟩ := Option.bind_eq_some_iff.1 ofT
  exact ⟨not_blank_of_number? (hx ▸ nofun), not_blank_of_number? (hy ▸ nofun)⟩

theorem withUser_eq {signinid : String} (shown : Text.allBlank signinid = false)
    (short : signinid.toList.length ≤ 64) :
    (withUser signinid).store.rows =
        [User.kind.row "1" { User.newcomer signinid with id := some 1 }] ∧
      ((withUser signinid).rules.rules User.schema).1 = User.rules := by
  have free : User.desk.clash true (User.newcomer signinid) (begin {} User.clock).1.store
      User.signinField = .ok () := Desk.clash_of_unseen rfl fun row hrow _ => nomatch hrow
  have joined : withUser signinid = _ :=
    User.apply_joining_of_free shown short (r := (begin {} User.clock).1) User.ofSchema_eq_rules free
  rw [joined]
  exact ⟨User.rows_save_newcomer signinid "1" rfl rfl, rfl⟩

theorem decode_firstUser {signinid : String} :
    User.kind.decode (User.kind.encode { User.newcomer signinid with id := some 1 }) =
      .ok { User.newcomer signinid with id := some 1 } := by
  refine User.decode_encode (fun n hn => ?_) (rfl : Number.fitsInt32 0 = true)
    (rfl : Number.fitsInt32 0 = true) fun t ht => ?_
  · cases hn
    decide
  · cases ht
    rfl

theorem clash_of_holder {holder : User} {text : String} {s : Store}
    (rows : s.rows = [User.kind.row "1" holder])
    (read : User.kind.decode (User.kind.encode holder) = .ok holder)
    (clash : Clashes holder.signinid text) :
    User.desk.clash true (User.newcomer text) s User.signinField =
      .error (.taken "Sign-in ID" text) := by
  have seen : ({ client := [.equal "signinid" (.text text)] } : Filter).accepts
      (User.kind.encode holder) :=
    Filter.accepts_equal_iff.2 ⟨.text holder.signinid, rfl, clash⟩
  have contents : s.contents User.kind.entityType = [User.kind.encode holder] := by
    rw [Store.contents, rows]
    rfl
  have query : s.query User.kind { client := [.equal "signinid" (.text text)] } [] =
      .ok [holder] := by
    rw [Store.query_unsorted, contents, List.filter_cons_of_pos seen, List.filter_nil]
    simp only [List.mapM_cons, List.mapM_nil, Store.read, read]
    rfl
  have asked : extract (User.desk.kind.encode (User.newcomer text)) User.signinField.name =
    some (.text text) := rfl
  unfold Desk.clash
  simp only [asked]
  rw [show User.desk.kind = User.kind from rfl, show User.signinField.name = "signinid" from rfl, query]
  rfl

/-- Once a user has a text, a user with one that clashes is refused. -/
theorem refused_of_clashes {held text : String} (shownHeld : Text.allBlank held = false)
    (shown : Text.allBlank text = false) (clash : Clashes held text)
    (shortHeld : held.toList.length ≤ 64) (short : text.toList.length ≤ 64) :
    (orderAt {} User.clock .user .create (enlisting text) User.registrar.caller (withUser held)).2 =
      .error (.taken "Sign-in ID" text) := by
  obtain ⟨rows, known⟩ := withUser_eq shownHeld shortHeld
  generalize withUser held = r at rows known
  have checked : User.desk.check (r.rules.rules User.desk.kind.schema).1 true (User.newcomer text)
      r.store = .error (.taken "Sign-in ID" text) := by
    rw [show User.desk.kind.schema = User.schema from rfl, known, User.check_newcomer shown short,
      clash_of_holder rows decode_firstUser clash]
  refine (congrArg Prod.snd (User.doCreate_newcomer text r)).trans ?_
  dsimp only
  rw [Desk.commit]
  simp only [Desk.rules, checked]
  rfl

/-- Once a user has one of two texts of a number, a user with the other one is refused. -/
theorem refused_of_same {held text : String} (same : SameAmount held text)
    (shortHeld : held.toList.length ≤ 64) (short : text.toList.length ≤ 64) :
    (orderAt {} User.clock .user .create (enlisting text) User.registrar.caller (withUser held)).2 =
      .error (.taken "Sign-in ID" text) :=
  refused_of_clashes (not_blank_of_same same).1 (not_blank_of_same same).2 (clashes_of_same same)
    shortHeld short

theorem signinid_withUser {held found : String} (shown : Text.allBlank held = false)
    (short : held.toList.length ≤ 64) {row : SavedRow} (hrow : row ∈ (withUser held).store.rows)
    (there : extract row.content "signinid" = some (.text found)) : found = held := by
  rw [(withUser_eq shown short).1, List.mem_singleton] at hrow
  rw [hrow] at there
  have own : extract (User.kind.encode { User.newcomer held with id := some 1 }) "signinid" =
    some (.text held) := rfl
  exact Value.text.inj (Option.some_inj.1 (there.symm.trans own))

theorem not_holds_withUser {held text : String} (shown : Text.allBlank held = false)
    (short : held.toList.length ≤ 64) (other : held ≠ text) (params : Params) :
    ¬Section.user.Holds params (withUser held).store (· = text) := by
  rintro ⟨row, hrow, -, -, found, there, rfl⟩
  exact other (signinid_withUser shown short hrow there).symm

/-- A text that a request is refused for as taken is the one that the request's record has, and another
row has it or a text of the same number, so just this text if it is of no number. But of any two sign-in
names of one number the second is refused although no row has it. -/
theorem taken_text_held (reached : Reached limits r) :
    (∀ place supply order params caller label text, order ≠ .delete →
      (orderAt limits supply place order params caller r).2 = .error (.taken label text) →
      (∃ v, place.draft limits params caller r.store = .ok v ∧
        extract v place.column = some (.text text)) ∧
      place.Holds params r.store (fun held => held = text ∨ SameAmount held text) ∧
      (amount? (.text text) = none → place.Holds params r.store (· = text))) ∧
    ∀ held text, held ≠ text → SameAmount held text → held.toList.length ≤ 64 →
      text.toList.length ≤ 64 → ∃ r params caller, Reached {} r ∧
        (orderAt {} User.clock .user .create params caller r).2 =
          .error (.taken "Sign-in ID" text) ∧
        ¬Section.user.Holds params r.store (· = text) := by
  refine ⟨fun place supply order params caller label text changes refused => ?_,
    fun held text other same shortHeld short => ?_⟩
  · obtain ⟨own, row, hrow, type, key, held, there, which⟩ := holds_of_taken reached changes refused
    refine ⟨own, ⟨row, hrow, type, key, held, there, which⟩, fun plain => ?_⟩
    refine ⟨row, hrow, type, key, held, there, which.resolve_right ?_⟩
    rintro ⟨n, -, counts⟩
    cases plain.symm.trans counts
  · exact ⟨withUser held, enlisting text, User.registrar.caller, reached_withUser held,
      refused_of_same same shortHeld short,
      not_holds_withUser (not_blank_of_same same).1 shortHeld other _⟩

/-- A second user called "erin" is refused, and there is one. -/
theorem second_erin_refused :
    (orderAt {} User.clock .user .create (enlisting "erin") User.registrar.caller
      (withUser "erin")).2 = .error (.taken "Sign-in ID" "erin") ∧
    Section.user.Holds (enlisting "erin") (withUser "erin").store (· = "erin") := by
  have refused : (orderAt {} User.clock .user .create (enlisting "erin") User.registrar.caller
      (withUser "erin")).2 = .error (.taken "Sign-in ID" "erin") := by rfl
  exact ⟨refused, ((taken_text_held (reached_withUser "erin")).1 .user _ .create _ _ _ _
    Order.noConfusion refused).2.2 (by rfl)⟩

/-- The user "007" is refused as taken where the only user is "7". -/
theorem agent_refused_for_seven :
    Reached {} (withUser "7") ∧
    (orderAt {} User.clock .user .create (enlisting "007") User.registrar.caller
      (withUser "7")).2 = .error (.taken "Sign-in ID" "007") ∧
    ¬Section.user.Holds (enlisting "007") (withUser "7").store (· = "007") := by
  have same : SameAmount "7" "007" := ⟨_, rfl, by decide +kernel⟩
  exact ⟨reached_withUser "7", refused_of_same same (by decide) (by decide),
    not_holds_withUser (by decide) (by decide) (by decide) _⟩

end Web
end Registrar
