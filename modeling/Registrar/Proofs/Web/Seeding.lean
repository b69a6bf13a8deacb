import Registrar.Proofs.Web.Reserved

/-!
Loading the first organisation at any time. A load looks for departments alone and saves past the guard of
unique columns. Main statement: a load leaves codes of roles and names of users unique just if there is a
department, so that nothing is loaded, or none of the codes and names is taken; and the next load leaves
everything as it is.
-/

namespace Registrar

open Json

namespace Store

section Records

variable {I E : Type} [Identifier I] {k : Kind I E} {supply : Supply} {author : Author} {e : E}
variable {s : Store}

theorem textIds_save : (s.save k supply author e).1.textIds =
    if k.isNew e ∧ Identifier.kind I = .text then s.textIds + 1 else s.textIds := by
  have counted : (s.identify k supply e).1.textIds =
      if k.isNew e ∧ Identifier.kind I = .text then s.textIds + 1 else s.textIds := by
    unfold identify
    dsimp only
    split
    · next new => simp [new]
    · next known => simp [known]
  rw [← counted]
  unfold save
  dsimp only
  split <;> split <;> rfl

def HasDepartment (s : Store) : Prop :=
  ∃ row ∈ s.rows, row.entityType = Department.kind.entityType

theorem HasDepartment.save [LawfulIdentifier I] (h : s.HasDepartment) (law : k.Lawful)
    (supply : Supply) (author : Author) (e : E) : (s.save k supply author e).1.HasDepartment := by
  obtain ⟨unit, hunit, type⟩ := h
  have held : (s.row? Department.kind.entityType unit.key).isSome :=
    List.find?_isSome.2 ⟨unit, hunit, SavedRow.isAt_iff.2 ⟨type, rfl⟩⟩
  have stays : ∃ row, (s.save k supply author e).1.row? Department.kind.entityType unit.key =
      some row := by
    rcases row?_save_cases law supply author e s Department.kind.entityType unit.key with
      ⟨same, _⟩ | ⟨_, _, _, _, _, _, there⟩
    · rw [same]
      exact Option.isSome_iff_exists.1 held
    · exact ⟨_, there⟩
  obtain ⟨row, there⟩ := stays
  exact ⟨row, mem_of_row? there, (SavedRow.isAt_iff.1 (isAt_of_row? there)).1⟩

end Records

/-- No row of the type has one of the texts in the column. -/
def Lacks (entityType column : String) (texts : List String) (s : Store) : Prop :=
  ∀ row ∈ s.rows, row.entityType = entityType → ∀ text ∈ texts,
    Row.extract row.content column ≠ some (.text text)

def column (entityType column : String) (rows : List SavedRow) : List (Option Value) :=
  (rows.filter fun row => row.entityType == entityType).map fun row =>
    Row.extract row.content column

variable {s t : Store} {added : List SavedRow} {entityType name : String} {texts : List String}

theorem column_append (front rest : List SavedRow) :
    column entityType name (front ++ rest) =
      column entityType name front ++ column entityType name rest := by
  rw [column, List.filter_append, List.map_append]
  rfl

theorem column_of_type (h : ∀ row ∈ added, row.entityType = entityType) :
    column entityType name added = added.map fun row => Row.extract row.content name := by
  rw [column, List.filter_eq_self.2 fun row hrow => beq_iff_eq.2 (h row hrow)]

theorem column_of_other {other : String} (h : ∀ row ∈ added, row.entityType = other)
    (apart : other ≠ entityType) : column entityType name added = [] := by
  have filtered : added.filter (fun row => row.entityType == entityType) = [] :=
    List.filter_eq_nil_iff.2 fun row hrow => by simp [h row hrow, apart]
  rw [column, filtered]
  rfl

theorem uniqueFor_iff : s.UniqueFor (fun _ => True) entityType name ↔
    (column entityType name s.rows).Pairwise fun a b => ∀ v, a = some v → b ≠ some v := by
  rw [UniqueFor, column, List.pairwise_map]
  simp only [forall_const]

theorem lacks_iff : s.Lacks entityType name texts ↔
    ∀ shown ∈ column entityType name s.rows, ∀ text ∈ texts, shown ≠ some (.text text) := by
  simp only [Lacks, column, List.forall_mem_map, List.mem_filter, beq_iff_eq, and_imp]

theorem pairwise_texts_iff :
    (texts.map fun text => some (Value.text text)).Pairwise (fun a b => ∀ v, a = some v → b ≠ some v) ↔
      texts.Nodup := by
  rw [List.pairwise_map]
  refine ⟨fun h => h.imp fun {a b} apart same => ?_, fun h => h.imp fun {a b} apart v ha hb => ?_⟩
  · exact apart (.text a) rfl (by rw [same])
  · exact apart (Value.text.inj (Option.some.inj (ha.trans hb.symm)))

theorem column_of_texts (entityType name : String) (added : List SavedRow) (texts : List String)
    (h : (column entityType name added).map (fun v => v.bind Value.text?) = texts.map some) :
    column entityType name added = texts.map fun text => some (.text text) := by
  generalize column entityType name added = shown at h
  induction shown generalizing texts with
  | nil =>
    cases texts with
    | nil => rfl
    | cons text rest => cases h
  | cons v rest ih =>
    cases texts with
    | nil => cases h
    | cons text texts =>
      obtain ⟨first, later⟩ := List.cons.inj h
      have same : v = some (.text text) := by
        obtain ⟨w, rfl, read⟩ := Option.bind_eq_some_iff.1 first
        cases w with
        | text own =>
          cases read
          rfl
        | _ => cases read
      rw [same, ih _ later]
      rfl

theorem uniqueFor_iff_nodup
    (shown : column entityType name s.rows = texts.map fun text => some (.text text)) :
    s.UniqueFor (fun _ => True) entityType name ↔ texts.Nodup := by
  rw [uniqueFor_iff, shown, pairwise_texts_iff]

/-- Texts that are all different are added to unique ones. They stay unique just if none was there. -/
theorem uniqueFor_added_iff (before : s.UniqueFor (fun _ => True) entityType name)
    (distinct : texts.Nodup)
    (after : column entityType name t.rows =
      column entityType name s.rows ++ texts.map fun text => some (.text text)) :
    t.UniqueFor (fun _ => True) entityType name ↔ s.Lacks entityType name texts := by
  rw [uniqueFor_iff] at before ⊢
  rw [after, List.pairwise_append, lacks_iff]
  refine ⟨fun ⟨_, _, cross⟩ shown hshown text htext same => ?_,
    fun lacks => ⟨before, pairwise_texts_iff.2 distinct, fun shown hshown b hb v hv same => ?_⟩⟩
  · exact cross shown hshown _ (List.mem_map.2 ⟨text, htext, rfl⟩) _ same rfl
  · obtain ⟨text, htext, rfl⟩ := List.mem_map.1 hb
    exact lacks shown hshown text htext (hv.trans same.symm)

end Store

/-- The texts of the supply are all different, and no role has one that is still to be given out. -/
structure Supply.IsFreshFor (supply : Supply) (s : Store) : Prop where
  distinct : Function.Injective supply.textId
  texts : ∀ n, s.textIds < n → s.row? Role.kind.entityType (supply.textId n) = none

theorem Supply.isFreshFor_of_keys {supply : Supply} {s : Store}
    (distinct : Function.Injective supply.textId)
    (given : ∀ row ∈ s.rows, row.entityType = Role.kind.entityType →
      ∃ m ∈ List.range (s.textIds + 1), row.key = supply.textId m) : supply.IsFreshFor s := by
  refine ⟨distinct, fun n later => Store.row?_eq_none_iff.2 fun row hrow => ?_⟩
  refine Bool.eq_false_iff.2 fun there => ?_
  obtain ⟨type, key⟩ := SavedRow.isAt_iff.1 there
  obtain ⟨m, hm, own⟩ := given row hrow type
  have same : m = n := distinct (own.symm.trans key)
  have before := List.mem_range.1 hm
  omega

namespace Seed

variable {supply : Supply} {s : Store}

section Records

variable {I E : Type} [Identifier I] {k : Kind I E}

def stamped (k : Kind I E) (supply : Supply) (e : E) : E := k.stamp author.actor supply.now e

theorem saveAll_adds (supply : Supply) (records : List E) {P : List E → Store → Prop}
    (step : ∀ e rest s, P (e :: rest) s →
      s.row? k.entityType (k.key (s.named k supply (stamped k supply e))) = none ∧
      k.version (s.named k supply (stamped k supply e)) = 0 ∧
      P rest (s.save k supply author (stamped k supply e)).1)
    (start : P records s) :
    (saveAll k supply records s).2 = .ok () ∧ P [] (saveAll k supply records s).1 ∧
      ∃ added, (saveAll k supply records s).1.rows = s.rows ++ added ∧
        (∀ row ∈ added, row.entityType = k.entityType) ∧
        ∀ name, k.Keeps name → added.map (fun row => Row.extract row.content name) =
          records.map fun e => Row.extract (k.encode (stamped k supply e)) name := by
  induction records generalizing s with
  | nil => exact ⟨rfl, start, [], (List.append_nil _).symm, by simp, fun _ _ => rfl⟩
  | cons e rest ih =>
    obtain ⟨vacant, first, next⟩ := step e rest s start
    obtain ⟨answer, rows, _⟩ := Store.save_vacant supply author vacant first
    have saves : s.save k supply author (stamped k supply e) =
        ((s.save k supply author (stamped k supply e)).1,
          .ok (s.named k supply (stamped k supply e))) := Prod.ext rfl answer
    obtain ⟨done, last, added, all, types, shown⟩ := ih next
    have unfolded : saveAll k supply (e :: rest) s =
        saveAll k supply rest (s.save k supply author (stamped k supply e)).1 := by
      rw [saveAll, show s.save k supply author (k.stamp author.actor supply.now e) = _ from saves]
    rw [unfolded]
    refine ⟨done, last, _ :: added, by rw [all, rows, List.append_assoc]; rfl, ?_,
      fun name keeps => ?_⟩
    · exact List.forall_mem_cons.2 ⟨rfl, types⟩
    · rw [List.map_cons, List.map_cons, shown name keeps]
      exact congrArg (· :: _) (Store.extract_named keeps supply _)

end Records

/-- No role and no user has an identifier that is still to be given out. -/
structure Open (supply : Supply) (s : Store) : Prop where
  fresh : supply.IsFreshFor s
  numbers : s.UserKeys

/-- The departments have keys of their own, which no row has. -/
structure Vacant (records : List Department) (s : Store) : Prop where
  known : ∀ d ∈ records, Department.kind.isNew d = false ∧ d.version = 0
  apart : records.Pairwise fun a b => Department.kind.key a ≠ Department.kind.key b
  free : ∀ d ∈ records, s.row? Department.kind.entityType (Department.kind.key d) = none

theorem Open.save_department (h : Open supply s) {d : Department}
    (known : Department.kind.isNew d = false) (author : Author) :
    Open supply (s.save Department.kind supply author d).1 := by
  refine ⟨⟨h.fresh.distinct, fun n later => ?_⟩,
    h.numbers.save_other Department.entityType_ne_user supply author d⟩
  rw [Store.textIds_save, known] at later
  rw [Store.row?_save_other Department.kind_lawful Department.entityType_ne_role]
  exact h.fresh.texts n (by simpa using later)

theorem Open.save_role (h : Open supply s) {role : Role} (new : Role.kind.isNew role)
    (author : Author) : Open supply (s.save Role.kind supply author role).1 := by
  refine ⟨⟨h.fresh.distinct, fun n later => ?_⟩,
    h.numbers.save_other Role.entityType_ne_user supply author role⟩
  have text : Identifier.kind String = .text := rfl
  rw [Store.textIds_save, if_pos ⟨new, text⟩] at later
  have own : Role.kind.key (s.named Role.kind supply role) = supply.textId (s.textIds + 1) :=
    Store.key_named_of_isNew Role.kind_lawful new
  rcases Store.row?_save_cases Role.kind_lawful supply author role s Role.kind.entityType
      (supply.textId n) with ⟨same, _⟩ | ⟨x, saved, _, key, _⟩
  · rw [same]
    exact h.fresh.texts n (by omega)
  · have named := Store.key_saved_named Role.kind_lawful (Prod.ext rfl saved)
    have taken := h.fresh.distinct (key.symm.trans (named.trans own))
    omega

theorem Vacant.save {d : Department} {rest : List Department} (h : Vacant (d :: rest) s)
    (author : Author) :
    Vacant rest (s.save Department.kind supply author (stamped Department.kind supply d)).1 where
  known e he := h.known e (List.mem_cons_of_mem _ he)
  apart := (List.pairwise_cons.1 h.apart).2
  free e he := by
    have known : Department.kind.isNew (stamped Department.kind supply d) = false :=
      (h.known d List.mem_cons_self).1
    rcases Store.row?_save_cases Department.kind_lawful supply author
        (stamped Department.kind supply d) s Department.kind.entityType (Department.kind.key e) with
      ⟨same, _⟩ | ⟨x, saved, _, key, _⟩
    · rw [same]
      exact h.free e (List.mem_cons_of_mem _ he)
    · have own := (Store.key_saved Department.kind_lawful (Prod.ext rfl saved)).2 known
      exact absurd (own.symm.trans key) ((List.pairwise_cons.1 h.apart).1 e he)

theorem extract_code (role : Role) :
    Row.extract (Role.kind.encode (stamped Role.kind supply role)) "code" = some (.text role.code) :=
  rfl

theorem extract_signinid (u : User) :
    Row.extract (User.kind.encode (stamped User.kind supply u)) "signinid" =
      some (.text u.signinid) :=
  rfl

theorem version_named_of_isNew {I E : Type} [Identifier I] {k : Kind I E} (law : k.Lawful) {e : E}
    (new : k.isNew e) : k.version (s.named k supply e) = 0 := by
  rw [Store.named_of_isNew k new, law.version_setVersion]

theorem departments_added (supply : Supply) (empty : ¬s.HasDepartment) :
    (saveAll Department.kind supply departments s).2 = .ok () ∧
      ∃ added, (saveAll Department.kind supply departments s).1.rows = s.rows ++ added ∧
        added ≠ [] ∧ ∀ row ∈ added, row.entityType = Department.kind.entityType := by
  have keeps : Department.kind.Keeps "code" :=
    Department.kind_lawful.keeps "code" [] (by decide) (by decide) (by decide)
  have vacant : Vacant departments s := by
    refine ⟨by decide, by decide, fun d _ => Store.row?_eq_none_iff.2 fun row hrow => ?_⟩
    exact Bool.eq_false_iff.2 fun there => empty ⟨row, hrow, (SavedRow.isAt_iff.1 there).1⟩
  obtain ⟨answer, _, added, rows, types, shown⟩ := saveAll_adds supply departments
    (P := Vacant) (fun d rest s vacant => by
      obtain ⟨known, first⟩ := vacant.known d List.mem_cons_self
      rw [s.named_of_not_isNew Department.kind (e := stamped Department.kind supply d) known]
      exact ⟨vacant.free d List.mem_cons_self, first, vacant.save author⟩)
    vacant
  refine ⟨answer, added, rows, ?_, types⟩
  rintro rfl
  cases shown "code" keeps

theorem open_departments (h : Open supply s) :
    Open supply (saveAll Department.kind supply departments s).1 := by
  have known : ∀ d ∈ departments, Department.kind.isNew d = false := by decide
  exact Web.saveAll_induction (P := Open supply) (fun d hd s open_ =>
    open_.save_department (d := stamped Department.kind supply d) (known d hd) author) h

theorem roles_added (h : Open supply s) :
    (saveAll Role.kind supply roles s).2 = .ok () ∧
      (saveAll Role.kind supply roles s).1.UserKeys ∧
      ∃ added, (saveAll Role.kind supply roles s).1.rows = s.rows ++ added ∧
        (∀ row ∈ added, row.entityType = Role.kind.entityType) ∧
        added.map (fun row => Row.extract row.content "code") =
          (roles.map Role.code).map fun text => some (.text text) := by
  obtain ⟨answer, ⟨_, open_⟩, added, rows, types, shown⟩ := saveAll_adds supply roles
    (k := Role.kind)
    (P := fun records s => (∀ role ∈ records, Role.kind.isNew role) ∧ Open supply s)
    (fun role rest s ⟨news, open_⟩ => by
      have new : Role.kind.isNew (stamped Role.kind supply role) := news role List.mem_cons_self
      refine ⟨?_, version_named_of_isNew Role.kind_lawful new,
        fun e he => news e (List.mem_cons_of_mem _ he), open_.save_role new author⟩
      rw [Store.key_named_of_isNew Role.kind_lawful new]
      exact open_.fresh.texts _ (Nat.lt_succ_self _))
    ⟨by decide, h⟩
  refine ⟨answer, open_.numbers, added, rows, types, ?_⟩
  rw [shown "code" Role.keeps_code, List.map_map]
  exact List.map_congr_left fun role _ => extract_code role

theorem users_added (supply : Supply) (h : s.UserKeys) :
    (saveAll User.kind supply users s).2 = .ok () ∧
      ∃ added, (saveAll User.kind supply users s).1.rows = s.rows ++ added ∧
        (∀ row ∈ added, row.entityType = User.kind.entityType) ∧
        added.map (fun row => Row.extract row.content "signinid") =
          (users.map User.signinid).map fun text => some (.text text) := by
  have keeps : User.kind.Keeps "signinid" :=
    User.kind_lawful.keeps "signinid" [] (by decide) (by decide) (by decide)
  obtain ⟨answer, _, added, rows, types, shown⟩ := saveAll_adds supply users
    (k := User.kind)
    (P := fun records s => (∀ u ∈ records, u.id = none) ∧ s.UserKeys)
    (fun u rest s ⟨news, keys⟩ => by
      have nameless : (stamped User.kind supply u).id = none := news u List.mem_cons_self
      have new : User.kind.isNew (stamped User.kind supply u) :=
        congrArg (Option.all (Identifier.isUnset (I := Int))) nameless
      refine ⟨?_, version_named_of_isNew User.kind_lawful new,
        fun e he => news e (List.mem_cons_of_mem _ he), keys.save_user (fun n hn => ?_) supply author⟩
      · rw [Store.key_named_of_isNew User.kind_lawful new]
        exact keys.vacant
      · rw [nameless] at hn
        cases hn)
    ⟨by decide, h⟩
  refine ⟨answer, added, rows, types, ?_⟩
  rw [shown "signinid" keeps, List.map_map]
  exact List.map_congr_left fun u _ => extract_signinid u

theorem rows_found (h : Open supply s) (empty : ¬s.HasDepartment) :
    Store.column Role.kind.entityType "code" (found supply s).1.rows =
      Store.column Role.kind.entityType "code" s.rows ++
        (roles.map Role.code).map (fun text => some (.text text)) ∧
    Store.column User.kind.entityType "signinid" (found supply s).1.rows =
      Store.column User.kind.entityType "signinid" s.rows ++
        (users.map User.signinid).map fun text => some (.text text) := by
  obtain ⟨answer₁, units, rows₁, _, types₁⟩ := departments_added supply empty
  obtain ⟨answer₂, keys, ranks, rows₂, types₂, codes⟩ := roles_added (open_departments h)
  obtain ⟨_, people, rows₃, types₃, names⟩ := users_added supply keys
  have stages : (found supply s).1 = (saveAll User.kind supply users (saveAll Role.kind supply roles
      (saveAll Department.kind supply departments s).1).1).1 := by
    rw [found, show saveAll Department.kind supply departments s = (_, .ok ()) from
      Prod.ext rfl answer₁]
    dsimp only
    rw [show saveAll Role.kind supply roles (saveAll Department.kind supply departments s).1 =
      (_, .ok ()) from Prod.ext rfl answer₂]
  rw [stages, rows₃, rows₂, rows₁]
  simp only [Store.column_append]
  rw [Store.column_of_other types₁ Department.entityType_ne_role,
    Store.column_of_other types₁ Department.entityType_ne_user, Store.column_of_type types₂,
    Store.column_of_other types₂ Role.entityType_ne_user,
    Store.column_of_other types₃ User.entityType_ne_role, Store.column_of_type types₃, codes, names]
  simp only [List.append_nil, and_self]

theorem load_of_department (h : s.HasDepartment) :
    (load supply s).1 = s := by
  obtain ⟨row, hrow, type⟩ := h
  unfold load
  split
  · rfl
  · next asked =>
    have empty := Store.length_query asked
    have there : row.content ∈ (s.contents Department.kind.entityType).filter
        ({} : Filter).accepts := by
      refine List.mem_filter.2 ⟨List.mem_map.2 ⟨row, List.mem_filter.2 ⟨hrow, ?_⟩, rfl⟩, rfl⟩
      exact beq_iff_eq.2 type
    rw [List.eq_nil_of_length_eq_zero empty.symm] at there
    cases there
  · rfl

theorem load_of_no_department (empty : ¬s.HasDepartment) :
    load supply s = found supply s := by
  have nothing : (s.contents Department.kind.entityType).filter ({} : Filter).accepts = [] := by
    refine List.eq_nil_iff_forall_not_mem.2 fun v hv => ?_
    obtain ⟨row, hrow, _⟩ := List.mem_map.1 (List.mem_filter.1 hv).1
    obtain ⟨there, type⟩ := List.mem_filter.1 hrow
    exact empty ⟨row, there, beq_iff_eq.1 type⟩
  have asked : s.query Department.kind {} [] = .ok [] := by
    rw [Store.query_unsorted, nothing]
    rfl
  rw [load, asked]

theorem hasDepartment_found (empty : ¬s.HasDepartment) : (found supply s).1.HasDepartment := by
  obtain ⟨answer, added, rows, filled, types⟩ := departments_added supply empty
  obtain ⟨unit, others, rfl⟩ := List.exists_cons_of_ne_nil filled
  have first : (saveAll Department.kind supply departments s).1.HasDepartment := by
    refine ⟨unit, ?_, types unit List.mem_cons_self⟩
    rw [rows]
    exact List.mem_append_right _ List.mem_cons_self
  have second : (saveAll Role.kind supply roles
      (saveAll Department.kind supply departments s).1).1.HasDepartment :=
    Web.saveAll_induction (P := Store.HasDepartment)
      (fun _ _ _ h => h.save Role.kind_lawful supply author _) first
  unfold found
  rw [show saveAll Department.kind supply departments s = (_, .ok ()) from Prod.ext rfl answer]
  dsimp only
  split
  · next t fault failed =>
    rw [failed] at second
    exact second
  · next t saved =>
    rw [saved] at second
    exact Web.saveAll_induction (P := Store.HasDepartment)
      (fun _ _ _ h => h.save User.kind_lawful supply author _) second

/-- A load leaves a store that the next load leaves as it is. -/
theorem load_again (next : Supply) :
    (load next (load supply s).1).1 = (load supply s).1 := by
  by_cases founded : s.HasDepartment
  · rw [load_of_department founded, load_of_department founded]
  · rw [load_of_no_department founded, load_of_department (hasDepartment_found founded)]

end Seed

namespace Web

variable {limits : PageLimits} {r : Registry} {supply : Supply}

/-- What happens to the registry of the service from outside. -/
inductive Event
  | post (p : Posted)
  | load (supply : Supply) (sound : supply.IsSound)

def Event.apply (limits : PageLimits) : Event → Registry → Registry
  | .post p, r => p.apply limits r
  | .load supply _, r => { r with store := (Seed.load supply r.store).1 }

/-- A registry that began empty, after posts and loads in any order. -/
def Grown (limits : PageLimits) (r : Registry) : Prop :=
  ∃ (tokens : TokenGuard) (events : List Event),
    r = events.foldl (fun r event => event.apply limits r) { tokens }

theorem Grown.post (h : Grown limits r) (p : Posted) : Grown limits (p.apply limits r) := by
  obtain ⟨tokens, events, rfl⟩ := h
  exact ⟨tokens, events ++ [.post p], by rw [List.foldl_append]; rfl⟩

theorem Grown.kept (h : Grown limits r) : r.store.Kept := by
  obtain ⟨tokens, events, rfl⟩ := h
  have step (event : Event) (r : Registry) (kept : r.store.Kept) :
      (event.apply limits r).store.Kept := by
    cases event with
    | post p => exact kept_apply p kept
    | load supply sound => exact kept_load sound kept
  have start : ({ tokens } : Registry).store.Kept := kept_of_no_rows rfl
  generalize ({ tokens } : Registry) = r at start
  induction events generalizing r with
  | nil => exact start
  | cons event rest ih => exact ih _ (step event r start)

/-- No role has the code of one of the first roles, and no user the name of one of the first users. -/
def FreeForLoad (s : Store) : Prop :=
  s.Lacks Role.kind.entityType "code" (Seed.roles.map Role.code) ∧
    s.Lacks User.kind.entityType "signinid" (Seed.users.map User.signinid)

/-- No two roles have a code in common, and no two users a name. -/
def CodesUnique (s : Store) : Prop :=
  s.UniqueFor (fun _ => True) Role.kind.entityType "code" ∧
    s.UniqueFor (fun _ => True) User.kind.entityType "signinid"

/-- After posts and loads in any order, a load leaves codes of roles and names of users unique just if
there is a department already, so that it loads nothing, or none of the codes and names that it loads is
there. The next load leaves everything as it is. -/
theorem load_keeps_unique_iff (grown : Grown limits r) (fresh : supply.IsFreshFor r.store)
    (unique : CodesUnique r.store) (next : Supply) :
    (CodesUnique (Seed.load supply r.store).1 ↔
      r.store.HasDepartment ∨ FreeForLoad r.store) ∧
    (Seed.load next (Seed.load supply r.store).1).1 = (Seed.load supply r.store).1 := by
  refine ⟨?_, Seed.load_again next⟩
  by_cases founded : r.store.HasDepartment
  · rw [Seed.load_of_department founded]
    exact ⟨fun _ => .inl founded, fun _ => unique⟩
  · obtain ⟨codes, names⟩ := Seed.rows_found ⟨fresh, grown.kept.userKeys⟩ founded
    have distinct : (Seed.roles.map Role.code).Nodup ∧ (Seed.users.map User.signinid).Nodup := by
      decide
    rw [Seed.load_of_no_department founded, CodesUnique, Store.uniqueFor_added_iff unique.1 distinct.1 codes,
      Store.uniqueFor_added_iff unique.2 distinct.2 names]
    exact ⟨.inr, fun h => h.resolve_left founded⟩

theorem numbering_injective : Function.Injective numbering.textId := by
  intro m n same
  exact Number.natText_injective ((String.append_right_inj "t").1 same)

def guests : Posted := ordering .role .create [("code", "ROLE_GUEST"), ("name", "Guests")]

/-- The organisation is loaded beside a role with a code of its own. -/
theorem guests_stay_apart :
    Grown {} (guests.apply {} {}) ∧ numbering.IsFreshFor (guests.apply {} {}).store ∧
    CodesUnique (guests.apply {} {}).store ∧
    CodesUnique (Seed.load numbering (guests.apply {} {}).store).1 := by
  have grown : Grown {} (guests.apply {} {}) := ⟨{}, [.post guests], rfl⟩
  have fresh : numbering.IsFreshFor (guests.apply {} {}).store :=
    Supply.isFreshFor_of_keys numbering_injective (by decide +kernel)
  have codes := Store.column_of_texts Role.kind.entityType "code"
    (guests.apply {} {}).store.rows ["ROLE_GUEST"] (by decide +kernel)
  have names := Store.column_of_texts User.kind.entityType "signinid"
    (guests.apply {} {}).store.rows [] (by decide +kernel)
  have unique : CodesUnique (guests.apply {} {}).store :=
    ⟨(Store.uniqueFor_iff_nodup codes).2 (by decide), (Store.uniqueFor_iff_nodup names).2 .nil⟩
  have free : FreeForLoad (guests.apply {} {}).store := by
    refine ⟨?_, ?_⟩
    · rw [Store.lacks_iff, codes]
      simp [Seed.roles, Seed.role]
    · rw [Store.lacks_iff, names]
      simp
  exact ⟨grown, fresh, unique, (load_keeps_unique_iff grown fresh unique numbering).1.2 (.inr free)⟩

theorem grown_begin (settings : Settings) (sound : supply.IsSound) :
    Grown limits (begin settings supply).1 := by
  unfold begin
  dsimp only
  split
  · exact ⟨settings.tokenGuard, [.load supply sound], rfl⟩
  · exact ⟨settings.tokenGuard, [], rfl⟩

def disbanding : Posted := ordering .department .delete [("ids", "D10,D1010,D1020,D20")]

/-- After its departments are deleted, the organisation is loaded again with all its roles and users. -/
theorem disbanded_loads_again :
    Grown {} (disbanding.apply {} organisation) ∧
    numbering.IsFreshFor (disbanding.apply {} organisation).store ∧
    CodesUnique (disbanding.apply {} organisation).store ∧
    ¬CodesUnique (Seed.load numbering (disbanding.apply {} organisation).store).1 := by
  have fresh : numbering.IsFreshFor (disbanding.apply {} organisation).store :=
    Supply.isFreshFor_of_keys numbering_injective (by decide +kernel)
  have codes := Store.column_of_texts Role.kind.entityType "code"
    (disbanding.apply {} organisation).store.rows
    ["ROLE_ADMIN", "ROLE_ANONYMOUSLY", "ROLE_OPS"] (by decide +kernel)
  have names := Store.column_of_texts User.kind.entityType "signinid"
    (disbanding.apply {} organisation).store.rows
    ["admin", "erin", "sam"] (by decide +kernel)
  have doubled := Store.column_of_texts Role.kind.entityType "code"
    (Seed.load numbering (disbanding.apply {} organisation).store).1.rows
    ["ROLE_ADMIN", "ROLE_ANONYMOUSLY", "ROLE_OPS", "ROLE_ADMIN", "ROLE_ANONYMOUSLY",
      "ROLE_OPS"] (by decide +kernel)
  have unique : CodesUnique (disbanding.apply {} organisation).store :=
    ⟨(Store.uniqueFor_iff_nodup codes).2 (by decide), (Store.uniqueFor_iff_nodup names).2 (by decide)⟩
  have twice : ¬CodesUnique (Seed.load numbering (disbanding.apply {} organisation).store).1 :=
    fun unique => absurd ((Store.uniqueFor_iff_nodup doubled).1 unique.1) (by decide)
  exact ⟨(grown_begin _ numbering_isSound).post disbanding, fresh, unique, twice⟩

end Web
end Registrar
