import Registrar.Proofs.Desk.Available
import Registrar.Proofs.Web.Orderly
import Registrar.Proofs.Web.Taken

/-!
What forms are told of a text beside what becomes of the change. Main statement: in every state the two agree
on each text that trimming does not change for the guard, and each other text, once a user has it, is called
free although the next user with it is refused.
-/

namespace Registrar

open Json Row

namespace Web

variable {limits : PageLimits} {r : Registry} {params : Params} {text : String}

/-- The request names a record of the section, stored or not, or none. -/
def Section.Resolves (params : Params) : Section → Prop
  | .user => ∃ own : Option Int, Desk.requestId params = .ok own
  | _ => ∃ own : Option String, Desk.requestId params = .ok own

/-- The two checks of a text in the unique column agree on the records of the section. -/
def Section.Agrees (limits : PageLimits) (text : String) (params : Params) (s : Store) :
    Section → Prop
  | .department => (departments limits).Agrees "code" text params s
  | .role => (roles limits).Agrees "code" text params s
  | .user => (users limits).Agrees "signinid" text params s

/-- Each row with a text in the unique column that clashes can be read and is the one that the request
names. -/
def Section.Free (limits : PageLimits) (params : Params) (s : Store) (text : String) :
    Section → Prop
  | .department => (departments limits).Free "code" params s text
  | .role => (roles limits).Free "code" params s text
  | .user => (users limits).Free "signinid" params s text

theorem Reached.departments_filled (reached : Reached limits r) :
    r.store.FilledAt Department.kind.entityType "code" :=
  Store.Shows.filledAt Department.code reached.departments_orderly.passes (by decide)
    (by decide) (fun _ => rfl) fun _ => rfl

theorem Reached.roles_filled (reached : Reached limits r) :
    r.store.FilledAt Role.kind.entityType "code" :=
  Store.Shows.filledAt Role.code reached.roles_orderly.passes (by decide +kernel) (by decide)
    (fun _ => rfl) fun _ => rfl

theorem Reached.users_filled (reached : Reached limits r) :
    r.store.FilledAt User.kind.entityType "signinid" :=
  Store.Shows.filledAt User.signinid reached.users_orderly.passes (by decide) (by decide)
    (fun _ => rfl) fun _ => rfl

theorem agrees_iff {place : Section} (reached : Reached limits r)
    (asks : params.AsksFor place.column text) (resolved : place.Resolves params) :
    (place.Agrees limits text params r.store ↔
      (place.Free limits params r.store (Text.trim text) ↔
        place.Free limits params r.store text)) ∧
    (SameTrimmed text → place.Agrees limits text params r.store) := by
  cases place with
  | department =>
    obtain ⟨own, named⟩ := resolved
    have unique : ∃ f ∈ Department.schema.declared, f.isUnique := by decide
    exact Desk.agrees_iff (d := departments limits) asks named reached.departments_filled
      departments_column unique ⟨{ code := text, id := own }, rfl, rfl⟩
  | role =>
    obtain ⟨own, named⟩ := resolved
    have unique : ∃ f ∈ Role.schema.declared, f.isUnique := by decide
    exact Desk.agrees_iff (d := roles limits) asks named reached.roles_filled roles_column
      unique ⟨{ code := text, id := own }, rfl, rfl⟩
  | user =>
    obtain ⟨own, named⟩ := resolved
    have unique : ∃ f ∈ User.schema.declared, f.isUnique := by decide
    exact Desk.agrees_iff (d := users limits) asks named reached.users_filled users_column
      unique ⟨{ signinid := text, id := own }, rfl, rfl⟩

def wondering (signinid : String) : Params :=
  ⟨.read, [("element", "signinid"), ("signinid", signinid)]⟩

theorem wondering_asksFor (signinid : String) :
    (wondering signinid).AsksFor "signinid" signinid where
  element := by rfl
  alone := ⟨rfl, rfl⟩
  given := rfl

theorem free_of_other {held : String} (shown : Text.allBlank held = false)
    (short : held.toList.length ≤ 64) (apart : ¬Clashes held (Text.trim text)) :
    (users {}).checkUnique (wondering text) (withUser held).store = .ok true := by
  have free : (users {}).Free "signinid" (wondering text) (withUser held).store
      (Text.trim text) := by
    intro row hrow _ found there clash
    rw [signinid_withUser shown short hrow there] at clash
    exact absurd clash apart
  have unnamed : Desk.requestId (wondering text) = .ok (none : Option Int) := rfl
  exact (Desk.checkUnique_eq_true_iff (d := users {}) (wondering_asksFor text) unnamed
    (reached_withUser held).users_filled).2 free

/-- A sign-in name that a user has is called free, and the next user with it is refused, if trimming makes
another text of it. -/
theorem refused_though_free (other : ¬SameTrimmed text) (short : text.toList.length ≤ 64) :
    (users {}).checkUnique (wondering text) (withUser text).store = .ok true ∧
    (orderAt {} User.clock .user .create (enlisting text) User.registrar.caller
      (withUser text)).2 = .error (.taken "Sign-in ID" text) ∧
    ¬Section.user.Agrees {} text (wondering text) (withUser text).store := by
  have shown : Text.allBlank text = false := Bool.eq_false_iff.2 fun blank => other (.inr (.inl blank))
  have plain : number? (.text text) = none :=
    Classical.not_not.1 fun number => other (.inr (.inr number))
  have own : Clashes text text := (clashes_of_plain plain).2 rfl
  have free : (users {}).checkUnique (wondering text) (withUser text).store = .ok true := by
    refine free_of_other shown short fun clash => other (.inl ?_)
    exact ((clashes_of_plain ((number?_trim text).trans plain)).1 clash).symm
  refine ⟨free, refused_of_clashes shown shown own short short, fun agrees => ?_⟩
  have cleared := (agrees true (User.newcomer text) (.new rfl rfl)).1 free
  have passed := forM_eq_ok_iff.1 cleared User.signinField
    (List.mem_filter.2 ⟨by decide +kernel, by decide⟩)
  cases passed.symm.trans
    (clash_of_holder (withUser_eq shown short).1 decode_firstUser own)

/-- At any time and for each section, what a form is told of a text in the unique column is what the guard
makes of a record with it just if the text is as free as it is trimmed, so always if it has no blanks at its
ends, is blank or is a number. Of any other text that is the sign-in name of a user, a form is told that it
is free, and the next user with it is refused. -/
theorem checks_agree_iff_free {place : Section} (reached : Reached limits r)
    (asks : params.AsksFor place.column text) (resolved : place.Resolves params) :
    (place.Agrees limits text params r.store ↔
      (place.Free limits params r.store (Text.trim text) ↔
        place.Free limits params r.store text)) ∧
    (SameTrimmed text → place.Agrees limits text params r.store) ∧
    (¬SameTrimmed text → text.toList.length ≤ 64 →
      Reached {} (withUser text) ∧ (wondering text).AsksFor "signinid" text ∧
      (users {}).checkUnique (wondering text) (withUser text).store = .ok true ∧
      (orderAt {} User.clock .user .create (enlisting text) User.registrar.caller
        (withUser text)).2 = .error (.taken "Sign-in ID" text) ∧
      ¬Section.user.Agrees {} text (wondering text) (withUser text).store) := by
  obtain ⟨whether, always⟩ := agrees_iff reached asks resolved
  exact ⟨whether, always, fun other short => ⟨reached_withUser text, wondering_asksFor text,
    refused_though_free other short⟩⟩

/-- Where there is a user "erin", both checks say so. -/
theorem erin_known_to_both :
    Section.user.Agrees {} "erin" (wondering "erin") (withUser "erin").store ∧
    (users {}).checkUnique (wondering "erin") (withUser "erin").store = .ok false ∧
    ¬(users {}).Clears true (User.newcomer "erin") (withUser "erin").store := by
  have resolved : Section.user.Resolves (wondering "erin") := ⟨none, rfl⟩
  have agrees : Section.user.Agrees {} "erin" (wondering "erin") (withUser "erin").store :=
    (checks_agree_iff_free (reached_withUser "erin") (wondering_asksFor "erin") resolved).2.1
      (.inl (by decide +kernel))
  have told : (users {}).checkUnique (wondering "erin") (withUser "erin").store = .ok false := by rfl
  refine ⟨agrees, told, fun cleared => ?_⟩
  cases told.symm.trans ((agrees true (User.newcomer "erin") (.new rfl rfl)).2 cleared)

/-- Where there is a user " bob", a form is told that the name is free, and the next " bob" is refused. -/
theorem blank_bob_called_free :
    Reached {} (withUser " bob") ∧ (wondering " bob").AsksFor "signinid" " bob" ∧
    Section.user.Resolves (wondering " bob") ∧
    (users {}).checkUnique (wondering " bob") (withUser " bob").store = .ok true ∧
    (orderAt {} User.clock .user .create (enlisting " bob") User.registrar.caller
      (withUser " bob")).2 = .error (.taken "Sign-in ID" " bob") ∧
    ¬Section.user.Agrees {} " bob" (wondering " bob") (withUser " bob").store := by
  have other : ¬SameTrimmed " bob" := by
    rintro (whole | blank | number)
    · exact absurd whole (by decide +kernel)
    · exact absurd blank (by decide)
    · exact number (by decide +kernel)
  exact ⟨reached_withUser " bob", wondering_asksFor " bob", ⟨none, rfl⟩,
    refused_though_free other (by decide)⟩

end Web
end Registrar
