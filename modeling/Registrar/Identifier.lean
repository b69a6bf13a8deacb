import Registrar.Error
import Registrar.Json.Value
import Registrar.Text.Blank
import Registrar.Text.Pieces

/-!
Record identifiers, texts or numbers above zero, and how requests name them: one by itself, or several
between commas.
-/

namespace Registrar

inductive IdKind where
  | text
  | numeric
deriving DecidableEq, Repr

/-- A type of identifiers with their request form. -/
class Identifier (I : Type) where
  kind : IdKind
  /-- Reads a trimmed, non-blank request value. -/
  parse : String → Except Error I
  /-- Values that stand for no identifier yet. -/
  isUnset : I → Bool
  text : I → String
  /-- The identifier of a new record, made from a text that nothing else has or from the running
  number of the save. -/
  fresh : String → Nat → I
  toValue : I → Json.Value
  ofValue? : Json.Value → Option I

instance : Identifier String where
  kind := .text
  parse := .ok
  isUnset := Text.allBlank
  text := id
  fresh text _ := text
  toValue := .text
  ofValue? := Json.Value.text?

instance : Identifier Int where
  kind := .numeric
  parse raw :=
    match Number.readSigned Number.maxInt64 raw.toList with
    | .ok n => .ok n
    | .error fault => .error (.malformedIdentifier raw fault.message)
  isUnset n := n ≤ 0
  text := Number.intText
  fresh _ number := number
  toValue := .int
  ofValue?
    | .int n => if Number.fitsInt64 n then some n else none
    | _ => none

namespace Identifier

variable {I : Type} [Identifier I]

/-- The identifier a request names. Nothing, a blank text and a text with a leading minus name none,
and so does a value that counts as unset. -/
def resolve (raw : Option String) : Except Error (Option I) :=
  match raw with
  | none => .ok none
  | some raw =>
    let raw := Text.trim raw
    match raw.toList with
    | [] => .ok none
    | '-' :: _ => .ok none
    | _ =>
      match parse (I := I) raw with
      | .error e => .error e
      | .ok id => .ok (if isUnset id then none else some id)

/-- The non-blank tokens between commas, trimmed, each at its first place. -/
def split (raw : List String) : List String :=
  ((raw.flatMap (Text.split ',')).map Text.trim |>.filter fun token => token ≠ "").eraseDups

/-- The identifiers of the given tokens, up to the first that is malformed. -/
def parseTokens : List String → Except Error (List I)
  | [] => .ok []
  | token :: r =>
    match parse (I := I) token with
    | .error e => .error e
    | .ok id =>
      match parseTokens r with
      | .error e => .error e
      | .ok ids => .ok (id :: ids)

/-- The identifiers in a list of request values, each at its first place. -/
def parseAll [BEq I] (raw : List String) : Except Error (List I) :=
  match parseTokens (I := I) (split raw) with
  | .error e => .error e
  | .ok ids => .ok ids.eraseDups

end Identifier
end Registrar
