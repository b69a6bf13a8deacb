import Registrar.Caller
import Registrar.Number.Digits
import Registrar.Params
import Registrar.Text.Blank
import Registrar.Web.Form

/-!
Requests of the web, and what they say about parameters and caller. Parameters are those of the
address and, where records are changed, those of a submitted form behind them. Headers name the
caller; one that is blank or has more than visible ASCII characters counts as missing. Main
statement: a caller who names prefixes is restricted.
-/

namespace Registrar.Web

structure Request where
  method : String := "GET"
  /-- A path, and behind `?` the parameters; a scheme and a host may stand in front. -/
  target : String
  headers : List (String × String) := []
  body : String := ""

namespace Request

def isSchemeChar (c : Char) : Bool := c.isAlphanum || c == '+' || c == '-' || c == '.'

/-- The address below the host, which has a path if there is a scheme. A host alone has none. -/
def belowHost : List Char → List Char
  | '/' :: r => '/' :: r
  | ['*'] => ['*']
  | s =>
    match s.dropWhile isSchemeChar with
    | ':' :: '/' :: '/' :: r =>
      match r.dropWhile fun c => c != '/' && c != '?' with
      | '/' :: r => '/' :: r
      | r => '/' :: r
    | _ => []

/-- The address below the host, without what follows a `#`. -/
def address (q : Request) : List Char :=
  match Text.cut? '#' q.target.toList with
  | some (address, _) => belowHost address
  | none => belowHost q.target.toList

def path (q : Request) : String :=
  match Text.cut? '?' q.address with
  | some (path, _) => String.ofList path
  | none => String.ofList q.address

def query (q : Request) : List (String × String) :=
  match Text.cut? '?' q.address with
  | some (_, query) => Form.pairs query
  | none => []

def isVisible (c : Char) : Bool := c == '\t' || (' ' ≤ c && c ≤ '~')

/-- The first header of a name, if it holds visible characters only. -/
def header? (q : Request) (name : String) : Option String :=
  match q.headers.find? fun h => Text.lowerAscii h.1 == name with
  | some (_, value) => if value.toList.all isVisible then some value else none
  | none => none

/-- A header, trimmed, unless it is blank. -/
def filledHeader? (q : Request) (name : String) : Option String :=
  match q.header? name with
  | some value =>
    let value := Text.trim value
    if value = "" then none else some value
  | none => none

def isRead (q : Request) : Bool := q.method == "GET" || q.method == "HEAD"

/-- The body is a submitted form. -/
def hasForm (q : Request) : Bool :=
  match q.header? "content-type" with
  | some type => "application/x-www-form-urlencoded".toList.isPrefixOf type.toList
  | none => false

def params (q : Request) : Params where
  verb := if q.isRead then .read else .mutation
  pairs := q.query ++ if !q.isRead && q.hasForm then Form.pairs q.body.toList else []

/-- The prefixes between commas, trimmed, without blank ones. -/
def prefixesOf (raw : String) : List String :=
  ((Text.split ',' raw).map Text.trim).filter fun p => p ≠ ""

/-- The level in a header, if that is there; a malformed one is an error. -/
def level? (q : Request) : Option (Option Int) :=
  match q.filledHeader? "x-acl-type" with
  | none => some none
  | some raw => (Number.readSigned Number.maxInt32 raw.toList).toOption.map some

/-- Who sends the request; nothing if the level is malformed. -/
def caller? (q : Request) : Option Caller :=
  q.level?.map fun level => {
    userId := (q.filledHeader? "x-user-id").getD Caller.anonymous.userId
    level
    scopes := ((q.filledHeader? "x-acl-code-prefixes").map prefixesOf).getD []
    session := q.filledHeader? "x-session-id" }

end Request
end Registrar.Web
