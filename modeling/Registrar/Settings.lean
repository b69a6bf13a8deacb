import Registrar.Json.Value
import Registrar.Page
import Registrar.Text.Blank
import Registrar.TokenGuard

/-!
Settings of the program, with their defaults and what follows from them. Main statement: every page
has room for a record, and the greatest page size is at least the default one.
-/

namespace Registrar

open Json

structure Settings where
  host : String := "127.0.0.1"
  listenPort : Nat := 3001
  /-- Pages from anywhere may use the service. -/
  anyOrigin : Bool := false
  connection : Option String := none
  connections : Option Nat := some 20
  defaultPageSize : Nat := 20
  mostPageSize : Nat := 500
  /-- Begin with a small organisation. -/
  seeded : Bool := false
  /-- The number of sessions whose last token is remembered. -/
  sessionLimit : Nat := 10000
  /-- The seconds after which an unused session is idle. -/
  idleSeconds : Nat := 1800
deriving DecidableEq, Repr

namespace Settings

/-- The address of the database: the configured one, or the given one if that is blank. -/
def databaseUrl (s : Settings) (fallback : Option String) : Option String :=
  let filled := fun url => !Text.allBlank url
  (s.connection.filter filled) <|> (fallback.filter filled)

def connectionLimit (s : Settings) : Nat := s.connections.getD 20

def address (s : Settings) : String := s.host ++ ":" ++ Number.natText s.listenPort

def pageLimits (s : Settings) : PageLimits :=
  let default := max s.defaultPageSize 1
  { default, most := max s.mostPageSize default }

def tokenGuard (s : Settings) : TokenGuard := .withLimit s.sessionLimit (s.idleSeconds == 0)

def toValue (s : Settings) : Value :=
  .ofPairs [
    ("server", .ofPairs [("host", .text s.host), ("port", .int s.listenPort),
      ("cors_permissive", .bool s.anyOrigin)]),
    ("database", .ofPairs [("connection_string", .ofOption .text s.connection),
      ("max_connections", .ofOption (fun (n : Nat) => .int n) s.connections)]),
    ("engine", .ofPairs [("default_page_size", .int s.defaultPageSize),
      ("max_page_size", .int s.mostPageSize), ("load_seed_data", .bool s.seeded),
      ("token_session_limit", .int s.sessionLimit), ("token_idle_secs", .int s.idleSeconds)])]

theorem pageLimits_pos (s : Settings) : 0 < s.pageLimits.default :=
  Nat.lt_of_lt_of_le Nat.zero_lt_one (Nat.le_max_right _ _)

theorem pageLimits_le (s : Settings) : s.pageLimits.default ≤ s.pageLimits.most :=
  Nat.le_max_right _ _

end Settings
end Registrar
