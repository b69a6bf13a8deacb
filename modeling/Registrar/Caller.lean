/-!
Who sends a request, and the part of the organisation this person administers.
-/

namespace Registrar

structure Caller where
  userId : String
  /-- The highest role level the caller may see; none means any. -/
  level : Option Int := none
  /-- The code prefixes the caller administers; no prefix at all means any code. -/
  scopes : List String := []
  session : Option String := none
deriving DecidableEq, Repr

namespace Caller

def anonymous : Caller := { userId := "dev-user" }

/-- The key under which repeated submissions are recognised. -/
def sessionKey (caller : Caller) : String := caller.session.getD caller.userId

def isRestricted (caller : Caller) : Bool := !caller.scopes.isEmpty

/-- The code starts with one of the caller's prefixes, or the caller is not restricted. -/
def covers (caller : Caller) (code : String) : Bool :=
  !caller.isRestricted || caller.scopes.any fun scope => scope.toList.isPrefixOf code.toList

theorem covers_of_not_restricted {caller : Caller} (h : caller.isRestricted = false)
    (code : String) : caller.covers code := by
  simp [covers, h]

end Caller
end Registrar
