import Registrar.Desk.Change
import Registrar.User

/-!
Enabling and disabling users.
-/

namespace Registrar.User

def wantedState (params : Params) : Except Error Bool :=
  match params.getFilled? "state" with
  | some "enable" => .ok true
  | some "disable" => .ok false
  | other => .error (.unknownState (other.getD ""))

def doState (d : Desk Int User) (supply : Supply) (params : Params) (caller : Caller) :
    Action Outcome := fun r =>
  match wantedState params with
  | .error e => (r, .error e)
  | .ok enabled =>
    let (name, event) :=
      if enabled then ("Enable", "do-state-enable") else ("Disable", "do-state-disable")
    d.batchUpdate name event supply (fun u => { u with enabled }) params caller r

end Registrar.User
