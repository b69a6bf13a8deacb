import Registrar.Export
import Registrar.Outcome

/-!
Answers of the web: a status, the headers that matter, and a body of data or text. Every error
answers with the outcome of a failure; a panic leaves the request without an answer.
-/

namespace Registrar.Web

open Json

inductive Body where
  | empty
  | data (v : Value)
  | text (s : String)
deriving Repr

structure Response where
  status : Nat
  contentType : Option String := none
  disposition : Option String := none
  /-- The origins that may read the answer. -/
  allowOrigin : Option String := none
  body : Body := .empty
deriving Repr

namespace Response

def bare (status : Nat) : Response := { status }

def ofValue (status : Nat) (v : Value) : Response :=
  { status, contentType := some "application/json", body := .data v }

/-- No answer: the connection ends before there is one. -/
def lost : Response := bare 0

def ofError (e : Error) : Response :=
  if e.category = .panic then lost else ofValue e.status (Outcome.ofError e).toValue

def ofExport (file : Export) : Response where
  status := 200
  contentType := some file.contentType
  disposition := some ("attachment; filename=\"" ++ file.filename ++ "\"")
  body := .text file.text

def ofResult {α : Type} (encode : α → Value) : Except Error α → Response
  | .ok a => ofValue 200 (encode a)
  | .error e => ofError e

def withoutBody (r : Response) : Response := { r with body := .empty }

end Response
end Registrar.Web
