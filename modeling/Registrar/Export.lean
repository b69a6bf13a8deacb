import Registrar.Row
import Registrar.Schema

/-!
Exported grids: comma separated lines, the labels first and one line for each row. A field is quoted
if it holds a comma, a quote or a line break, and a quote inside is written twice.
-/

namespace Registrar

open Json

structure Export where
  filename : String
  contentType : String
  text : String
deriving DecidableEq, Repr

namespace Export

/-- Characters that a field holds only in quotes. -/
def isSpecial (c : Char) : Bool := c == ',' || c == '"' || c == '\n' || c == '\r'

/-- Writes every quote twice. -/
def doubled : List Char → List Char
  | [] => []
  | c :: r => if c = '"' then '"' :: '"' :: doubled r else c :: doubled r

def field (s : List Char) : List Char :=
  if s.any isSpecial then '"' :: (doubled s ++ ['"']) else s

/-- Fields with commas between them, and a line end. -/
def line (fields : List String) : List Char :=
  [','].intercalate (fields.map fun s => field s.toList) ++ ['\r', '\n']

/-- What is shown of a record: no collections, nothing transient, no version. -/
def columns (s : Schema) : List Field :=
  s.fields.filter fun f => !f.isCollection && !f.isTransient && f.name != "version"

/-- The records of the grid, the labels first. -/
def table (s : Schema) (rows : List Value) : List (List String) :=
  (columns s).map Field.label ::
    rows.map fun row => (columns s).map fun f => Row.textAt row f.name

def ofRows (s : Schema) (rows : List Value) : Export where
  filename := s.entityType ++ ".csv"
  contentType := "text/csv; charset=utf-8"
  text := String.ofList ((table s rows).flatMap line)

end Export
end Registrar
