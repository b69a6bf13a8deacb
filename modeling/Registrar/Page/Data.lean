import Registrar.Json.Value
import Registrar.Page

/-!
The data form of pages.
-/

namespace Registrar

open Json

def Page.toValue {α : Type} (encode : α → Value) (page : Page α) : Value :=
  .ofPairs [
    ("content", .list (page.content.map encode)),
    ("totalElements", .int page.totalElements),
    ("totalPages", .int page.totalPages),
    ("number", .int page.number),
    ("size", .int page.size)]

end Registrar
