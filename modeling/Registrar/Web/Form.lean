import Registrar.Json.Reader
import Registrar.Text.Pieces
import Registrar.Text.Utf8

/-!
Forms as one text: `key=value` pairs with `&` between them, blanks as `+`, and other characters as
the `%` escapes of their bytes. A broken escape stands for itself.
-/

namespace Registrar.Web.Form

def hexOf? (b : Nat) : Option Nat := if b < 128 then Json.hexValue? (Char.ofNat b) else none

/-- Undoes the escapes in bytes. -/
def unescape : List Nat → List Nat
  | 0x25 :: a :: b :: r =>
    match hexOf? a, hexOf? b with
    | some high, some low => (16 * high + low) :: unescape r
    | _, _ => 0x25 :: unescape (a :: b :: r)
  | 0x2B :: r => 0x20 :: unescape r
  | b :: r => b :: unescape r
  | [] => []

/-- The text of a key or a value. -/
def decode (s : List Char) : String :=
  String.ofList (Text.Utf8.decode (unescape (Text.Utf8.encode s)))

/-- The pair in a piece of a form; without `=` all of it is the key. -/
def pair (piece : List Char) : String × String :=
  match Text.cut? '=' piece with
  | some (key, value) => (decode key, decode value)
  | none => (decode piece, "")

def pairs (s : List Char) : List (String × String) :=
  ((Text.pieces '&' s).filter fun piece => !piece.isEmpty).map pair

end Registrar.Web.Form
