import Registrar.Json.Value
import Registrar.Number.Notation

/-!
The compact text of a data value: no blanks, keys in order, floats in their shortest form. Quotes,
backslashes and control characters are escaped, everything else stands as it is.
-/

namespace Registrar.Json

def hexDigit (n : Nat) : Char := Nat.digitChar n

def escape (c : Char) : List Char :=
  if c = '"' then ['\\', '"']
  else if c = '\\' then ['\\', '\\']
  else if c = '\x08' then ['\\', 'b']
  else if c = '\x0c' then ['\\', 'f']
  else if c = '\n' then ['\\', 'n']
  else if c = '\r' then ['\\', 'r']
  else if c = '\t' then ['\\', 't']
  else if c.toNat < 0x20 then
    ['\\', 'u', '0', '0', hexDigit (c.toNat / 16), hexDigit (c.toNat % 16)]
  else [c]

def quote (s : String) : String :=
  String.ofList ('"' :: s.toList.flatMap escape ++ ['"'])

mutual

def Value.print : Value → String
  | .null => "null"
  | .bool b => if b then "true" else "false"
  | .int n => Number.intText n
  | .float x => x.text
  | .text s => quote s
  | .list items => "[" ++ printItems items ++ "]"
  | .object entries => "\x7b" ++ printEntries entries ++ "\x7d"

def printItems : List Value → String
  | [] => ""
  | [v] => v.print
  | v :: r => v.print ++ "," ++ printItems r

def printEntries : List (String × Value) → String
  | [] => ""
  | [(k, v)] => quote k ++ ":" ++ v.print
  | (k, v) :: r => quote k ++ ":" ++ v.print ++ "," ++ printEntries r

end

end Registrar.Json
