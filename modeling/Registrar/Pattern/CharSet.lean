import Registrar.Text.Category
import Registrar.Text.Folding

/-!
Sets of characters that have a notation of their own in patterns.
-/

namespace Registrar.Pattern.CharSet

open Text

def single (c : Char) : Ranges := Ranges.single c.toNat
def span (low high : Char) : Ranges := [(low.toNat, high.toNat)]
def any : Ranges := .compl []

def digit : Ranges := Category.decimalNumber
def space : Ranges :=
  [(0x09, 0x0D), (0x20, 0x20), (0x85, 0x85), (0xA0, 0xA0), (0x1680, 0x1680), (0x2000, 0x200A),
    (0x2028, 0x2029), (0x202F, 0x202F), (0x205F, 0x205F), (0x3000, 0x3000)]
def word : Ranges := Category.word

def digitAscii : Ranges := [(0x30, 0x39)]
def spaceAscii : Ranges := [(0x09, 0x0D), (0x20, 0x20)]
def wordAscii : Ranges := [(0x30, 0x39), (0x41, 0x5A), (0x5F, 0x5F), (0x61, 0x7A)]

def ofAsciiName? : String → Option Ranges
  | "alnum" => some [(0x30, 0x39), (0x41, 0x5A), (0x61, 0x7A)]
  | "alpha" => some [(0x41, 0x5A), (0x61, 0x7A)]
  | "ascii" => some [(0, 0x7F)]
  | "blank" => some [(0x09, 0x09), (0x20, 0x20)]
  | "cntrl" => some [(0, 0x1F), (0x7F, 0x7F)]
  | "digit" => some digitAscii
  | "graph" => some [(0x21, 0x7E)]
  | "lower" => some [(0x61, 0x7A)]
  | "print" => some [(0x20, 0x7E)]
  | "punct" => some [(0x21, 0x2F), (0x3A, 0x40), (0x5B, 0x60), (0x7B, 0x7E)]
  | "space" => some spaceAscii
  | "upper" => some [(0x41, 0x5A)]
  | "word" => some wordAscii
  | "xdigit" => some [(0x30, 0x39), (0x41, 0x46), (0x61, 0x66)]
  | _ => none

end Registrar.Pattern.CharSet
