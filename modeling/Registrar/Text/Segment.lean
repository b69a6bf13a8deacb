import Registrar.Text.Script
import Registrar.Text.Trait

/-!
Classes of characters for cutting a text into user characters, words and sentences, edition 16.0 of
the Unicode Standard. Each follows from categories, properties and a few characters of its own.
-/

namespace Registrar.Text.Segment

open Category Trait

/-! ### User characters -/

def prepend : Ranges :=
  .union prependedMark
    [(0xD4E, 0xD4E), (0x111C2, 0x111C3), (0x113D1, 0x113D1), (0x1193F, 0x1193F),
      (0x11941, 0x11941), (0x11A3A, 0x11A3A), (0x11A84, 0x11A89), (0x11D46, 0x11D46),
      (0x11F02, 0x11F02)]

def extend : Ranges := .union graphemeExtend emojiModifier

def breaking : Ranges :=
  .diff
    (.unions [lineSeparator, paragraphSeparator, control, format,
      .inter unassigned defaultIgnorable])
    (.unions [[(0xA, 0xA), (0xD, 0xD), (0x200C, 0x200D)], prepend, extend])

/-- Spacing marks that do not join the character before them. -/
def looseMarks : Ranges :=
  [(0x102B, 0x102C), (0x1038, 0x1038), (0x1062, 0x1064), (0x1067, 0x106D), (0x1083, 0x1083),
    (0x1087, 0x108C), (0x108F, 0x108F), (0x109A, 0x109C), (0x1A61, 0x1A61), (0x1A63, 0x1A64),
    (0xAA7B, 0xAA7B), (0xAA7D, 0xAA7D), (0x11720, 0x11721)]

def joiningMark : Ranges :=
  .diff (.union (.diff spacingMark extend) [(0xE33, 0xE33), (0xEB3, 0xEB3)]) looseMarks

def leading : Ranges := [(0x1100, 0x115F), (0xA960, 0xA97C)]
def vowel : Ranges :=
  [(0x1160, 0x11A7), (0xD7B0, 0xD7C6), (0x16D63, 0x16D63), (0x16D67, 0x16D6A)]
def trailing : Ranges := [(0x11A8, 0x11FF), (0xD7CB, 0xD7FB)]

/-- The numbers of the 399 syllables without a trailing consonant; each stands before the 27 that
have one. -/
def openSyllables : List Nat := (List.range 399).map fun k => 0xAC00 + 28 * k

/-- The class of user characters with a name. -/
def userCharacter? : String → Option Ranges
  | "cr" => some (.single 0xD)
  | "lf" => some (.single 0xA)
  | "control" | "cn" => some breaking
  | "extend" | "ex" => some extend
  | "prepend" | "pp" => some prepend
  | "spacingmark" | "sm" => some joiningMark
  | "regionalindicator" | "ri" => some regionalIndicator
  | "l" => some leading
  | "v" => some vowel
  | "t" => some trailing
  | "lv" => some (openSyllables.map fun n => (n, n))
  | "lvt" => some (openSyllables.map fun n => (n + 1, n + 27))
  | "zwj" => some (.single 0x200D)
  | _ => none

/-! ### Words -/

def wordExtend : Ranges := .unions [graphemeExtend, spacingMark, emojiModifier]

def wordFormat : Ranges :=
  .diff format (.unions [[(0x200B, 0x200D), (0xE0020, 0xE007F)], prepend])

def numeric : Ranges :=
  .unions [decimalNumber, [(0x66B, 0x66B)], .diff prependedMark [(0x70F, 0x70F)]]

def katakana : Ranges :=
  .union ((Script.find? "katakana").getD [])
    [(0x3031, 0x3035), (0x309B, 0x309C), (0x30A0, 0x30A0), (0x30FC, 0x30FC), (0xFF70, 0xFF70)]

def hebrewLetter : Ranges := .inter ((Script.find? "hebrew").getD []) otherLetter

/-- Letters of scripts that do not separate words. -/
def unspaced : Ranges := [
    (0xE01, 0xE30), (0xE32, 0xE33), (0xE40, 0xE46), (0xE81, 0xE82), (0xE84, 0xE84), (0xE86, 0xE8A),
    (0xE8C, 0xEA3), (0xEA5, 0xEA5), (0xEA7, 0xEB0), (0xEB2, 0xEB3), (0xEBD, 0xEBD), (0xEC0, 0xEC4),
    (0xEC6, 0xEC6), (0xEDC, 0xEDF), (0x1000, 0x102A), (0x103F, 0x103F), (0x1050, 0x1055),
    (0x105A, 0x105D), (0x1061, 0x1061), (0x1065, 0x1066), (0x106E, 0x1070), (0x1075, 0x1081),
    (0x108E, 0x108E), (0x1780, 0x17B3), (0x17D7, 0x17D7), (0x17DC, 0x17DC), (0x1950, 0x196D),
    (0x1970, 0x1974), (0x1980, 0x19AB), (0x19B0, 0x19C9), (0x1A20, 0x1A54), (0x1AA7, 0x1AA7),
    (0xA9E0, 0xA9E4), (0xA9E6, 0xA9EF), (0xA9FA, 0xA9FE), (0xAA60, 0xAA76), (0xAA7A, 0xAA7A),
    (0xAA7E, 0xAAAF), (0xAAB1, 0xAAB1), (0xAAB5, 0xAAB6), (0xAAB9, 0xAABD), (0xAAC0, 0xAAC0),
    (0xAAC2, 0xAAC2), (0xAADB, 0xAADD), (0x11700, 0x1171A), (0x11740, 0x11746)
]

/-- Signs that count as letters. -/
def letterLike : Ranges :=
  [(0x2C2, 0x2C5), (0x2D2, 0x2D7), (0x2DE, 0x2DF), (0x2E5, 0x2EB), (0x2ED, 0x2ED),
    (0x2EF, 0x2FF), (0x55A, 0x55C), (0x55E, 0x55E), (0x58A, 0x58A), (0x5F3, 0x5F3),
    (0x70F, 0x70F), (0xA708, 0xA716), (0xA720, 0xA721), (0xA789, 0xA78A), (0xAB5B, 0xAB5B)]

def wordLetter : Ranges :=
  .diff (.union alphabetic letterLike)
    (.unions [ideographic, katakana, unspaced, (Script.find? "hiragana").getD [], wordExtend,
      hebrewLetter])

def midNumLet : Ranges :=
  [(0x2E, 0x2E), (0x2018, 0x2019), (0x2024, 0x2024), (0xFE52, 0xFE52), (0xFF07, 0xFF07),
    (0xFF0E, 0xFF0E)]
def midLetter : Ranges :=
  [(0x3A, 0x3A), (0xB7, 0xB7), (0x387, 0x387), (0x55F, 0x55F), (0x5F4, 0x5F4),
    (0x2027, 0x2027), (0xFE13, 0xFE13), (0xFE55, 0xFE55), (0xFF1A, 0xFF1A)]
def midNum : Ranges :=
  [(0x2C, 0x2C), (0x3B, 0x3B), (0x37E, 0x37E), (0x589, 0x589), (0x60C, 0x60D), (0x66C, 0x66C),
    (0x7F8, 0x7F8), (0x2044, 0x2044), (0xFE10, 0xFE10), (0xFE14, 0xFE14), (0xFE50, 0xFE50),
    (0xFE54, 0xFE54), (0xFF0C, 0xFF0C), (0xFF1B, 0xFF1B)]

/-- The class of characters in words with a name. -/
def word? : String → Option Ranges
  | "cr" => some (.single 0xD)
  | "lf" => some (.single 0xA)
  | "newline" | "nl" => some [(0xB, 0xC), (0x85, 0x85), (0x2028, 0x2029)]
  | "extend" => some wordExtend
  | "zwj" => some (.single 0x200D)
  | "format" | "fo" => some wordFormat
  | "regionalindicator" | "ri" => some regionalIndicator
  | "katakana" | "ka" => some katakana
  | "hebrewletter" | "hl" => some hebrewLetter
  | "aletter" | "le" => some wordLetter
  | "singlequote" | "sq" => some (.single 0x27)
  | "doublequote" | "dq" => some (.single 0x22)
  | "midnumlet" | "mb" => some midNumLet
  | "midletter" | "ml" => some midLetter
  | "midnum" | "mn" => some midNum
  | "numeric" | "nu" => some numeric
  | "extendnumlet" | "ex" => some (.union connectorPunctuation [(0x202F, 0x202F)])
  | "wsegspace" =>
    some (.diff spaceSeparator [(0xA0, 0xA0), (0x2007, 0x2007), (0x202F, 0x202F)])
  | _ => none

/-! ### Sentences -/

def sentenceExtend : Ranges := .unions [graphemeExtend, spacingMark, [(0x200D, 0x200D)]]

def sentenceLower : Ranges :=
  .diff lowercase (.union graphemeExtend [(0x10D0, 0x10FA), (0x10FD, 0x10FF)])

def sentenceUpper : Ranges :=
  .diff (.union uppercase titlecaseLetter) [(0x1C90, 0x1CBA), (0x1CBD, 0x1CBF)]

def sentenceLetter : Ranges :=
  .diff (.union alphabetic [(0x5F3, 0x5F3)])
    (.unions [sentenceLower, sentenceUpper, sentenceExtend])

def ambiguousEnd : Ranges := [(0x2E, 0x2E), (0x2024, 0x2024), (0xFE52, 0xFE52), (0xFF0E, 0xFF0E)]
def sureEnd : Ranges := .diff sentenceTerminal ambiguousEnd

def closing : Ranges :=
  .diff
    (.unions [openPunctuation, closePunctuation, initialPunctuation, finalPunctuation,
      
      [(0x22, 0x22), (0x27, 0x27), (0x275B, 0x2760), (0x2E00, 0x2E01), (0x2E06, 0x2E08),
        (0x2E0B, 0x2E0B), (0x1F676, 0x1F678)]])
    (.union ambiguousEnd sureEnd)

def continuing : Ranges :=
  [(0x2C, 0x2D), (0x3A, 0x3B), (0x37E, 0x37E), (0x55D, 0x55D), (0x60C, 0x60D), (0x7F8, 0x7F8),
    (0x1802, 0x1802), (0x1808, 0x1808), (0x2013, 0x2014), (0x3001, 0x3001), (0xFE10, 0xFE11),
    (0xFE13, 0xFE14), (0xFE31, 0xFE32), (0xFE50, 0xFE51), (0xFE54, 0xFE55), (0xFE58, 0xFE58),
    (0xFE63, 0xFE63), (0xFF0C, 0xFF0D), (0xFF1A, 0xFF1B), (0xFF64, 0xFF64)]

/-- The class of characters in sentences with a name. -/
def sentence? : String → Option Ranges
  | "cr" => some (.single 0xD)
  | "lf" => some (.single 0xA)
  | "sep" | "se" => some [(0x85, 0x85), (0x2028, 0x2029)]
  | "extend" | "ex" => some sentenceExtend
  | "format" | "fo" =>
    some (.diff format (.unions [[(0x200C, 0x200D), (0xE0020, 0xE007F)], prepend]))
  | "sp" =>
    some (.diff whiteSpace [(0xA, 0xA), (0xD, 0xD), (0x85, 0x85), (0x2028, 0x2029)])
  | "lower" | "lo" => some sentenceLower
  | "upper" | "up" => some sentenceUpper
  | "oletter" | "le" => some sentenceLetter
  | "numeric" | "nu" => some (.union numeric [(0x66C, 0x66C)])
  | "aterm" | "at" => some ambiguousEnd
  | "sterm" | "st" => some sureEnd
  | "close" | "cl" => some closing
  | "scontinue" | "sc" => some continuing
  | _ => none

end Registrar.Text.Segment
