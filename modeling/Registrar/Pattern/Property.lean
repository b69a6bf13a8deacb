import Registrar.Pattern.CharSet
import Registrar.Text.Age
import Registrar.Text.Segment

/-!
Character properties by name, as patterns write them. Case, blanks, hyphens, underscores, characters
outside ASCII and a leading `is` make no difference.
-/

namespace Registrar.Pattern.Property

open Text

/-- The name without a leading `is`, in any case. -/
def withoutIs : List Char → Bool × List Char
  | a :: b :: r =>
    if (a = 'i' ∨ a = 'I') ∧ (b = 's' ∨ b = 'S') then (true, r) else (false, a :: b :: r)
  | r => (false, r)

/-- The name without what makes no difference. A lone `c` behind `is` is no name of its own. -/
def normal (name : String) : String :=
  let (stripped, letters) := withoutIs name.toList
  let kept := letters.filter fun c => c.toNat < 0x80 && c ≠ ' ' && c ≠ '-' && c ≠ '_'
  let small := String.ofList (kept.map Char.toLower)
  if stripped && small == "c" then "isc" else small

/-- The general category, or group of them, of a normal name. -/
def category? : String → Option Ranges
  | "l" | "letter" => some Category.letter
  | "lc" | "casedletter" => some Category.casedLetter
  | "lu" | "uppercaseletter" => some Category.uppercaseLetter
  | "ll" | "lowercaseletter" => some Category.lowercaseLetter
  | "lt" | "titlecaseletter" => some Category.titlecaseLetter
  | "lm" | "modifierletter" => some Category.modifierLetter
  | "lo" | "otherletter" => some Category.otherLetter
  | "m" | "mark" | "combiningmark" => some Category.mark
  | "mn" | "nonspacingmark" => some Category.nonspacingMark
  | "mc" | "spacingmark" => some Category.spacingMark
  | "me" | "enclosingmark" => some Category.enclosingMark
  | "n" | "number" => some Category.number
  | "nd" | "decimalnumber" | "digit" => some Category.decimalNumber
  | "nl" | "letternumber" => some Category.letterNumber
  | "no" | "othernumber" => some Category.otherNumber
  | "p" | "punctuation" | "punct" => some Category.punctuation
  | "pc" | "connectorpunctuation" => some Category.connectorPunctuation
  | "pd" | "dashpunctuation" => some Category.dashPunctuation
  | "ps" | "openpunctuation" => some Category.openPunctuation
  | "pe" | "closepunctuation" => some Category.closePunctuation
  | "pi" | "initialpunctuation" => some Category.initialPunctuation
  | "pf" | "finalpunctuation" => some Category.finalPunctuation
  | "po" | "otherpunctuation" => some Category.otherPunctuation
  | "s" | "symbol" => some Category.symbol
  | "sm" | "mathsymbol" => some Category.mathSymbol
  | "sc" | "currencysymbol" => some Category.currencySymbol
  | "sk" | "modifiersymbol" => some Category.modifierSymbol
  | "so" | "othersymbol" => some Category.otherSymbol
  | "z" | "separator" => some Category.separator
  | "zs" | "spaceseparator" => some Category.spaceSeparator
  | "zl" | "lineseparator" => some Category.lineSeparator
  | "zp" | "paragraphseparator" => some Category.paragraphSeparator
  | "c" | "other" => some Category.other
  | "cc" | "control" | "cntrl" => some Category.control
  | "cf" | "format" => some Category.format
  | "co" | "privateuse" => some Category.privateUse
  | "cn" | "unassigned" => some Category.unassigned
  | "any" => some CharSet.any
  | "assigned" => some Category.assigned
  | "ascii" => some [(0, 0x7F)]
  | _ => none

/-- A property that a character has or has not, by its normal name. -/
def binary? : String → Option Ranges
  | "ahex" | "asciihexdigit" => some Trait.asciiHexDigit
  | "alpha" | "alphabetic" => some Category.alphabetic
  | "bidic" | "bidicontrol" => some Trait.bidiControl
  | "ci" | "caseignorable" => some Trait.caseIgnorable
  | "cased" => some Trait.cased
  | "cwcf" | "changeswhencasefolded" => some Trait.changesWhenCasefolded
  | "cwcm" | "changeswhencasemapped" => some Trait.changesWhenCasemapped
  | "cwl" | "changeswhenlowercased" => some Trait.changesWhenLowercased
  | "cwt" | "changeswhentitlecased" => some Trait.changesWhenTitlecased
  | "cwu" | "changeswhenuppercased" => some Trait.changesWhenUppercased
  | "dash" => some Trait.dash
  | "dep" | "deprecated" => some Trait.deprecated
  | "di" | "defaultignorablecodepoint" => some Trait.defaultIgnorable
  | "dia" | "diacritic" => some Trait.diacritic
  | "ebase" | "emojimodifierbase" => some Trait.emojiModifierBase
  | "ecomp" | "emojicomponent" => some Trait.emojiComponent
  | "emod" | "emojimodifier" => some Trait.emojiModifier
  | "emoji" => some Trait.emoji
  | "epres" | "emojipresentation" => some Trait.emojiPresentation
  | "ext" | "extender" => some Trait.extender
  | "extpict" | "extendedpictographic" => some Trait.extendedPictographic
  | "grbase" | "graphemebase" => some Trait.graphemeBase
  | "grext" | "graphemeextend" => some Trait.graphemeExtend
  | "grlink" | "graphemelink" => some Trait.graphemeLink
  | "hex" | "hexdigit" => some Trait.hexDigit
  | "hyphen" => some Trait.hyphen
  | "idc" | "idcontinue" => some Trait.idContinue
  | "idcompatmathcontinue" => some Trait.compatMathContinue
  | "idcompatmathstart" => some Trait.compatMathStart
  | "ideo" | "ideographic" => some Trait.ideographic
  | "ids" | "idstart" => some Trait.idStart
  | "idsb" | "idsbinaryoperator" => some Trait.idsBinary
  | "idst" | "idstrinaryoperator" => some Trait.idsTrinary
  | "idsu" | "idsunaryoperator" => some Trait.idsUnary
  | "joinc" | "joincontrol" => some Trait.joinControl
  | "loe" | "logicalorderexception" => some Trait.logicalOrderException
  | "lower" | "lowercase" => some Category.lowercase
  | "math" => some Trait.math
  | "mcm" | "modifiercombiningmark" => some Trait.modifierCombiningMark
  | "nchar" | "noncharactercodepoint" => some Trait.noncharacter
  | "oalpha" | "otheralphabetic" => some Category.otherAlphabetic
  | "odi" | "otherdefaultignorablecodepoint" => some Trait.otherDefaultIgnorable
  | "ogrext" | "othergraphemeextend" => some Trait.otherGraphemeExtend
  | "oidc" | "otheridcontinue" => some Trait.otherIdContinue
  | "oids" | "otheridstart" => some Trait.otherIdStart
  | "olower" | "otherlowercase" => some Category.otherLowercase
  | "omath" | "othermath" => some Trait.otherMath
  | "oupper" | "otheruppercase" => some Category.otherUppercase
  | "patsyn" | "patternsyntax" => some Trait.patternSyntax
  | "patws" | "patternwhitespace" => some Trait.patternWhiteSpace
  | "pcm" | "prependedconcatenationmark" => some Trait.prependedMark
  | "qmark" | "quotationmark" => some Trait.quotationMark
  | "radical" => some Trait.radical
  | "ri" | "regionalindicator" => some Trait.regionalIndicator
  | "sd" | "softdotted" => some Trait.softDotted
  | "space" | "wspace" | "whitespace" => some CharSet.space
  | "sterm" | "sentenceterminal" => some Trait.sentenceTerminal
  | "term" | "terminalpunctuation" => some Trait.terminalPunctuation
  | "uideo" | "unifiedideograph" => some Trait.unifiedIdeograph
  | "upper" | "uppercase" => some Category.uppercase
  | "vs" | "variationselector" => some Trait.variationSelector
  | "xidc" | "xidcontinue" => some Trait.xidContinue
  | "xids" | "xidstart" => some Trait.xidStart
  | _ => none

def named? (name : String) : Option Ranges :=
  let name := normal name
  binary? name <|> category? name <|> Script.find? name

/-- The characters with a value of a property that has values. -/
def valued? (property value : String) : Option Ranges :=
  let value := normal value
  match normal property with
  | "gc" | "generalcategory" => category? value
  | "sc" | "script" => Script.find? value
  | "scx" | "scriptextensions" => Script.findUsed? value
  | "age" => Age.find? value
  | "gcb" | "graphemeclusterbreak" => Segment.userCharacter? value
  | "wb" | "wordbreak" => Segment.word? value
  | "sb" | "sentencebreak" => Segment.sentence? value
  | _ => none

end Registrar.Pattern.Property
