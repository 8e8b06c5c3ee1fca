/-
The names of properties, and the sets of characters that they stand for. A name alone is a property that
a character has or has not, a general category or a script; with a key before it, it is a value of the
property that the key names. Names are compared loosely.
-/
import UsbInventory.Text.Segmentation

namespace UsbInventory.Text.Property

/-- A name as it is compared: lower case, without spaces, hyphens and underscores, and without `is` at
its start, except that `isc` keeps its own name. -/
def looseName (cs : List Char) : String :=
  let plain := fun cs : List Char =>
    (cs.filter fun c => c.toNat < 0x80 && c != ' ' && c != '-' && c != '_').map Char.toLower
  let rest := plain (cs.drop 2)
  let hasIs := (cs.take 2).map Char.toLower == ['i', 's'] && rest != ['c']
  String.ofList (if hasIs then rest else plain cs)

/-! ## General categories -/

/-- The categories that a name stands for. No character is a surrogate, and that category has no name. -/
def categories? : String → Option (List Category)
  | "l" | "letter" => some Category.letters
  | "lc" | "casedletter" => some Category.casedLetters
  | "lu" | "uppercaseletter" => some [.uppercaseLetter]
  | "ll" | "lowercaseletter" => some [.lowercaseLetter]
  | "lt" | "titlecaseletter" => some [.titlecaseLetter]
  | "lm" | "modifierletter" => some [.modifierLetter]
  | "lo" | "otherletter" => some [.otherLetter]
  | "m" | "mark" | "combiningmark" => some Category.marks
  | "mn" | "nonspacingmark" => some [.nonspacingMark]
  | "mc" | "spacingmark" => some [.spacingMark]
  | "me" | "enclosingmark" => some [.enclosingMark]
  | "n" | "number" => some Category.numbers
  | "nd" | "decimalnumber" | "digit" => some [.decimalNumber]
  | "nl" | "letternumber" => some [.letterNumber]
  | "no" | "othernumber" => some [.otherNumber]
  | "p" | "punctuation" | "punct" => some Category.punctuation
  | "pc" | "connectorpunctuation" => some [.connectorPunctuation]
  | "pd" | "dashpunctuation" => some [.dashPunctuation]
  | "ps" | "openpunctuation" => some [.openPunctuation]
  | "pe" | "closepunctuation" => some [.closePunctuation]
  | "pi" | "initialpunctuation" => some [.initialPunctuation]
  | "pf" | "finalpunctuation" => some [.finalPunctuation]
  | "po" | "otherpunctuation" => some [.otherPunctuation]
  | "s" | "symbol" => some Category.symbols
  | "sm" | "mathsymbol" => some [.mathSymbol]
  | "sc" | "currencysymbol" => some [.currencySymbol]
  | "sk" | "modifiersymbol" => some [.modifierSymbol]
  | "so" | "othersymbol" => some [.otherSymbol]
  | "z" | "separator" => some Category.separators
  | "zs" | "spaceseparator" => some [.spaceSeparator]
  | "zl" | "lineseparator" => some [.lineSeparator]
  | "zp" | "paragraphseparator" => some [.paragraphSeparator]
  | "c" | "other" => some Category.others
  | "cc" | "cntrl" | "control" => some [.control]
  | "cf" | "format" => some [.format]
  | "co" | "privateuse" => some [.privateUse]
  | "cn" | "unassigned" => some [.unassigned]
  | _ => none

/-- The characters that a name of general categories stands for. -/
def ofCategoryName? : String → Option CodeSet
  | "any" => some .all
  | "assigned" => some (Category.knownCodes .unassigned).complement
  | "ascii" => some (.ofRange 0 0x7F)
  | name => (categories? name).map Category.knownCodesOf

/-! ## Properties -/

/-- The characters with the property of a given name. -/
def ofPropertyName? : String → Option CodeSet
  | "ahex" | "asciihexdigit" => some asciiHexDigit
  | "alpha" | "alphabetic" => some alphabetic
  | "bidic" | "bidicontrol" => some bidiControl
  | "bidim" | "bidimirrored" => some bidiMirrored
  | "ci" | "caseignorable" => some caseIgnorable
  | "cased" => some cased
  | "cwcf" | "changeswhencasefolded" => some changesWhenCasefolded
  | "cwcm" | "changeswhencasemapped" => some changesWhenCasemapped
  | "cwl" | "changeswhenlowercased" => some changesWhenLowercased
  | "cwt" | "changeswhentitlecased" => some changesWhenTitlecased
  | "cwu" | "changeswhenuppercased" => some changesWhenUppercased
  | "dash" => some dash
  | "di" | "defaultignorablecodepoint" => some defaultIgnorable
  | "dep" | "deprecated" => some deprecated
  | "dia" | "diacritic" => some diacritic
  | "emoji" => some emoji
  | "ecomp" | "emojicomponent" => some emojiComponent
  | "emod" | "emojimodifier" => some emojiModifier
  | "ebase" | "emojimodifierbase" => some emojiModifierBase
  | "epres" | "emojipresentation" => some emojiPresentation
  | "extpict" | "extendedpictographic" => some extendedPictographic
  | "ext" | "extender" => some extender
  | "grbase" | "graphemebase" => some graphemeBase
  | "grext" | "graphemeextend" => some graphemeExtend
  | "grlink" | "graphemelink" => some graphemeLink
  | "hex" | "hexdigit" => some hexDigit
  | "hyphen" => some hyphen
  | "idsb" | "idsbinaryoperator" => some idsBinaryOperator
  | "idst" | "idstrinaryoperator" => some idsTrinaryOperator
  | "idsu" | "idsunaryoperator" => some idsUnaryOperator
  | "idcompatmathcontinue" => some idCompatMathContinue
  | "idcompatmathstart" => some idCompatMathStart
  | "idc" | "idcontinue" => some idContinue
  | "ids" | "idstart" => some idStart
  | "ideo" | "ideographic" => some ideographic
  | "joinc" | "joincontrol" => some joinControl
  | "loe" | "logicalorderexception" => some logicalOrderException
  | "lower" | "lowercase" => some lowercase
  | "math" => some math
  | "mcm" | "modifiercombiningmark" => some modifierCombiningMark
  | "nchar" | "noncharactercodepoint" => some noncharacter
  | "oalpha" | "otheralphabetic" => some otherAlphabetic
  | "odi" | "otherdefaultignorablecodepoint" => some otherDefaultIgnorable
  | "ogrext" | "othergraphemeextend" => some otherGraphemeExtend
  | "oidc" | "otheridcontinue" => some otherIdContinue
  | "oids" | "otheridstart" => some otherIdStart
  | "olower" | "otherlowercase" => some otherLowercase
  | "omath" | "othermath" => some otherMath
  | "oupper" | "otheruppercase" => some otherUppercase
  | "patsyn" | "patternsyntax" => some patternSyntax
  | "patws" | "patternwhitespace" => some patternWhiteSpace
  | "pcm" | "prependedconcatenationmark" => some prependedConcatenationMark
  | "qmark" | "quotationmark" => some quotationMark
  | "radical" => some radical
  | "ri" | "regionalindicator" => some regionalIndicator
  | "sterm" | "sentenceterminal" => some sentenceTerminal
  | "sd" | "softdotted" => some softDotted
  | "term" | "terminalpunctuation" => some terminalPunctuation
  | "uideo" | "unifiedideograph" => some unifiedIdeograph
  | "upper" | "uppercase" => some uppercase
  | "vs" | "variationselector" => some variationSelector
  | "space" | "whitespace" | "wspace" => some whiteSpace
  | "xidc" | "xidcontinue" => some xidContinue
  | "xids" | "xidstart" => some xidStart
  | _ => none

/-- The characters that a name without a key stands for. -/
def named? (cs : List Char) : Option CodeSet :=
  let name := looseName cs
  ofPropertyName? name <|> ofCategoryName? name <|> (Script.find? name).map Script.codes

/-- The characters for which the property that `key` names has the value that `value` names. -/
def valued? (key value : List Char) : Option CodeSet :=
  let name := looseName value
  match looseName key with
  | "gc" | "generalcategory" => ofCategoryName? name
  | "sc" | "script" => (Script.find? name).map Script.codes
  | "scx" | "scriptextensions" => (Script.find? name).map Script.extendedCodes
  | "age" => Edition.ofName? name
  | "gcb" | "graphemeclusterbreak" => Segmentation.graphemeBreak? name
  | "wb" | "wordbreak" => Segmentation.wordBreak? name
  | "sb" | "sentencebreak" => Segmentation.sentenceBreak? name
  | _ => none

end UsbInventory.Text.Property
