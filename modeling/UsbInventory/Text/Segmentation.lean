/-
Where text is divided into graphemes, words and sentences: the classes of characters that the rules of
Unicode for this go by (edition 16.0). Every class follows from categories and properties.
-/
import UsbInventory.Text.Property.Derived
import UsbInventory.Text.Script

namespace UsbInventory.Text

namespace Segmentation

/-! ## Shared classes -/

def lineFeed : CodeSet := .single '\n'

def carriageReturn : CodeSet := .single '\r'

/-- The joiner that ties emoji together. -/
def zeroWidthJoiner : CodeSet := .single '\u200D'

/-- The two joiners, which are formats. -/
def joiners : CodeSet := Property.joinControl

/-- The formats that tag characters were, which extend what is before them. -/
def tags : CodeSet := .ofRange 0xE0020 0xE007F

/-- The end of a line or paragraph other than line feed and carriage return. -/
def furtherLineEnds : CodeSet := .ofRanges [(0x85, 0x85), (0x2028, 0x2029)]

/-- Decimal digits, with the signs and separators that stand among digits. -/
def digits : CodeSet :=
  (Category.knownCodes .decimalNumber).union <|
    .ofRanges
      [ (0x600, 0x605), (0x66B, 0x66B), (0x6DD, 0x6DD), (0x890, 0x891), (0x8E2, 0x8E2),
        (0x19DA, 0x19DA), (0x110BD, 0x110BD), (0x110CD, 0x110CD)]

/-- The script with a given name; nothing if there is none. -/
def scriptCodes (name : String) : CodeSet := ((Script.find? name).map Script.codes).getD .empty

/-! ## Graphemes -/

def graphemeExtend : CodeSet := Property.graphemeExtend.union Property.emojiModifier

/-- Characters between which and their neighbours a grapheme always ends. -/
def graphemeControl : CodeSet :=
  (CodeSet.unions
    [ Category.knownCodesOf [.control, .format, .lineSeparator, .paragraphSeparator],
      (Category.knownCodes .unassigned).inter Property.defaultIgnorable]).except
    (.unions
      [ lineFeed, carriageReturn, joiners, Property.graphemeExtend,
        Property.prependedConcatenationMark])

/-- Characters that begin a grapheme together with what follows them. -/
def prepended : CodeSet :=
  Property.prependedConcatenationMark.union <|
    .ofRanges
      [ (0xD4E, 0xD4E), (0x111C2, 0x111C3), (0x113D1, 0x113D1), (0x1193F, 0x1193F),
        (0x11941, 0x11941), (0x11A3A, 0x11A3A), (0x11A84, 0x11A89), (0x11D46, 0x11D46),
        (0x11F02, 0x11F02)]

/-- Spacing marks that belong to the grapheme before them. Some of South East Asia do not. -/
def spacingMark : CodeSet :=
  ((Category.knownCodes .spacingMark).except
    (Property.graphemeExtend.union <|
      .ofRanges
        [ (0x102B, 0x102C), (0x1038, 0x1038), (0x1062, 0x1064), (0x1067, 0x106D), (0x1083, 0x1083),
          (0x1087, 0x108C), (0x108F, 0x108F), (0x109A, 0x109C), (0x1A61, 0x1A61), (0x1A63, 0x1A64),
          (0xAA7B, 0xAA7B), (0xAA7D, 0xAA7D), (0x11720, 0x11721)])).union
    (.ofRanges [(0xE33, 0xE33), (0xEB3, 0xEB3)])

/-- Leading consonants of Hangul. -/
def hangulLeading : CodeSet := .ofRanges [(0x1100, 0x115F), (0xA960, 0xA97C)]

/-- Vowels of Hangul, and of a script that is written like it. -/
def hangulVowel : CodeSet :=
  .ofRanges [(0x1160, 0x11A7), (0xD7B0, 0xD7C6), (0x16D63, 0x16D63), (0x16D67, 0x16D6A)]

/-- Trailing consonants of Hangul. -/
def hangulTrailing : CodeSet := .ofRanges [(0x11A8, 0x11FF), (0xD7CB, 0xD7FB)]

/-- Syllables of Hangul without a trailing consonant: every twenty-eighth of all. -/
def hangulOpen : CodeSet := .ofList ((List.range 399).map fun k => 0xAC00 + 28 * k)

/-- Syllables of Hangul with a trailing consonant. -/
def hangulClosed : CodeSet := (CodeSet.ofRange 0xAC00 0xD7A3).except hangulOpen

/-- The class of a given name in the rules for graphemes. -/
def graphemeBreak? : String → Option CodeSet
  | "cn" | "control" => some graphemeControl
  | "cr" => some carriageReturn
  | "ex" | "extend" => some graphemeExtend
  | "l" => some hangulLeading
  | "lf" => some lineFeed
  | "lv" => some hangulOpen
  | "lvt" => some hangulClosed
  | "pp" | "prepend" => some prepended
  | "ri" | "regionalindicator" => some Property.regionalIndicator
  | "sm" | "spacingmark" => some spacingMark
  | "t" => some hangulTrailing
  | "v" => some hangulVowel
  | "zwj" => some zeroWidthJoiner
  | _ => none

/-! ## Words -/

/-- Characters that belong to the word or sentence part before them. -/
def attached : CodeSet := Property.graphemeExtend.union (Category.knownCodes .spacingMark)

def wordExtend : CodeSet :=
  (attached.union Property.emojiModifier).except zeroWidthJoiner

def wordFormat : CodeSet :=
  (Category.knownCodes .format).except
    (.unions [.single '\u200B', joiners, tags, Property.prependedConcatenationMark])

def katakana : CodeSet :=
  ((scriptCodes "katakana").except graphemeExtend).union <|
    .ofRanges
      [(0x3031, 0x3035), (0x309B, 0x309C), (0x30A0, 0x30A0), (0x30FC, 0x30FC), (0xFF70, 0xFF70)]

def hebrewLetter : CodeSet := (scriptCodes "hebrew").inter (Category.knownCodes .otherLetter)

/-- Letters of scripts that put no space between words, which only a dictionary can divide. -/
def undividedLetters : CodeSet :=
  .ofTable
    [ "3585 48 1 2 12 7 58 2 1*3 5 1 24 1*3 10 1 2 9 1 2 5 1 1 21 4 288 43 20 1 16 6 4 4 3 1 3 2",
      "7 3 4 13 12 1 1777 52 35 1 4 1 371 30 2 5 11 44 4 26 86 53 82 1 36664 5 1 10 10 5 97 23 3",
      "1 3 50 1 1 3 2 2 5 2 1*3 24 3 27682 27 37 7"]

/-- Signs that stand in words like letters. -/
def letterlikeSigns : CodeSet :=
  .ofTable
    [ "706 4 12 6 6 2 5 7 1*3 17 602 3 1 1 43 1 104 1 283 1 40952 15 9 2 103 2 976 1"]

/-- Letters of scripts that divide words. -/
def wordLetter : CodeSet :=
  (Property.alphabetic.except
    (.unions
      [ Property.ideographic, katakana, scriptCodes "hiragana", wordExtend, hebrewLetter,
        undividedLetters, Category.knownCodes .decimalNumber])).union letterlikeSigns

/-- Characters that join letters, digits and Katakana. -/
def wordConnector : CodeSet := (Category.knownCodes .connectorPunctuation).union (.single '\u202F')

/-- Punctuation that may stand between letters and between digits. -/
def betweenLettersOrDigits : CodeSet :=
  .ofRanges
    [ (0x2E, 0x2E), (0x2018, 0x2019), (0x2024, 0x2024), (0xFE52, 0xFE52), (0xFF07, 0xFF07),
      (0xFF0E, 0xFF0E)]

/-- Punctuation that may stand between letters. -/
def betweenLetters : CodeSet :=
  Property.innerPunctuation.except (betweenLettersOrDigits.union (.single '\''))

/-- Punctuation that may stand between digits. -/
def betweenDigits : CodeSet :=
  .ofRanges
    [ (0x2C, 0x2C), (0x3B, 0x3B), (0x37E, 0x37E), (0x589, 0x589), (0x60C, 0x60D), (0x66C, 0x66C),
      (0x7F8, 0x7F8), (0x2044, 0x2044), (0xFE50, 0xFE50), (0xFE54, 0xFE54), (0xFF0C, 0xFF0C),
      (0xFF1B, 0xFF1B)]

/-- Spaces that stay together; the ones that do not allow a line to end are not among them. -/
def wordSpace : CodeSet :=
  (Category.knownCodes .spaceSeparator).except
    (.ofRanges [(0xA0, 0xA0), (0x2007, 0x2007), (0x202F, 0x202F)])

/-- The class of a given name in the rules for words. -/
def wordBreak? : String → Option CodeSet
  | "le" | "aletter" => some wordLetter
  | "cr" => some carriageReturn
  | "dq" | "doublequote" => some (.single '"')
  | "ex" | "extendnumlet" => some wordConnector
  | "extend" => some wordExtend
  | "fo" | "format" => some wordFormat
  | "hl" | "hebrewletter" => some hebrewLetter
  | "ka" | "katakana" => some katakana
  | "lf" => some lineFeed
  | "mb" | "midnumlet" => some betweenLettersOrDigits
  | "ml" | "midletter" => some betweenLetters
  | "mn" | "midnum" => some betweenDigits
  | "nl" | "newline" => some (furtherLineEnds.union (.ofRange 0x0B 0x0C))
  | "nu" | "numeric" => some digits
  | "ri" | "regionalindicator" => some Property.regionalIndicator
  | "sq" | "singlequote" => some (.single '\'')
  | "wsegspace" => some wordSpace
  | "zwj" => some zeroWidthJoiner
  | _ => none

/-! ## Sentences -/

def sentenceExtend : CodeSet := attached.union zeroWidthJoiner

def sentenceFormat : CodeSet :=
  ((Category.knownCodes .format).except
    (.unions [joiners, tags, Property.prependedConcatenationMark])).union (.single '\u070F')

def sentenceDigits : CodeSet := digits.union (.single '\u066C')

def sentenceLower : CodeSet := Property.lowercase.except (sentenceExtend.union Property.georgian)

/-- The capitals of Georgian begin no sentence. -/
def sentenceUpper : CodeSet :=
  (Property.uppercase.union Property.titlecase).except
    (.ofRanges [(0x1C90, 0x1CBA), (0x1CBD, 0x1CBF)])

/-- Letters without case, and the sign that stands like one in Hebrew numerals. -/
def sentenceLetter : CodeSet :=
  (Property.alphabetic.except
    (.unions [sentenceLower, sentenceUpper, sentenceExtend, sentenceDigits])).union
    (.single '\u05F3')

/-- Quotation marks and brackets. -/
def sentenceClose : CodeSet :=
  (Category.knownCodesOf
    [.openPunctuation, .closePunctuation, .initialPunctuation, .finalPunctuation]).union <|
    .ofRanges
      [ (0x22, 0x22), (0x27, 0x27), (0x275B, 0x2760), (0x2E00, 0x2E01), (0x2E06, 0x2E08),
        (0x2E0B, 0x2E0B), (0x1F676, 0x1F678)]

/-- Full stops, which may also stand within a sentence. -/
def fullStops : CodeSet :=
  .ofRanges [(0x2E, 0x2E), (0x2024, 0x2024), (0xFE52, 0xFE52), (0xFF0E, 0xFF0E)]

/-- Punctuation after which a sentence goes on. -/
def sentenceContinue : CodeSet :=
  .ofTable
    [ "44 2 12 2 834 1 478 1 174 2 490 1 4105 1 5 1 2058 2 4076 1 52750 2 1 2 28 2 29 2*4 1 10 1",
      "168 2 12 2 72 1"]

def sentenceSpace : CodeSet :=
  Property.whiteSpace.except (.unions [furtherLineEnds, lineFeed, carriageReturn])

/-- The class of a given name in the rules for sentences. -/
def sentenceBreak? : String → Option CodeSet
  | "at" | "aterm" => some fullStops
  | "cl" | "close" => some sentenceClose
  | "cr" => some carriageReturn
  | "ex" | "extend" => some sentenceExtend
  | "fo" | "format" => some sentenceFormat
  | "le" | "oletter" => some sentenceLetter
  | "lf" => some lineFeed
  | "lo" | "lower" => some sentenceLower
  | "nu" | "numeric" => some sentenceDigits
  | "sc" | "scontinue" => some sentenceContinue
  | "se" | "sep" => some furtherLineEnds
  | "sp" => some sentenceSpace
  | "st" | "sterm" => some (Property.sentenceTerminal.except fullStops)
  | "up" | "upper" => some sentenceUpper
  | _ => none

end Segmentation

end UsbInventory.Text
