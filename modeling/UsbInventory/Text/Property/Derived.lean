/-
Properties of characters that follow from categories and from the tables of `Text.Property.Basic`, as
edition 16.0 of the Unicode character database derives them: case, identifiers, graphemes, and the
characters of words.
-/
import UsbInventory.Text.Age
import UsbInventory.Text.Folding
import UsbInventory.Text.Property.Basic

namespace UsbInventory.Text.Property

/-! ## Letters and case -/

/-- Characters that count as alphabetic without being letters or letter numbers. -/
def otherAlphabetic : CodeSet := Text.otherAlphabetic.inter known

/-- Letters, letter numbers, and the marks and symbols that count as such. -/
def alphabetic : CodeSet :=
  (Category.knownCodesOf (.letterNumber :: Category.letters)).union otherAlphabetic

/-- Lower-case letters, and the marks, numerals and symbols that count as such. -/
def lowercase : CodeSet := (Category.knownCodes .lowercaseLetter).union otherLowercase

/-- Upper-case letters, and the numerals and symbols that count as such. -/
def uppercase : CodeSet := (Category.knownCodes .uppercaseLetter).union otherUppercase

def titlecase : CodeSet := Category.knownCodes .titlecaseLetter

/-- Characters that are lower case, upper case or title case. -/
def cased : CodeSet := .unions [lowercase, uppercase, titlecase]

/-- Punctuation that stands within words: colons and middle dots, full stops, and the apostrophe. -/
def innerPunctuation : CodeSet :=
  .ofRanges
    [ (0x27, 0x27), (0x2E, 0x2E), (0x3A, 0x3A), (0xB7, 0xB7), (0x387, 0x387), (0x55F, 0x55F),
      (0x5F4, 0x5F4), (0x2018, 0x2019), (0x2024, 0x2024), (0x2027, 0x2027), (0xFE13, 0xFE13),
      (0xFE52, 0xFE52), (0xFE55, 0xFE55), (0xFF07, 0xFF07), (0xFF0E, 0xFF0E), (0xFF1A, 0xFF1A)]

/-- Characters that are passed over where the case of a word is determined. -/
def caseIgnorable : CodeSet :=
  (Category.knownCodesOf
    [.nonspacingMark, .enclosingMark, .format, .modifierLetter, .modifierSymbol]).union
    innerPunctuation

/-! ## Changes of case -/

/-- Lower-case characters whose upper case is written with several characters, and the dotless i. -/
def expandingUppercase : CodeSet :=
  .ofRanges
    [ (0x131, 0x131), (0x149, 0x149), (0x1F0, 0x1F0), (0x587, 0x587), (0x1E96, 0x1E9A),
      (0x1F50, 0x1F50), (0x1F52, 0x1F52), (0x1F54, 0x1F54), (0x1F56, 0x1F56), (0x1FB2, 0x1FB2),
      (0x1FB4, 0x1FB4), (0x1FB6, 0x1FB7), (0x1FC2, 0x1FC2), (0x1FC4, 0x1FC4), (0x1FC6, 0x1FC7),
      (0x1FD2, 0x1FD2), (0x1FD6, 0x1FD7), (0x1FE2, 0x1FE2), (0x1FE4, 0x1FE4), (0x1FE6, 0x1FE7),
      (0x1FF2, 0x1FF2), (0x1FF4, 0x1FF4), (0x1FF6, 0x1FF7), (0xFB00, 0xFB04), (0xFB13, 0xFB17)]

/-- Characters whose folding is written with several characters, or changes once they are decomposed. -/
def expandingFolding : CodeSet :=
  .ofRanges
    [ (0xDF, 0xDF), (0x130, 0x130), (0x149, 0x149), (0x587, 0x587), (0x1E9A, 0x1E9A),
      (0x1F80, 0x1F87), (0x1F90, 0x1F97), (0x1FA0, 0x1FA7), (0x1FB2, 0x1FB4), (0x1FB7, 0x1FB7),
      (0x1FC2, 0x1FC4), (0x1FC7, 0x1FC7), (0x1FF2, 0x1FF4), (0x1FF7, 0x1FF7), (0xFB00, 0xFB04),
      (0xFB06, 0xFB06), (0xFB13, 0xFB17)]

/-- The capital I with a dot, whose lower case is written with two characters. -/
def dottedCapital : CodeSet := .single '\u0130'

/-- The letters of Georgian, which stay as they are at the start of a title. -/
def georgian : CodeSet := .ofRanges [(0x10D0, 0x10FA), (0x10FD, 0x10FF)]

/-- The capital digraphs whose title case is a character of its own. -/
def capitalDigraphs : CodeSet :=
  .ofRanges [(0x1C4, 0x1C4), (0x1C7, 0x1C7), (0x1CA, 0x1CA), (0x1F1, 0x1F1)]

def changesWhenLowercased : CodeSet :=
  ((uppercase.union titlecase).inter caseVariants).union dottedCapital

def changesWhenUppercased : CodeSet := (caseVariants.except uppercase).union expandingUppercase

def changesWhenTitlecased : CodeSet :=
  .unions
    [ caseVariants.except (.unions [uppercase, titlecase, georgian]), expandingUppercase,
      capitalDigraphs]

def changesWhenCasemapped : CodeSet := .unions [caseVariants, dottedCapital, expandingUppercase]

/-- Three characters that fold to what their decomposition is in any case are left out. -/
def changesWhenCasefolded : CodeSet :=
  (folding.except (.ofRanges [(0x1FBE, 0x1FBE), (0x1FD3, 0x1FD3), (0x1FE3, 0x1FE3)])).union
    expandingFolding

/-! ## Symbols and graphemes -/

/-- Mathematical symbols, and the characters that are used as such. -/
def math : CodeSet := (Category.knownCodes .mathSymbol).union otherMath

/-- Characters that are not displayed by themselves. -/
def defaultIgnorable : CodeSet :=
  (CodeSet.unions [Category.knownCodes .format, otherDefaultIgnorable, variationSelector]).except
    (.unions
      [ whiteSpace, prependedConcatenationMark, .ofRange 0xFFF9 0xFFFB, .ofRange 0x13430 0x1343F])

/-- Characters that extend the grapheme before them. -/
def graphemeExtend : CodeSet :=
  (Category.knownCodesOf [.nonspacingMark, .enclosingMark]).union otherGraphemeExtend

/-- Characters that begin a grapheme. -/
def graphemeBase : CodeSet :=
  CodeSet.complement
    (.unions
      [ Category.knownCodesOf [.control, .format, .privateUse, .unassigned, .lineSeparator,
          .paragraphSeparator], graphemeExtend])

/-! ## Words and identifiers -/

/-- The characters of words: alphabetic ones, marks, decimal digits, connecting punctuation and the two
joiners. -/
def word : CodeSet :=
  .unions
    [ alphabetic, Category.knownCodesOf (.decimalNumber :: .connectorPunctuation :: Category.marks),
      joinControl]

/-- What has a meaning in the text of patterns does not stand in identifiers. -/
def exceptPattern (s : CodeSet) : CodeSet := s.except (patternSyntax.union patternWhiteSpace)

/-- Characters that start identifiers. -/
def idStart : CodeSet :=
  exceptPattern ((Category.knownCodesOf (.letterNumber :: Category.letters)).union otherIdStart)

/-- Characters that stand in identifiers. -/
def idContinue : CodeSet :=
  idStart.union <| exceptPattern <|
    (Category.knownCodesOf
      [.nonspacingMark, .spacingMark, .decimalNumber, .connectorPunctuation]).union otherIdContinue

/-- Characters that decompose to something that does not stand in identifiers. -/
def unstableInIdentifiers : CodeSet :=
  .ofRanges
    [ (0x37A, 0x37A), (0x309B, 0x309C), (0xFC5E, 0xFC63), (0xFDFA, 0xFDFB), (0xFE70, 0xFE70),
      (0xFE72, 0xFE72), (0xFE74, 0xFE74), (0xFE76, 0xFE76), (0xFE78, 0xFE78), (0xFE7A, 0xFE7A),
      (0xFE7C, 0xFE7C), (0xFE7E, 0xFE7E)]

/-- Characters that decompose to something that does not start identifiers. -/
def unstableAtStart : CodeSet :=
  .ofRanges [(0xE33, 0xE33), (0xEB3, 0xEB3), (0xFF9E, 0xFF9F)]

/-- Characters that start identifiers, also when they are decomposed. -/
def xidStart : CodeSet := idStart.except (unstableInIdentifiers.union unstableAtStart)

/-- Characters that stand in identifiers, also when they are decomposed. -/
def xidContinue : CodeSet := idContinue.except unstableInIdentifiers

end UsbInventory.Text.Property
