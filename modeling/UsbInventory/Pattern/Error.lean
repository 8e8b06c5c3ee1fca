/-
Why a text is no pattern.
-/

namespace UsbInventory

/-- Why a text is no pattern. -/
inductive PatternError where
  | classUnclosed
  | classRangeInvalid
  | classRangeLiteral
  | classEscapeInvalid
  | countEmpty
  | countInvalid
  | countUnclosed
  | countTooLarge
  | escapeAtEnd
  | escapeUnknown
  | hexEmpty
  | hexInvalid
  | hexUnclosed
  | backreference
  | propertyUnknown
  | boundaryUnknown
  | flagUnknown
  | flagDuplicate
  | flagDangling
  | flagUnclosed
  | groupNameInvalid
  | groupNameDuplicate
  | groupUnclosed
  | groupUnopened
  | lookAround
  | nothingToRepeat
  /-- A class that would match bytes that are no text. -/
  | beyondText
  | nestedTooDeep
  | tooLarge
  deriving DecidableEq, Repr

end UsbInventory
