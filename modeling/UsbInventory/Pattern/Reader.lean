/-
The written form of patterns. Besides literal characters there are escapes, classes in brackets, groups,
alternatives, repetitions, anchors, and flags that hold to the end of their group. A pattern is read
part by part; groups that are open wait on a stack. Parts know how deep they are nested: groups,
repetitions, brackets, and every sequence or choice of several parts count.
-/
import UsbInventory.Pattern.Bracket

namespace UsbInventory.Pattern

namespace Reader

/-! ## Flags -/

/-- Sets one flag. Which of several matches is preferred makes no difference here, and its flag is
read without effect. -/
def setFlag (f : Flags) (on : Bool) : Char → Option Flags
  | 'i' => some { f with caseless := on }
  | 'm' => some { f with multiLine := on }
  | 's' => some { f with dotAll := on }
  | 'R' => some { f with pairedEnds := on }
  | 'x' => some { f with verbose := on }
  | 'u' => some { f with unicode := on }
  | 'U' => some f
  | _ => none

/-- Reads flags up to the `:` or `)` after them. `seen` are the letters read so far and `last` tells
whether the character just read was the minus sign. -/
def readFlags (f : Flags) (on last : Bool) (seen : List Char) :
    List Char → Except PatternError (Flags × Bool × Char × List Char)
  | [] => .error .flagUnclosed
  | c :: rest =>
    if c = ':' ∨ c = ')' then
      if last then .error .flagDangling else .ok (f, seen.isEmpty, c, rest)
    else if c = '-' then
      if on then readFlags f false true seen rest else .error .flagDuplicate
    else
      match setFlag f on c with
      | none => .error .flagUnknown
      | some g =>
        if seen.contains c then .error .flagDuplicate else readFlags g on false (c :: seen) rest

/-! ## Groups and sequences -/

/-- A pattern with the depth of its written form. -/
structure Part where
  pattern : Pattern
  depth : Nat := 0

/-- What stands in a sequence: a part, or a place where flags were set. -/
abbrev Item := Option Part

/-- Items, last first, as one part. Flags have no pattern but count as items. -/
def Part.ofItems (items : List Item) : Part :=
  let parts := items.filterMap id
  let pattern :=
    match parts.map Part.pattern with
    | [] => .empty
    | last :: before => before.foldl (fun after p => .seq p after) last
  let depth := parts.foldl (fun d p => max d p.depth) 0
  ⟨pattern, if 2 ≤ items.length then depth + 1 else depth⟩

/-- Alternatives, last first, as one part. -/
def Part.ofBranches (last : Part) (before : List Part) : Part :=
  let depth := before.foldl (fun d p => max d p.depth) last.depth
  ⟨before.foldl (fun after p => .alt p.pattern after) last.pattern,
    if before.isEmpty then depth else depth + 1⟩

/-- A group that is open: whether its match is remembered, and what surrounds it. -/
structure Group where
  remembered : Bool
  flags : Flags
  items : List Item
  branches : List Part

/-- A pattern that is being read: the flags in force, the items of the current alternative and the
alternatives before it, both last first, the groups around it, and the names given to groups. -/
structure State where
  flags : Flags := {}
  items : List Item := []
  branches : List Part := []
  outer : List Group := []
  names : List (List Char) := []

namespace State

/-- The group read so far. -/
def value (s : State) : Part := .ofBranches (.ofItems s.items) s.branches

def add (s : State) (p : Pattern) : State := { s with items := some ⟨p, 0⟩ :: s.items }

/-- Begins the next alternative. -/
def branch (s : State) : State :=
  { s with items := [], branches := .ofItems s.items :: s.branches }

/-- Opens a group in which the given flags hold. -/
def openGroup (s : State) (remembered : Bool) (inner : Flags) : State :=
  { s with
    flags := inner, items := [], branches := [],
    outer := ⟨remembered, s.flags, s.items, s.branches⟩ :: s.outer }

/-- Closes the current group. -/
def closeGroup (s : State) : Except PatternError State :=
  match s.outer with
  | [] => .error .groupUnopened
  | g :: outer =>
    let p := s.value
    .ok { s with
      flags := g.flags, items := some ⟨.group g.remembered p.pattern, p.depth + 1⟩ :: g.items,
      branches := g.branches, outer := outer }

/-- Repeats the last item. -/
def repeatLast (s : State) (low : Nat) (high : Option Nat) : Except PatternError State :=
  match s.items with
  | some p :: before =>
    .ok { s with items := some ⟨.times p.pattern low high, p.depth + 1⟩ :: before }
  | _ => .error .nothingToRepeat

end State

/-- Whether a character may stand in the name of a group, first or later. -/
def isNameChar (first : Bool) (c : Char) : Bool :=
  c == '_' ||
    (if first then Text.isAlphabetic c
    else c == '.' || c == '[' || c == ']' || Text.isAlphanumeric c)

/-- Reads the name of a group, up to its `>`. -/
def readName (s : State) (cs : List Char) : Except PatternError (State × List Char) :=
  let name := cs.takeWhile (· != '>')
  match cs.dropWhile (· != '>'), name with
  | _ :: rest, first :: more =>
    if !(isNameChar true first && more.all (isNameChar false)) then .error .groupNameInvalid
    else if s.names.contains name then .error .groupNameDuplicate
    else .ok ({ s with names := name :: s.names }.openGroup true s.flags, rest)
  | _, _ => .error .groupNameInvalid

/-- Reads the start of a group, after its parenthesis. -/
def readGroup (s : State) (cs : List Char) : Except PatternError (State × List Char) :=
  match skip s.flags cs with
  | '?' :: '=' :: _ | '?' :: '!' :: _ => .error .lookAround
  | '?' :: '<' :: '=' :: _ | '?' :: '<' :: '!' :: _ => .error .lookAround
  | '?' :: 'P' :: '<' :: rest => readName s rest
  | '?' :: '<' :: rest => readName s rest
  | '?' :: rest => do
    let (flags, none?, mark, rest) ← readFlags s.flags true false [] rest
    if mark = ':' then return (s.openGroup false flags, rest)
    else if none? then throw .nothingToRepeat
    else return ({ s with flags := flags, items := none :: s.items }, rest)
  | cs => .ok (s.openGroup true s.flags, cs)

/-- Drops the mark of a lazy repetition, which changes no set of positions. -/
def dropLazy : List Char → List Char
  | '?' :: rest => rest
  | cs => cs

/-- Reads a counted repetition, after its brace. -/
def readTimes (s : State) (cs : List Char) : Except PatternError (State × List Char) := do
  let f := s.flags
  let (low, rest) ← readCount f (skip f cs)
  let (high, rest) ← match rest with
    | ',' :: rest =>
      match skip f rest with
      | '\x7d' :: rest => pure (none, '\x7d' :: rest)
      | rest => do
        let (high, rest) ← readCount f rest
        pure (some high, rest)
    | rest => pure (some low, rest)
  match rest with
  | '\x7d' :: rest =>
    if high.any (· < low) then throw .countInvalid
    return (← s.repeatLast low high, dropLazy (skip f rest))
  | _ => throw .countUnclosed

/-- The set of the dot. -/
def dotClass (f : Flags) : Except PatternError Text.CodeSet :=
  if !f.unicode then .error .beyondText
  else if f.dotAll then .ok .all
  else if f.pairedEnds then .ok ((Text.CodeSet.single '\r').union (.single '\n')).complement
  else .ok (Text.CodeSet.single '\n').complement

/-- Reads the next part of a pattern, which begins with `c`. -/
def step (s : State) (c : Char) (rest : List Char) : Except PatternError (State × List Char) :=
  let f := s.flags
  match c with
  | '(' => readGroup s rest
  | ')' => do return (← s.closeGroup, rest)
  | '|' => .ok (s.branch, rest)
  | '[' => do
    let (b, rest) := openBracket f rest
    let (c, rest) ← readBracket f (rest.length + 1) b [] rest
    return ({ s with items := some ⟨.chars c.chars, c.depth⟩ :: s.items }, rest)
  | '?' => do return (← s.repeatLast 0 (some 1), dropLazy rest)
  | '*' => do return (← s.repeatLast 0 none, dropLazy rest)
  | '+' => do return (← s.repeatLast 1 none, dropLazy rest)
  | '\x7b' => readTimes s rest
  | '\\' => do
    match ← readEscape f rest with
    | (.literal c, rest) => return (s.add (literal f c), rest)
    | (.chars c, rest) => return (s.add (.chars c), rest)
    | (.anchor a, rest) => return (s.add (.anchor a), rest)
  | '.' => do return (s.add (.chars (← dotClass f)), rest)
  | '^' =>
    let a : Anchor :=
      if !f.multiLine then .textStart else if f.pairedEnds then .lineStartPaired else .lineStart
    .ok (s.add (.anchor a), rest)
  | '$' =>
    let a : Anchor :=
      if !f.multiLine then .textEnd else if f.pairedEnds then .lineEndPaired else .lineEnd
    .ok (s.add (.anchor a), rest)
  | c => .ok (s.add (literal f c), rest)

/-- Reads parts until the text ends. Every part takes a character, so `fuel` need not exceed the length
of the text. -/
def readParts : Nat → State → List Char → Except PatternError Part
  | 0, _, _ => .error .tooLarge
  | fuel + 1, s, cs =>
    match skip s.flags cs with
    | [] => if s.outer.isEmpty then .ok s.value else .error .groupUnclosed
    | c :: rest => do
      let (s, rest) ← step s c rest
      readParts fuel s rest

end Reader

/-- The greatest depth to which the parts of a pattern may be nested. -/
def maxDepth : Nat := 250

/-- Reads a pattern, however large it may become. -/
def read (text : String) : Except PatternError Pattern := do
  let cs := text.toList
  let p ← Reader.readParts (cs.length + 1) {} cs
  if maxDepth < p.depth then throw .nestedTooDeep
  return p.pattern

end UsbInventory.Pattern
