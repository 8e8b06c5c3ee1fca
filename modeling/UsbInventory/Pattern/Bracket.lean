/-
Classes of characters in brackets. A bracket holds characters, ranges, escapes, named classes and other
brackets, and combines sets of them by operators. It is read with the depth to which it is nested, where
a bracket, a union of several members and an operator count one each.
-/
import UsbInventory.Pattern.Escape

namespace UsbInventory.Pattern.Reader

open Text (CodeSet)

/-- How two sets in brackets are combined. -/
inductive ClassOp where
  | intersection | difference | symmetric

def ClassOp.apply : ClassOp → CodeSet → CodeSet → CodeSet
  | intersection, a, b => a.inter b
  | difference, a, b => a.except b
  | symmetric, a, b => a.symmetric b

/-- A set of characters with the depth of its written form. -/
structure NestedClass where
  chars : CodeSet
  depth : Nat

/-- A bracket that is open: whether it is a complement, the left side of an operator that waits, and
of the members read since their union, their number and their greatest depth. -/
structure Bracket where
  negated : Bool
  left : Option (ClassOp × NestedClass) := none
  members : CodeSet := .empty
  count : Nat := 0
  depth : Nat := 0

namespace Bracket

/-- The set read so far. -/
def value (b : Bracket) : NestedClass :=
  let right := ⟨b.members, if 2 ≤ b.count then b.depth + 1 else b.depth⟩
  match b.left with
  | none => right
  | some (op, left) => ⟨op.apply left.chars right.chars, max left.depth right.depth + 1⟩

def add (b : Bracket) (c : NestedClass) : Bracket :=
  { b with
    members := b.members.union c.chars, count := b.count + 1, depth := max b.depth c.depth }

/-- Begins the right side of an operator. -/
def combine (b : Bracket) (op : ClassOp) : Bracket :=
  { b with left := some (op, b.value), members := .empty, count := 0, depth := 0 }

end Bracket

/-- Takes the dashes at the start of a bracket, which stand for themselves. -/
def leadingDashes (f : Flags) : Nat → List Char → Bracket → Bracket × List Char
  | fuel + 1, '-' :: rest, b => leadingDashes f fuel (skip f rest) (b.add ⟨.single '-', 0⟩)
  | _, cs, b => (b, cs)

/-- Opens a bracket, after its `[`. A `]` right at its start stands for itself. -/
def openBracket (f : Flags) (cs : List Char) : Bracket × List Char :=
  let (negated, cs) :=
    match skip f cs with
    | '^' :: rest => (true, skip f rest)
    | cs => (false, cs)
  let (b, rest) := leadingDashes f cs.length cs { negated }
  match b.count, rest with
  | 0, ']' :: rest => (b.add ⟨.single ']', 0⟩, rest)
  | _, rest => (b, rest)

/-- Reads a set named between `[:` and `:]`, after its first bracket. -/
def readBracketName? (cs : List Char) : Option (Bool × CodeSet × List Char) :=
  match cs with
  | ':' :: rest =>
    let (negated, rest) :=
      match rest with
      | '^' :: rest => (true, rest)
      | rest => (false, rest)
    match rest.dropWhile (· != ':') with
    | ':' :: ']' :: after =>
      (ClassName.ofBracketName? (String.ofList (rest.takeWhile (· != ':')))).map fun c =>
        (negated, c, after)
    | _ => none
  | _ => none

/-- Reads one member of a bracket: an escape or a literal character. -/
def readMember (f : Flags) : List Char → Except PatternError (Primitive × List Char)
  | [] => .error .classUnclosed
  | '\\' :: rest => readEscape f rest
  | c :: rest => .ok (.literal c, rest)

/-- A member that stands alone. -/
def memberClass (f : Flags) : Primitive → Except PatternError CodeSet
  | .literal c => literalClass f c
  | .chars c => .ok c
  | .anchor _ => .error .classEscapeInvalid

/-- The next character after a dash that may be part of a range. A `#` and the blanks around it are
passed over where the pattern is verbose. -/
def peekAfterDash (f : Flags) (cs : List Char) : Option Char :=
  if !f.verbose then cs.head?
  else
    match cs.dropWhile Text.isBlank with
    | '#' :: rest => (rest.dropWhile Text.isBlank).head?
    | rest => rest.head?

/-- Reads a member of a bracket or a range of characters. A dash before `]` or another dash is none of a
range. -/
def readRange (f : Flags) (cs : List Char) : Except PatternError (CodeSet × List Char) := do
  let (low, rest) ← readMember f cs
  match skip f rest with
  | [] => throw .classUnclosed
  | '-' :: after =>
    let next := peekAfterDash f after
    if next = some ']' ∨ next = some '-' then return (← memberClass f low, '-' :: after)
    else
      let (high, rest) ← readMember f (skip f after)
      match low, high with
      | .literal a, .literal b =>
        if a ≤ b then
          if f.unicode || b.toNat < 0x80 then return (fold f (.range a b), rest)
          else throw .beyondText
        else throw .classRangeInvalid
      | _, _ => throw .classRangeLiteral
  | rest => return (← memberClass f low, rest)

/-- Reads a bracket to its end. `outer` are the brackets around it, nearest first. Every part takes a
character, so `fuel` need not exceed the length of the text. -/
def readBracket (f : Flags) : Nat → Bracket → List Bracket → List Char →
    Except PatternError (NestedClass × List Char)
  | 0, _, _, _ => .error .classUnclosed
  | fuel + 1, b, outer, cs =>
    match skip f cs with
    | [] => .error .classUnclosed
    | '[' :: rest =>
      match readBracketName? rest with
      | some (negated, c, after) => do
        readBracket f fuel (b.add ⟨← complementIf f negated (fold f c), 0⟩) outer after
      | none =>
        let (inner, rest) := openBracket f rest
        readBracket f fuel inner (b :: outer) rest
    | ']' :: rest => do
      let value := b.value
      let c : NestedClass := ⟨← complementIf f b.negated value.chars, value.depth + 1⟩
      match outer with
      | [] => return (c, rest)
      | next :: outer => readBracket f fuel (next.add c) outer rest
    | '&' :: '&' :: rest => readBracket f fuel (b.combine .intersection) outer rest
    | '-' :: '-' :: rest => readBracket f fuel (b.combine .difference) outer rest
    | '~' :: '~' :: rest => readBracket f fuel (b.combine .symmetric) outer rest
    | cs => do
      let (c, rest) ← readRange f cs
      readBracket f fuel (b.add ⟨c, 0⟩) outer rest

end UsbInventory.Pattern.Reader
