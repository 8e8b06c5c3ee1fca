/-
Patterns for the names of groups, and where they match. A pattern relates positions of a text: `ends`
gives all positions that a set of positions leads to. A name matches when some position leads
somewhere, so a pattern without anchors may match anywhere in a name.
-/
import UsbInventory.Text.CodeSet

namespace UsbInventory

/-- What is asked of a position without taking a character. -/
inductive Anchor where
  | textStart
  | textEnd
  | lineStart
  | lineEnd
  /-- Line ends where `\r\n` is one end of line. -/
  | lineStartPaired
  | lineEndPaired
  | wordBoundary (w : Text.CodeSet)
  | notWordBoundary (w : Text.CodeSet)
  | wordStart (w : Text.CodeSet)
  | wordEnd (w : Text.CodeSet)
  | wordStartHalf (w : Text.CodeSet)
  | wordEndHalf (w : Text.CodeSet)
  deriving DecidableEq, Repr

/-- A pattern. -/
inductive Pattern where
  | empty
  | chars (c : Text.CodeSet)
  | anchor (a : Anchor)
  | seq (p q : Pattern)
  | alt (p q : Pattern)
  /-- At least `low` times in a row, and at most `high` times if there is a limit. -/
  | times (p : Pattern) (low : Nat) (high : Option Nat)
  /-- A group; `remembered` tells whether its match is kept. -/
  | group (remembered : Bool) (p : Pattern)
  deriving DecidableEq, Repr

namespace Anchor

/-- Whether an anchor holds between two characters; at the ends of the text one of them is absent. -/
def holds (a : Anchor) (before after : Option Char) : Bool :=
  match a with
  | textStart => before.isNone
  | textEnd => after.isNone
  | lineStart => before.all (· == '\n')
  | lineEnd => after.all (· == '\n')
  | lineStartPaired =>
    before.all fun c => c == '\n' || (c == '\r' && after != some '\n')
  | lineEndPaired =>
    after.all fun c => c == '\r' || (c == '\n' && before != some '\r')
  | wordBoundary w => before.any w.holds != after.any w.holds
  | notWordBoundary w => before.any w.holds == after.any w.holds
  | wordStart w => !before.any w.holds && after.any w.holds
  | wordEnd w => before.any w.holds && !after.any w.holds
  | wordStartHalf w => !before.any w.holds
  | wordEndHalf w => !after.any w.holds

/-- The characters of words that an anchor goes by. -/
def word? : Anchor → Option Text.CodeSet
  | wordBoundary w | notWordBoundary w | wordStart w | wordEnd w | wordStartHalf w | wordEndHalf w =>
    some w
  | _ => none

end Anchor

/-- A set of positions of a text: for every position in order, the end included, whether it is in. -/
abbrev Places := List Bool

namespace Places

/-- All positions of a text. -/
def all (text : List Char) : Places := List.replicate (text.length + 1) true

def union (s t : Places) : Places := s.zipWith (· || ·) t

def inter (s t : Places) : Places := s.zipWith (· && ·) t

/-- The positions after one character of a class. -/
def advance (text : List Char) (c : Text.CodeSet) (s : Places) : Places :=
  false :: s.zipWith (fun here next => here && c.holds next) text

/-- The positions where an anchor holds, from the one after the character `before` on. -/
def anchored (a : Anchor) (before : Option Char) : List Char → Places
  | [] => [a.holds before none]
  | c :: rest => a.holds before (some c) :: anchored a (some c) rest

end Places

namespace Pattern

/-- Applies a step a number of times, or until it changes nothing. -/
def iterate (step : Places → Places) : Nat → Places → Places
  | 0, s => s
  | n + 1, s =>
    let next := step s
    if next = s then s else iterate step n next

/-- All positions reached by at most `n` applications of a step. -/
def within (step : Places → Places) : Nat → Places → Places
  | 0, s => s
  | n + 1, s =>
    let next := s.union (step s)
    if next = s then s else within step n next

/-- The positions that a pattern leads to from a set of positions. A round of a repetition that takes no
character can be left out or done again; so of the rounds that have to be, as many as the text has
positions are enough, and of those that may be, as many as it has characters. -/
def ends (text : List Char) : Pattern → Places → Places
  | empty, s => s
  | chars c, s => s.advance text c
  | anchor a, s => s.inter (.anchored a none text)
  | seq p q, s => ends text q (ends text p s)
  | alt p q, s => (ends text p s).union (ends text q s)
  | times p low high, s =>
    let rounds :=
      match high with
      | none => text.length
      | some high => min (high - low) text.length
    within (ends text p) rounds (iterate (ends text p) (min low (text.length + 1)) s)
  | group _ p, s => ends text p s

/-- Whether a pattern matches somewhere in a text. -/
def isMatch (p : Pattern) (text : List Char) : Bool := (ends text p (.all text)).any id

end Pattern

end UsbInventory
