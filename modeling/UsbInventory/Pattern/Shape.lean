/-
Patterns in a simple form, in which one character is always written as text, neighbouring texts are one,
sequences and choices are flat, a choice between single characters is a class, and what all alternatives
begin with stands before the choice. The size of a pattern's automaton is that of its simple form.
-/
import UsbInventory.Pattern.Basic
import UsbInventory.Text.Utf8

namespace UsbInventory.Pattern

open Text (CodeSet)

/-- A pattern in simple form. The empty sequence matches the empty text, and the empty class nothing. -/
inductive Shape where
  | literal (cs : List Char)
  | chars (c : CodeSet)
  | anchor (a : Anchor)
  | seq (parts : List Shape)
  | alt (branches : List Shape)
  | times (p : Shape) (low : Nat) (high : Option Nat)
  | group (p : Shape)

namespace Shape

/-! ## Comparing -/

mutual

/-- Whether two shapes are the same. No two groups are, since each has a match of its own. -/
def same : Shape → Shape → Bool
  | literal a, literal b => a == b
  | chars a, chars b => a == b
  | anchor a, anchor b => a == b
  | seq ps, seq qs => sameAll ps qs
  | alt ps, alt qs => sameAll ps qs
  | times p low high, times q low' high' => low == low' && high == high' && same p q
  | _, _ => false

/-- Whether two lists of shapes are the same. -/
def sameAll : List Shape → List Shape → Bool
  | [], [] => true
  | p :: ps, q :: qs => same p q && sameAll ps qs
  | _, _ => false

end

/-! ## Lengths -/

mutual

/-- The least number of characters that a shape takes; none if it never matches. -/
def minLength? : Shape → Option Nat
  | literal cs => some cs.length
  | chars c => if c.isEmpty then none else some 1
  | anchor _ => some 0
  | seq ps => minLengthSeq? ps
  | alt ps => minLengthAlt? ps
  | times p low _ => (minLength? p).map (low * ·)
  | group p => minLength? p

/-- The least number of characters that a sequence takes. -/
def minLengthSeq? : List Shape → Option Nat
  | [] => some 0
  | p :: ps => do return (← minLength? p) + (← minLengthSeq? ps)

/-- The least number of characters that a choice takes, provided that every branch can match. -/
def minLengthAlt? : List Shape → Option Nat
  | [] => none
  | [p] => minLength? p
  | p :: ps => do return min (← minLength? p) (← minLengthAlt? ps)

end

mutual

/-- Whether a shape takes no character wherever it matches. -/
def isZeroWidth : Shape → Bool
  | literal cs => cs.isEmpty
  | chars _ => false
  | anchor _ => true
  | seq ps => areZeroWidth ps
  | alt ps => areZeroWidth ps
  | times p _ _ => isZeroWidth p
  | group p => isZeroWidth p

def areZeroWidth : List Shape → Bool
  | [] => true
  | p :: ps => isZeroWidth p && areZeroWidth ps

end

/-! ## Building -/

def empty : Shape := seq []

/-- A class; one character is a text. -/
def ofChars (c : CodeSet) : Shape :=
  match c.runs with
  | [(first, last)] => if first = last then literal [Char.ofNat first] else chars c
  | _ => chars c

/-- The parts of a shape as a sequence. -/
def parts : Shape → List Shape
  | seq ps => ps
  | p => [p]

/-- The branches of a shape as a choice. -/
def branches : Shape → List Shape
  | alt ps => ps
  | p => [p]

def ofParts : List Shape → Shape
  | [p] => p
  | ps => seq ps

/-- Puts a part before others; two texts in a row become one. -/
def consPart : Shape → List Shape → List Shape
  | literal a, literal b :: rest => literal (a ++ b) :: rest
  | p, rest => p :: rest

/-- One shape after the other. -/
def append (p q : Shape) : Shape := ofParts (p.parts.foldr consPart q.parts)

/-- The class of a shape that takes exactly one character of a class. -/
def class? : Shape → Option CodeSet
  | chars c => some c
  | _ => none

/-- The class of a shape that is one given character. -/
def character? : Shape → Option CodeSet
  | literal [c] => some (.single c)
  | _ => none

/-- The number of parts with which two sequences both begin. -/
def commonLength : List Shape → List Shape → Nat
  | p :: ps, q :: qs => if same p q then commonLength ps qs + 1 else 0
  | _, _ => 0

/-- The parts of a shape that is a sequence of several. -/
def sequence? : Shape → Option (List Shape)
  | seq ps => some ps
  | _ => none

/-- A choice between shapes, where what they have in common is not looked for. -/
def choice (ps : List Shape) : Shape :=
  match ps.flatMap branches with
  | [] => chars .empty
  | [p] => p
  | ps =>
    match ps.mapM character? <|> ps.mapM class? with
    | some cs => ofChars (.unions cs)
    | none => alt ps

/-- A choice between shapes. -/
def ofBranches (ps : List Shape) : Shape :=
  match (ps.flatMap branches).mapM sequence? with
  | some (first :: second :: more) =>
    match (second :: more).foldl (fun n q => min n (commonLength first q)) first.length with
    | 0 => choice ps
    | n =>
      append (ofParts (first.take n))
        (choice ((first :: second :: more).map fun q => ofParts (q.drop n)))
  | _ => choice ps

/-- A repetition. What takes no character is not repeated more than once. -/
def ofTimes (p : Shape) (low : Nat) (high : Option Nat) : Shape :=
  let (low, high) := if p.isZeroWidth then (min low 1, some (min (high.getD 1) 1)) else (low, high)
  if high = some 0 then empty
  else if low = 1 ∧ high = some 1 then p
  else times p low high

/-! ## Anchors -/

mutual

/-- The anchors of a shape. -/
def anchors : Shape → List Anchor
  | anchor a => [a]
  | seq ps => anchorsOfAll ps
  | alt ps => anchorsOfAll ps
  | times p _ _ => anchors p
  | group p => anchors p
  | _ => []

def anchorsOfAll : List Shape → List Anchor
  | [] => []
  | p :: ps => anchors p ++ anchorsOfAll ps

end

end Shape

/-- The alternatives of a pattern in simple form. -/
def branchShapes : Pattern → List Shape
  | empty => [.empty]
  | chars c => [.ofChars c]
  | anchor a => [.anchor a]
  | seq p q => [.append (.ofBranches (branchShapes p)) (.ofBranches (branchShapes q))]
  | alt p q => branchShapes p ++ branchShapes q
  | times p low high => [.ofTimes (.ofBranches (branchShapes p)) low high]
  | group remembered p =>
    let inner := Shape.ofBranches (branchShapes p)
    [if remembered then .group inner else inner]

/-- The simple form of a pattern. -/
def shape (p : Pattern) : Shape := .ofBranches (branchShapes p)

end UsbInventory.Pattern
