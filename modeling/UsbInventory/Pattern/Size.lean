/-
How large the automata of a pattern become, in bytes, and the limit on that. A pattern has two automata,
which match it forwards and backwards; both consist of states of 32 bytes, to which states with several
ways on add 8 bytes for each range of bytes and 4 for each choice.
-/
import UsbInventory.Pattern.Reader
import UsbInventory.Pattern.Shape
import UsbInventory.Text.Utf8Ranges

namespace UsbInventory.Pattern

open Text (CodeSet)

/-- The sizes of the automata that match forwards and backwards. -/
structure AutomatonSize where
  forward : Nat
  backward : Nat
  deriving DecidableEq, Repr

namespace AutomatonSize

/-- The same size in both directions. -/
def both (n : Nat) : AutomatonSize := ⟨n, n⟩

def add (a b : AutomatonSize) : AutomatonSize := ⟨a.forward + b.forward, a.backward + b.backward⟩

/-- The size of `n` copies. -/
def copies (n : Nat) (a : AutomatonSize) : AutomatonSize := ⟨n * a.forward, n * a.backward⟩

/-- The sum of sizes. -/
def total (as : List AutomatonSize) : AutomatonSize := as.foldr add (both 0)

/-! ## States -/

/-- A state with at most one way on. -/
def state : Nat := 32

/-- A state that goes on by one of `n` ranges of bytes. -/
def rangesState (n : Nat) : Nat := 32 + 8 * n

/-- A state that goes on in one of `n` ways without taking a byte. -/
def choiceState (n : Nat) : Nat := 32 + 4 * n

/-! ## Classes -/

/-- Members of a list that follow each other and have the same key, under that key. -/
def grouped {α β : Type} [BEq α] : List (α × β) → List (α × List β)
  | [] => []
  | (a, b) :: rest =>
    match grouped rest with
    | (c, bs) :: more => if a == c then (a, b :: bs) :: more else (a, [b]) :: (c, bs) :: more
    | [] => [(a, [b])]

/-- The number of different first byte ranges, and what may follow each of them. -/
def firstRanges (qs : List Text.Utf8Ranges.ByteRanges) :
    List ((Nat × Nat) × List Text.Utf8Ranges.ByteRanges) :=
  grouped (qs.filterMap fun q => q.head?.map fun r => (r, q.tail))

/-- What is left of sequences of byte ranges after each of their beginnings, as long as something is:
the states of an automaton that goes through them. -/
def remainders : Nat → List Text.Utf8Ranges.ByteRanges → List (List Text.Utf8Ranges.ByteRanges)
  | 0, _ => []
  | fuel + 1, qs =>
    if qs.all (·.isEmpty) then []
    else qs :: (firstRanges qs).flatMap fun (_, rests) => remainders fuel rests

/-- The length of what two sequences both begin with. -/
def commonLength {α : Type} [BEq α] : List α → List α → Nat
  | a :: as, b :: bs => if a == b then commonLength as bs + 1 else 0
  | _, _ => 0

/-- The number of different beginnings of sequences that are in order, after `last`. -/
def beginnings (last : Text.Utf8Ranges.ByteRanges) : List Text.Utf8Ranges.ByteRanges → Nat
  | [] => 0
  | q :: rest => q.length - commonLength last q + beginnings q rest

/-- The states for a class and the one after it. A class of ASCII takes one state; of any other, what is
left of the sequences takes states that are shared forwards, and their beginnings backwards. -/
def ofClass (c : CodeSet) : AutomatonSize :=
  if (c.except ClassName.ascii).isEmpty then both (state + rangesState c.runs.length)
  else
    let qs := Text.Utf8Ranges.ofSet c
    let forward := (remainders 5 qs).eraseDups.foldl (fun n r => n + rangesState (firstRanges r).length) 0
    ⟨state + forward, state + choiceState qs.length + state * beginnings [] qs⟩

/-! ## Choices between texts -/

/-- Splits a list at the empty lists in it. -/
def pieces {α : Type} : List (List α) → List (List (List α))
  | [] => [[]]
  | [] :: rest => [] :: pieces rest
  | w :: rest =>
    match pieces rest with
    | [] => [[w]]
    | piece :: more => (w :: piece) :: more

/-- Members of a list that have the same key, under that key, wherever they stand. -/
def gathered (ws : List (List UInt8)) : List (UInt8 × List (List UInt8)) :=
  let firsts := (ws.filterMap List.head?).eraseDups
  firsts.map fun b => (b, (ws.filter (·.head? == some b)).map List.tail)

/-- The states of a tree of words, where `fuel` bounds their length. A word that ends where others go on
divides those before it from those after it. -/
def treeSize : Nat → List (List UInt8) → Nat
  | 0, _ => 0
  | fuel + 1, ws =>
    let later := ws.dropWhile (·.isEmpty)
    if later.isEmpty then 0
    else
      let first := if later.length < ws.length then [[]] else []
      let all := first ++ pieces later
      let filled := all.filter (!·.isEmpty)
      let ways := filled.length + all.length - 1
      let sizes := filled.map fun piece =>
        let next := gathered piece
        let here := if next.length = 1 then state else rangesState next.length
        next.foldl (fun n (_, rests) => n + treeSize fuel rests) here
      sizes.foldl (· + ·) (if ways = 1 then 0 else choiceState ways)

/-- The text of a shape that is one. -/
def text? : Shape → Option (List Char)
  | .literal cs => some cs
  | _ => none

/-- The states for a choice between texts. -/
def ofTexts (texts : List (List Char)) : AutomatonSize :=
  let words := texts.map Text.Utf8.encode
  let fuel := words.foldl (fun n w => max n w.length) 0 + 1
  ⟨state + treeSize fuel words, state + treeSize fuel (words.map List.reverse)⟩

/-! ## Shapes -/

/-- The states for a repetition of what takes `a`; `takes` tells whether every round takes a
character. -/
def ofTimes (a : AutomatonSize) (takes : Bool) (low : Nat) : Option Nat → AutomatonSize
  | none =>
    if low = 0 then
      if takes then (both (choiceState 2)).add a
      else (both (choiceState 2 + choiceState 2 + state)).add a
    else (both (choiceState 2)).add (a.copies low)
  | some high =>
    if low = 0 ∧ high = 1 then (both (choiceState 2 + state)).add a
    else
      let required := if low = 0 then both state else a.copies low
      if low = high then required
      else (required.add (both state)).add (((both (choiceState 2)).add a).copies (high - low))

mutual

/-- The states for a shape. -/
def ofShape : Shape → AutomatonSize
  | .literal cs => both (state * (Text.Utf8.encode cs).length)
  | .chars c => ofClass c
  | .anchor _ => both state
  | .seq [] => both state
  | .seq (p :: ps) => (ofShape p).add (total (ofShapes ps))
  | .alt ps =>
    match ps.mapM text? with
    | some texts => ofTexts texts
    | none => (both (choiceState ps.length + state)).add (total (ofShapes ps))
  | .times p low high => ofTimes (ofShape p) (p.minLength?.any (0 < ·)) low high
  | .group p => (ofShape p).add ⟨2 * state, 0⟩

def ofShapes : List Shape → List AutomatonSize
  | [] => []
  | p :: ps => ofShape p :: ofShapes ps

end

/-! ## Whole automata -/

mutual

/-- Whether every match of a shape begins (or, if `atEnd`, ends) where an anchor holds. -/
def isBound (atEnd : Bool) (a : Anchor) : Shape → Bool
  | .anchor b => a == b
  | .seq ps => if atEnd then isBoundLast a ps else isBoundFirst a ps
  | .alt ps => areBound atEnd a ps
  | .times p low _ => 0 < low && isBound atEnd a p
  | .group p => isBound atEnd a p
  | _ => false

/-- Whether a sequence begins with an anchor, maybe after parts that take no character. -/
def isBoundFirst (a : Anchor) : List Shape → Bool
  | [] => false
  | p :: ps => isBound false a p || (p.isZeroWidth && isBoundFirst a ps)

/-- Whether a sequence ends with an anchor, maybe before parts that take no character. -/
def isBoundLast (a : Anchor) : List Shape → Bool
  | [] => false
  | p :: ps => isBoundLast a ps || (Shape.areZeroWidth ps && isBound true a p)

def areBound (atEnd : Bool) (a : Anchor) : List Shape → Bool
  | [] => true
  | p :: ps => isBound atEnd a p && areBound atEnd a ps

end

/-- The states with which a search begins: they skip bytes unless matches are bound to the start. -/
def searchSize (isFixed : Bool) : Nat :=
  if isFixed then state else choiceState 2 + rangesState 1 + state

/-- The sizes of the automata of a shape. -/
def ofPattern (p : Shape) : AutomatonSize :=
  (ofShape p).add
    ⟨searchSize (isBound false .textStart p) + 3 * state, searchSize (isBound true .textEnd p) + state⟩

end AutomatonSize

/-- The greatest size of an automaton, in bytes. -/
def maxSize : Nat := 10485760

/-- Whether the automata of a pattern are small enough. -/
def fits (p : Pattern) : Bool :=
  let size := AutomatonSize.ofPattern p.shape
  size.forward ≤ maxSize && size.backward ≤ maxSize

/-- Reads a pattern that is not too large. -/
def parse (text : String) : Except PatternError Pattern := do
  let p ← read text
  if !p.fits then throw .tooLarge
  return p

end UsbInventory.Pattern
