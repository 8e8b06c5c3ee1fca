/-
Directives of log filters and their written form, `target[span{field=value}]=level` with most parts
optional. A directive gives a level to the events whose targets begin in a given way and which have given
fields.
-/
import UsbInventory.Log.Event
import UsbInventory.Number.Numeral
import UsbInventory.Pattern.Size
import UsbInventory.Text.Category
import UsbInventory.Text.Utf8

namespace UsbInventory.Log

/-- One directive. -/
structure Directive where
  /-- How targets begin that the directive is for; all of them if there is none. -/
  target : Option String := none
  /-- The fields that an event must have. -/
  fields : List String := []
  /-- Whether the directive is only for what happens inside a span, or for fields with given values,
  which are looked for in spans only. -/
  inSpan : Bool := false
  /-- The rank of the last level that is shown; nothing is shown at zero. -/
  rank : Nat := Level.trace.rank
  deriving DecidableEq, Repr

/-! ## Levels and values -/

/-- The greatest number that is read as a level. -/
def maxNumber : Nat := 18446744073709551615

/-- The rank that a level stands for: its number, or its name in any case. -/
def rankOf? (cs : List Char) : Option Nat :=
  let named := if String.ofList (cs.map Char.toLower) == "off" then some 0
    else (Level.ofName? (String.ofList (cs.map Char.toLower))).map Level.rank
  match Numeral.unsigned 10 maxNumber cs with
  | .ok n => if n ≤ Level.trace.rank then some n else none
  | .error _ => if cs.isEmpty then some Level.error.rank else named

/-- A text without one sign at its start. -/
def dropSign : List Char → List Char
  | '+' :: rest => rest
  | '-' :: rest => rest
  | cs => cs

/-- Whether a text is an exponent, or nothing. -/
def isExponent : List Char → Bool
  | [] => true
  | c :: rest =>
    (c == 'e' || c == 'E') && !(dropSign rest).isEmpty && (dropSign rest).all Char.isDigit

/-- Whether a text is a decimal number, with or without fraction and exponent, or the name of a number
that is none. -/
def isDecimal (cs : List Char) : Bool :=
  let cs := dropSign cs
  let whole := cs.takeWhile Char.isDigit
  let (fraction, rest) :=
    match cs.dropWhile Char.isDigit with
    | '.' :: rest => (rest.takeWhile Char.isDigit, rest.dropWhile Char.isDigit)
    | rest => ([], rest)
  ["inf", "infinity", "nan"].contains (String.ofList (cs.map Char.toLower)) ||
    (!(whole ++ fraction).isEmpty && isExponent rest)

/-- Whether values can be searched for a pattern: its automaton knows the boundaries of words in ASCII
only. -/
def isSearchable (text : String) : Bool :=
  match Pattern.read text with
  | .ok p => (p.shape.anchors.filterMap Anchor.word?).all (· == ClassName.asciiWord)
  | .error _ => false

/-! ## Reading -/

namespace Directive

/-- Whether a directive may begin with a character, other than the bracket of a span. -/
def opens (c : Char) : Bool := c == '-' || c == ':' || c == '_' || Text.isAlphanumeric c

/-- What a reader of a directive is in, with the position where that began. -/
inductive Stage where
  | opening
  | word (start : Nat)
  | span (start : Nat)
  | field (start : Nat)
  | afterField
  | afterSpan
  | level (start : Nat)

/-- Adds a field that a directive asks for. A value is a number or a pattern. -/
def addField (d : Directive) (field : List Char) : Option Directive :=
  let name := String.ofList (field.takeWhile (· != '='))
  match field.dropWhile (· != '=') with
  | [] => if field.isEmpty then none else some { d with fields := d.fields ++ [name] }
  | _ :: more =>
    let value := more.takeWhile (· != '=')
    if isDecimal value || isSearchable (String.ofList value) then
      some { d with fields := d.fields ++ [name], inSpan := true }
    else none

/-- Takes the character at a position; `cut` cuts the part between two positions out of the text. -/
def step (cut : Nat → Nat → Option (List Char)) (d : Directive) (at_ : Nat) (c : Char) :
    Stage → Option (Directive × Stage)
  | .opening =>
    if c = '[' then some (d, .span (at_ + 1)) else if opens c then some (d, .word at_) else none
  | .word start =>
    if c = '=' ∨ c = '[' then do
      let target ← cut start at_
      let next := if c = '=' then Stage.level (at_ + 1) else .span (at_ + 1)
      return ({ d with target := some (String.ofList target) }, next)
    else some (d, .word start)
  | .span start =>
    if c = ']' then do
      let _ ← cut start at_
      return ({ d with inSpan := true }, .afterSpan)
    else if c = '\x7b' then do
      let name ← cut start at_
      return ({ d with inSpan := !name.isEmpty }, .field (at_ + 1))
    else some (d, .span start)
  | .field start =>
    if c = '\x7d' then do
      let field ← cut start at_
      return (← d.addField field, .afterField)
    else some (d, .field start)
  | .afterField => if c = ']' then some (d, .afterSpan) else none
  | .afterSpan => if c = '=' then some (d, .level (at_ + 1)) else none
  | .level start => some (d, .level start)

/-- Ends a directive; `rest` is the text from a position on. -/
def finish (rest : Nat → Option (List Char)) (d : Directive) : Stage → Option Directive
  | .word start => do
    let text ← rest start
    match rankOf? text with
    | some rank => return { d with rank }
    | none => return { d with target := some (String.ofList text) }
  | .level start => do
    let text ← rest start
    if text.isEmpty then return d else return { d with rank := ← rankOf? text }
  | .afterSpan => some d
  | _ => none

/-- Takes the characters from a position on. -/
def readFrom (cut : Nat → Nat → Option (List Char)) (d : Directive) (stage : Stage) (at_ : Nat) :
    List Char → Option (Directive × Stage)
  | [] => some (d, stage)
  | c :: more => do
    let (d, stage) ← step cut d at_ c stage
    readFrom cut d stage (at_ + c.utf8Size) more

/-- Reads a directive. Blanks at its ends are not read, and positions are counted from the first
character that is; but the parts are cut out of the text with its blanks. -/
def read? (cs : List Char) : Option Directive := do
  let bytes := Text.Utf8.encode cs
  let cut := fun start stop => Text.Utf8.decode? ((bytes.take stop).drop start)
  let (d, stage) ← readFrom cut {} .opening 0 (Text.trim cs)
  finish (fun start => cut start bytes.length) d stage

/-! ## Deciding -/

/-- Whether a directive is for an event. Events here are never inside a span. -/
def applies (d : Directive) (e : Event) : Bool :=
  !d.inSpan && (d.target.all fun start => start.toList.isPrefixOf e.target.toList) &&
    d.fields.all fun field => field == "message" || e.fields.any fun (key, _) => key == field

/-- How much of the target a directive fixes; naming no target is less than naming an empty one. -/
def extent (d : Directive) : Nat := (d.target.map fun start => start.utf8ByteSize + 1).getD 0

/-- Whether a directive decides before another one: it fixes more of the target, or as much and more
fields, or its target or its fields come later in the order of texts. -/
def decidesBefore (a b : Directive) : Bool :=
  if a.extent ≠ b.extent then b.extent < a.extent
  else if a.fields.length ≠ b.fields.length then b.fields.length < a.fields.length
  else if a.target ≠ b.target then b.target.getD "" < a.target.getD ""
  else b.fields < a.fields

end Directive

end UsbInventory.Log
