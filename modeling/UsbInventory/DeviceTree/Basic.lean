/-
Device trees as a pass sees them: a tree opens nodes by their path, and a node answers for integer
properties by name. `Reading` keeps one look-up together with its answer, and `IntProperty` says what
the answer means where one value is wanted.
-/
import UsbInventory.Files.Error
import UsbInventory.Log.Event
import UsbInventory.Path.Node

namespace UsbInventory

/-- The answer to a look-up of an integer property. -/
inductive PropLookup where
  /-- The property is there, with these values; there may be none. -/
  | values (vs : List Int)
  /-- The property is not there or could not be read. -/
  | absent (cause : FileError)
  deriving DecidableEq

/-- An open node. -/
structure DeviceNode where
  lookup : String → PropLookup

/-- A source of nodes. -/
structure DeviceTree where
  openNode : NodePath → Except FileError DeviceNode

/-- What a look-up means where exactly one value is wanted. -/
inductive IntProperty where
  | found (value : Int)
  | empty
  | missing
  | multiple (count : Nat)
  deriving DecidableEq, Repr

namespace IntProperty

/-- The meaning of an answer. -/
def ofLookup : PropLookup → IntProperty
  | .values [v] => found v
  | .values [] => empty
  | .values vs => multiple vs.length
  | .absent _ => missing

/-- Whether the property is there, whatever its values. -/
def isPresent : IntProperty → Bool
  | missing => false
  | _ => true

/-- The value, where there is exactly one. -/
def value? : IntProperty → Option Int
  | found v => some v
  | _ => none

end IntProperty

/-- One look-up on a node, with its answer. -/
structure Reading where
  property : String
  answer : PropLookup
  deriving DecidableEq

namespace Reading

/-- Looks up a property. -/
def take (node : DeviceNode) (property : String) : Reading := ⟨property, node.lookup property⟩

def outcome (r : Reading) : IntProperty := IntProperty.ofLookup r.answer

/-- Where look-ups are logged. -/
def logTarget : String := "enumerator::devtree"

/-- What the log says about the answer. -/
def answerText (r : Reading) : String :=
  match r.answer with
  | .values [v] => s!"found {r.property} = {v}"
  | .values [] => s!"property \"{r.property}\" is empty"
  | .values vs => s!"got {vs.length} values of \"{r.property}\""
  | .absent cause => s!"failed to get property \"{r.property}\": " ++ cause.message

def events (r : Reading) : List Log.Event :=
  [{ level := .trace, target := logTarget, message := s!"looking for \"{r.property}\" property" },
    { level := .trace, target := logTarget, message := r.answerText }]

end Reading

end UsbInventory
