/-
Log events: a level, the part of the program that speaks, a message and named values. A line for the
terminal holds nothing that could steer it.
-/
import UsbInventory.Text.Quoted

namespace UsbInventory.Log

/-- How severe an event is, most severe first. -/
inductive Level where
  | error | warn | info | debug | trace
  deriving DecidableEq, Repr

namespace Level

def all : List Level := [error, warn, info, debug, trace]

/-- The rank of a level; a greater rank tells more. -/
def rank : Level → Nat
  | error => 1
  | warn => 2
  | info => 3
  | debug => 4
  | trace => 5

/-- The level as log lines show it. -/
def label : Level → String
  | error => "ERROR"
  | warn => "WARN"
  | info => "INFO"
  | debug => "DEBUG"
  | trace => "TRACE"

/-- The level as settings spell it. -/
def name : Level → String
  | error => "error"
  | warn => "warn"
  | info => "info"
  | debug => "debug"
  | trace => "trace"

def ofName? (s : String) : Option Level := all.find? (·.name == s)

end Level

/-- One event. -/
structure Event where
  level : Level
  target : String
  message : String
  fields : List (String × String) := []
  deriving DecidableEq, Repr

/-- The control characters of seven bits that can steer a terminal. -/
def steering : List Char := ['\x07', '\x08', '\x0c', '\x1b', '\x7f']

/-- A character of a message as it is sent to a terminal. -/
def terminalChar (c : Char) : List Char :=
  if steering.contains c then ("\\x" ++ Text.hexPadded 2 c.toNat).toList
  else if 0x80 ≤ c.toNat && c.toNat ≤ 0x9f then ("\\u\x7b" ++ Text.hex c.toNat ++ "\x7d").toList
  else [c]

namespace Event

/-- A message followed by the named values. -/
def withFields (e : Event) (message : String) : String :=
  e.fields.foldl (fun text (key, value) => s!"{text} {key}={value}") message

/-- The line of an event without its target. -/
def line (e : Event) : String := e.level.label ++ " " ++ e.withFields e.message

/-- The line of an event with its target, for a terminal. -/
def targetedLine (e : Event) : String :=
  let message := String.ofList (e.message.toList.flatMap terminalChar)
  s!"{e.level.label} {e.target}: {e.withFields message}"

end Event

end UsbInventory.Log
