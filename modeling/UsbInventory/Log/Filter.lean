/-
Log filters. A filter is a list of directives. Of the directives that apply to an event the most specific
decides, and of two for the same target and fields the later; an event to which none applies is not
shown.
-/
import UsbInventory.Log.Directive

namespace UsbInventory.Log

/-- The directives in force. -/
structure Filter where
  directives : List Directive
  deriving DecidableEq, Repr

namespace Filter

/-- Reads directives that are separated by commas. -/
def parse? (cs : List Char) : Option Filter :=
  ((Text.runsOf (· != ',') cs).mapM Directive.read?).map Filter.mk

/-- The parts of the program whose events follow the configured level. -/
def ownTargets : List String := ["enumerator", "common", "identity", "usb_enum"]

/-- The filter for a configured level; from elsewhere only warnings are shown. -/
def standard (level : Level) : Filter :=
  ⟨{ rank := Level.warn.rank } ::
    ownTargets.map fun target => { target := some target, rank := level.rank }⟩

/-- The directive that decides about an event. -/
def deciding? (f : Filter) (e : Event) : Option Directive :=
  (f.directives.filter (·.applies e)).foldl
    (fun best d =>
      match best with
      | none => some d
      | some b => if b.decidesBefore d then some b else some d)
    none

/-- Whether an event is shown. -/
def shows (f : Filter) (e : Event) : Bool := (f.deciding? e).any fun d => e.level.rank ≤ d.rank

end Filter

end UsbInventory.Log
