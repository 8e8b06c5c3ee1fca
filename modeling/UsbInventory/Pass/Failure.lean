/-
Why a whole pass fails. What concerns one group, instance or node alone never ends a pass.
-/
import UsbInventory.Identity.Error
import UsbInventory.Pattern.Error

namespace UsbInventory

/-- Why a pass fails. -/
inductive DiscoveryError where
  | rootUnreadable (path : RawPath) (cause : FileError)
  | badPattern (pattern : String) (cause : PatternError)
  | backend (text : String)

namespace DiscoveryError

/-- The wording of a pattern error is left to the reader of the pattern. -/
def message : DiscoveryError → String
  | rootUnreadable path cause => s!"Cannot open {path.display}: " ++ cause.message
  | badPattern pattern _ => "Invalid group pattern " ++ Text.quoted pattern
  | backend text => "USB backend error: " ++ text

/-- The status that a backend reports for the failure. -/
def code : DiscoveryError → BackendError
  | rootUnreadable _ _ => .access
  | badPattern _ _ => .noMemory
  | backend _ => .inputOutput

end DiscoveryError

end UsbInventory
