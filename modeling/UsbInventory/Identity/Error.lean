/-
Why a node does not become a device identity, and the status codes of backend operations.
-/
import UsbInventory.Files.Error

namespace UsbInventory

/-- Why a node is discarded. A pass goes on after each of these. -/
inductive IdentityError where
  | invalidNodePath (path : String)
  | nodeUnavailable (path : String) (cause : FileError)
  | missingProperty (property path : String)
  | noUnitAddress (path : String)
  | outOfRange (field : String) (value low high : Int)
  deriving DecidableEq

def IdentityError.message : IdentityError → String
  | invalidNodePath path => "Invalid node path: " ++ Text.quoted path
  | nodeUnavailable path cause => s!"Cannot open device node {path}: " ++ cause.message
  | missingProperty property path => s!"Required property \"{property}\" missing on {path}"
  | noUnitAddress path => s!"No unit address in device node path {path}"
  | outOfRange field value low high => s!"{field} value {value} out of range {low}..={high}"

/-- The status of a backend operation that failed. -/
inductive BackendError where
  | noDevice | notSupported | invalidParam | access | noMemory | inputOutput
  deriving DecidableEq, Repr

def BackendError.message : BackendError → String
  | noDevice => "No such device"
  | notSupported => "Operation not supported"
  | invalidParam => "Invalid parameter"
  | access => "Access denied"
  | noMemory => "Insufficient memory"
  | inputOutput => "Input/output error"

end UsbInventory
