/-
What a device-management layer may ask of a backend besides a pass. The backends here only discover
devices: releasing something is always accepted, a system clock can be read, and everything else is
answered by a status.
-/
import UsbInventory.Identity.Error

namespace UsbInventory

/-- The clock that is asked for. -/
inductive Clock where
  | realtime
  | monotonic
  | other (id : Int)
  deriving DecidableEq, Repr

/-- A backend operation. What it is applied to makes no difference to the answer. -/
inductive Operation where
  | openDevice
  | close
  | deviceDescriptor
  | activeConfigDescriptor
  | configDescriptor
  | configuration
  | setConfiguration
  | claimInterface
  | releaseInterface
  | setInterfaceAltsetting
  | clearHalt
  | resetDevice
  | destroyDevice
  | submitTransfer
  | cancelTransfer
  | clearTransferPriv
  | handleEvents
  | clockTime (clock : Clock)
  deriving DecidableEq, Repr

/-- How an operation is answered. -/
inductive OperationAnswer where
  | done
  /-- The time of the system clock. -/
  | time
  | failed (status : BackendError)
  deriving DecidableEq, Repr

/-- The answer to an operation. -/
def Operation.answer : Operation → OperationAnswer
  | close | destroyDevice | clearTransferPriv => .done
  | cancelTransfer => .failed .notSupported
  | clockTime (.other _) => .failed .invalidParam
  | clockTime _ => .time
  | _ => .failed .noDevice

end UsbInventory
