/-
The bridge as a registry: what a pass tells it is sent on to the requesters. A pass never learns that nobody
listens any more; the log does.
-/
import UsbInventory.Bridge.Basic

namespace UsbInventory

/-- What the log says about a call that could not be sent on. -/
def RegistryCall.unforwarded (call : RegistryCall) (e : ChannelError) : Log.Event :=
  let what := match call with
    | .register d => "device " ++ d.session.display
    | .endOfPass _ => "end of pass"
  { level := .error, target := "enumerator::registry",
    message := s!"Failed to forward {what}: " ++ (ServiceError.ofChannel e).message }

namespace Bridge

/-- Sends a call on, or says `none` while there is no room for it. -/
def forward? (b : Bridge) (call : RegistryCall) : Option (Bridge × List Log.Event) :=
  match b.send call with
  | (b, .done ()) => some (b, [])
  | (b, .failed e) => some (b, [call.unforwarded e])
  | (_, .pending) => none

/-- Sends a call on; a call for which there is no room is lost. -/
def forward (b : Bridge) (call : RegistryCall) : Bridge × List Log.Event :=
  (b.forward? call).getD (b, [])

end Bridge

end UsbInventory
