/-
Why an exchange between requesters and the worker fails, and the errors of the service as a whole.
-/

namespace UsbInventory

/-- Why an end of a channel cannot go on. -/
inductive ChannelError where
  /-- Nobody is left to receive. -/
  | unheard
  /-- Nothing is queued, and nobody is left to send. -/
  | exhausted
  deriving DecidableEq, Repr

def ChannelError.text : ChannelError → String
  | unheard => "sending into a closed channel"
  | exhausted => "receiving from an empty and closed channel"

/-- An error of the service that runs passes. -/
inductive ServiceError where
  | discovery (text : String)
  | channel (text : String)
  | configuration (text : String)
  deriving DecidableEq, Repr

namespace ServiceError

def message : ServiceError → String
  | discovery text => "Discovery error: " ++ text
  | channel text => "Channel error: " ++ text
  | configuration text => "Configuration error: " ++ text

/-- A failed exchange as an error of the service. -/
def ofChannel (e : ChannelError) : ServiceError := channel e.text

end ServiceError

end UsbInventory
