import Switchboard.Call.Status
import Switchboard.Duration
import Switchboard.Error

namespace Switchboard

abbrev CallId := UInt64

structure CallResult where
  status : CallStatus
  duration : Duration
  callId : CallId
deriving DecidableEq

def CallResult.unserviced (status : CallStatus) (callId : CallId) : CallResult :=
  ⟨status, .zero, callId⟩

abbrev Outcome := Except DispatchError CallResult

end Switchboard
