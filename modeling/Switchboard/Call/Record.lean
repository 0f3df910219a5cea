import Switchboard.Call.Result
import Switchboard.Timestamp

/-! The detail record of a call: one line with eight fields. -/

namespace Switchboard

structure CallRecord where
  start : Timestamp
  ended : Option Timestamp
  callId : CallId
  status : CallStatus
  pickedUp : Option Timestamp
  operatorId : UInt64
  duration : Duration
  number : String
deriving DecidableEq

namespace CallRecord

def opened (number : String) (start : Timestamp) : CallRecord :=
  ⟨start, none, 0, .awaiting, none, 0, .zero, number⟩

def finishUnserviced (r : CallRecord) (now : Timestamp) (status : CallStatus) : CallRecord :=
  { r with
    status := status, operatorId := 0, duration := .zero, pickedUp := some now, ended := some now }

def finishFailed (r : CallRecord) (now : Timestamp) : CallRecord :=
  { r with
    status := .rejected, duration := .zero, pickedUp := some (r.pickedUp.getD now)
    ended := some now }

def fields (moment : Timestamp → List Char) (r : CallRecord) : List (List Char) :=
  [ moment r.start, Decimal.digits r.callId.toNat, r.number.toList, (r.ended.map moment).getD []
  , r.status.name.toList, (r.pickedUp.map moment).getD [], Decimal.digits r.operatorId.toNat
  , Decimal.digits r.duration.seconds ++ ['s'] ]

def lineWith (moment : Timestamp → List Char) (r : CallRecord) : List Char :=
  [';'].intercalate (r.fields moment)

def line (r : CallRecord) : List Char := r.lineWith Timestamp.text

end CallRecord

end Switchboard
