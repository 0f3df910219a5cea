import Switchboard.Duration
import Switchboard.Error

namespace Switchboard

structure ServiceBounds where
  rMin : UInt32
  rMax : UInt32
  unit : Duration
deriving DecidableEq

namespace ServiceBounds

def tooLong : Crash := ⟨"overflow when multiplying duration by scalar"⟩

def units (b : ServiceBounds) (k : UInt32) : Except Crash Duration :=
  match b.unit.times? k with
  | some d => .ok d
  | none => .error tooLong

def maxWait (b : ServiceBounds) : Except Crash Duration := b.units b.rMax

def pick (b : ServiceBounds) (draw : Nat) : UInt32 :=
  UInt32.ofNat (b.rMin.toNat + draw % (b.rMax.toNat - b.rMin.toNat + 1))

def sample (b : ServiceBounds) (draw : Nat) : Except Crash (Except DispatchError Duration) :=
  if b.rMax < b.rMin then .ok (.error (.invalidBounds b.rMin b.rMax))
  else (b.units (b.pick draw)).map .ok

end ServiceBounds

end Switchboard
