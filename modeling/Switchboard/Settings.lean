/-! The settings of a switchboard and their normal form, in which every value lies in its allowed
range and the bounds are in order. -/

namespace Switchboard

structure Settings where
  /-- Least service time, in service units. -/
  rMin : UInt32
  /-- Greatest service time and limit of waiting, in service units. -/
  rMax : UInt32
  operators : UInt64
  queueSize : UInt64
deriving DecidableEq

namespace Settings

def initial : Settings := ⟨10, 15, 2, 15⟩

instance : Inhabited Settings := ⟨initial⟩

def clamp32 (lo hi v : UInt32) : UInt32 :=
  if v < lo then lo else if hi < v then hi else v

def clamp64 (lo hi v : UInt64) : UInt64 :=
  if v < lo then lo else if hi < v then hi else v

def normalized (s : Settings) : Settings :=
  let rMin := clamp32 4 100 s.rMin
  let rMax := clamp32 5 140 s.rMax
  let (rMin, rMax) := if rMax < rMin then (rMax, rMin) else (rMin, rMax)
  ⟨rMin, rMax, clamp64 2 80 s.operators, clamp64 15 350 s.queueSize⟩

end Settings

end Switchboard
