import Switchboard.CallQueue

namespace Switchboard

inductive Stance
  | parked
  /-- About to look for a call. -/
  | awake
  | serving (entry : Entry) (recorders : RecorderSet) (since : Timestamp)
  /-- Done with a call, about to come back for the next. -/
  | returning
  | gone

structure Operator where
  id : UInt64
  stance : Stance

namespace Operator

def isParked (o : Operator) : Bool := o.stance matches .parked

def isGone (o : Operator) : Bool := o.stance matches .gone

def isBusy (o : Operator) : Bool :=
  match o.stance with
  | .serving .. | .returning => true
  | _ => false

def isHeld (o : Operator) (held : List Nat) : Bool :=
  match o.stance with
  | .serving e _ _ => held.contains e.task
  | _ => false

def wake (o : Operator) : Operator := if o.isParked then { o with stance := .awake } else o

end Operator

structure Pool where
  operators : List Operator
  queue : Option Nat
  recorders : RecorderSet
  ids : Nat
  paused : Bool
  /-- Operators leave when they find the queue empty after a call. -/
  draining : Bool
  /-- Operators leave as soon as they are not on a call. -/
  closing : Bool

namespace Pool

/-- Why there can be no pool of that size: 48 bytes are set aside for each operator. -/
def overflow? (size : Nat) : Option Crash := Storage.overflow? size 48

def size (p : Pool) : Nat := p.operators.length

def busy (p : Pool) : Nat := (p.operators.filter (·.isBusy)).length

def isIdle (p : Pool) : Bool := p.busy == 0

def isHeld (p : Pool) (held : List Nat) : Bool := p.operators.any (·.isHeld held)

def live (p : Pool) : Nat := (p.operators.filter (!·.isGone)).length

def isRunning (p : Pool) : Bool := !p.paused && !p.closing

def setStance (p : Pool) (i : Nat) (s : Stance) : Pool :=
  { p with operators := p.operators.modify i fun o => { o with stance := s } }

def wakeOne (p : Pool) : Pool :=
  { p with operators := p.operators.modify (p.operators.findIdx (·.isParked)) Operator.wake }

def wakeAll (p : Pool) : Pool := { p with operators := p.operators.map Operator.wake }

def beginStart (p : Pool) : Bool × Pool :=
  (p.paused, { p with draining := false, paused := false })

def revive (p : Pool) (next : Nat) : Pool :=
  { p with operators := p.operators.mapIdx fun i o =>
      if o.isGone then ⟨UInt64.ofNat (next + i), .awake⟩ else o }

def stop (p : Pool) : Pool := { p with paused := true, draining := true }

def close (p : Pool) : Pool := { p with closing := true }.wakeAll

end Pool

end Switchboard
