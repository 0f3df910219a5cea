import Switchboard.Recorder

/-! What leaves the switchboard: records that are handed to recorders and outcomes that are sent to
callers. A log lists these events, oldest first. -/

namespace Switchboard

abbrev PromiseId := Nat

inductive Event
  | recorded (recorders : RecorderSet) (record : CallRecord)
  | settled (promise : PromiseId) (outcome : Outcome)
  /-- A promise was given up without an outcome. -/
  | withdrawn (promise : PromiseId)
  /-- An outcome came when the call had got one already. -/
  | late (callId : CallId)

abbrev Log := List Event

namespace Log

def kept (name : String) (log : Log) : List CallRecord :=
  log.flatMap fun
    | .recorded set r => List.replicate (set.copies name r) r
    | _ => []

def ending? (promise : PromiseId) (log : Log) : Option (Option Outcome) :=
  log.findSome? fun
    | .settled p o => if p = promise then some (some o) else none
    | .withdrawn p => if p = promise then some none else none
    | .recorded _ _ | .late _ => none

end Log

structure CallFuture where
  promise : PromiseId
  spent : Bool
deriving DecidableEq

namespace CallFuture

def of (promise : PromiseId) : CallFuture := ⟨promise, false⟩

def closed : DispatchError := .internal "result channel closed without a value"

def tryResult (f : CallFuture) (log : Log) : Option Outcome × CallFuture :=
  if f.spent then (some (.error closed), f)
  else
    match log.ending? f.promise with
    | none => (none, f)
    | some e => (some (e.getD (.error closed)), { f with spent := true })

def await (f : CallFuture) (log : Log) : Except Crash (Option Outcome) :=
  if f.spent then .error ⟨"called after complete"⟩ else .ok (f.tryResult log).1

end CallFuture

/-- The state an operation leaves behind, what it sent out on the way, and its reply unless it
crashed. -/
structure Turn (σ α : Type) where
  state : σ
  events : Log
  reply : Except Crash α

namespace Turn

variable {σ α β : Type}

def pure (s : σ) (a : α) : Turn σ α := ⟨s, [], .ok a⟩

def andThen (t : Turn σ α) (f : σ → α → Turn σ β) : Turn σ β :=
  match t.reply with
  | .error c => ⟨t.state, t.events, .error c⟩
  | .ok a =>
    let u := f t.state a
    ⟨u.state, t.events ++ u.events, u.reply⟩

end Turn

end Switchboard
