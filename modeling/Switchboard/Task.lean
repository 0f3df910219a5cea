import Switchboard.Event
import Switchboard.ServiceBounds

/-! A task is one attempt to call: its record, which is handed out at most once, and its promise,
which is settled at most once. -/

namespace Switchboard

structure Promise where
  id : PromiseId
  taken : Bool
deriving DecidableEq

def Promise.takeFuture (p : Promise) : Promise × Option CallFuture :=
  if p.taken then (p, none) else ({ p with taken := true }, some (.of p.id))

structure Task where
  bounds : ServiceBounds
  number : String
  callId : CallId
  record : CallRecord
  /-- None once it is settled. -/
  promise : Option Promise
  promiseReplaced : Bool
  hasId : Bool
  recorded : Bool
  /-- Where the record goes if the task is dropped before it was handed out. -/
  bound : Option RecorderSet

namespace Task

def fresh (promise : PromiseId) (bounds : ServiceBounds) (number : String) (start : Timestamp) :
    Task where
  bounds := bounds
  number := number
  callId := 0
  record := .opened number start
  promise := some ⟨promise, false⟩
  promiseReplaced := false
  hasId := false
  recorded := false
  bound := none

def isResolved (t : Task) : Bool := t.promise.isNone

def assignCallId (t : Task) (id : CallId) : Task :=
  { t with callId := id, record := { t.record with callId := id }, hasId := true }

def assignOperator (t : Task) (id : UInt64) : Task :=
  { t with record := { t.record with operatorId := id } }

def bind (t : Task) (set : RecorderSet) : Task := { t with bound := some set }

def takeFuture (t : Task) : Task × Option CallFuture :=
  match t.promise with
  | none => (t, none)
  | some p => ({ t with promise := some p.takeFuture.1 }, p.takeFuture.2)

def attachPromise (t : Task) (p : Promise) : Turn Task (Except DispatchError Unit) :=
  match t.promise with
  | none => ⟨t, [.withdrawn p.id], .ok (.error (.promiseLocked t.number))⟩
  | some old =>
    if t.promiseReplaced || t.hasId then
      ⟨t, [.withdrawn p.id], .ok (.error (.promiseLocked t.number))⟩
    else
      ⟨{ t with promise := some p, promiseReplaced := true }, [.withdrawn old.id], .ok (.ok ())⟩

def handOut (t : Task) (set : RecorderSet) : Turn Task Unit :=
  if t.recorded then .pure t ()
  else
    ⟨{ t with recorded := true }, [.recorded set t.record],
      match set.crash? t.record with
      | none => .ok ()
      | some c => .error c⟩

def resolve (t : Task) (outcome : Outcome) : Turn Task (Except DispatchError Unit) :=
  match t.promise with
  | none => ⟨t, [.late t.callId], .ok (.error (.alreadyResolved t.callId))⟩
  | some p => ⟨{ t with promise := none }, [.settled p.id outcome], .ok (.ok ())⟩

def closeUnserviced (t : Task) (now : Timestamp) (status : CallStatus) : Task :=
  if t.recorded then t else { t with record := t.record.finishUnserviced now status }

def closeFailed (t : Task) (now : Timestamp) : Task :=
  if t.recorded then t else { t with record := t.record.finishFailed now }

def reject (t : Task) (now : Timestamp) (status : CallStatus) (set : RecorderSet) :
    Turn Task (Except DispatchError Unit) :=
  ((t.closeUnserviced now status).handOut set).andThen fun t _ =>
    t.resolve (.ok (.unserviced status t.callId))

def recordFailure (t : Task) (now : Timestamp) (set : RecorderSet) : Turn Task Unit :=
  (t.closeFailed now).handOut set

def notePickup (t : Task) (pickedUp : Timestamp) (status : CallStatus) (hold : Duration) : Task :=
  { t with
    record := { t.record with pickedUp := some pickedUp, status := status, duration := hold } }

def noteEnd (t : Task) (now : Timestamp) : Task :=
  { t with record := { t.record with ended := some now } }

def answer (t : Task) (pickedUp : Timestamp) (draw : Nat) :
    Except Crash (Except DispatchError (CallStatus × Duration)) := do
  let limit ← t.bounds.maxWait
  if pickedUp.since t.record.start < limit.nanos then
    return (← t.bounds.sample draw).map fun hold => (.completed, hold)
  else return .ok (.timeout, .zero)

def serviceEnd (t : Task) (pickedUp : Timestamp) (draw : Nat) : Timestamp :=
  match t.answer pickedUp draw with
  | .ok (.ok (_, hold)) => pickedUp.later hold.nanos
  | _ => pickedUp

def execute (t : Task) (pickedUp ended : Timestamp) (draw : Nat) (set : RecorderSet) :
    Turn Task (Except DispatchError CallResult) :=
  match t.answer pickedUp draw with
  | .error c => ⟨t, [], .error c⟩
  | .ok (.ok (status, hold)) =>
    (((t.notePickup pickedUp status hold).noteEnd ended).handOut set).andThen fun t _ =>
      .pure t (.ok ⟨status, hold, t.callId⟩)
  | .ok (.error e) =>
    (t.recordFailure ended set).andThen fun t _ =>
      (t.resolve (.error e)).andThen fun t _ => .pure t (.error e)

def drop (t : Task) (now : Timestamp) : Turn Task Unit :=
  let written : Turn Task Unit := match t.bound with
    | none => .pure t ()
    | some set => t.recordFailure now set
  match written.reply, written.state.promise with
  | .ok _, some p =>
    ⟨{ written.state with promise := none },
      written.events ++ [.settled p.id (.error (.abandoned t.callId))], .ok ()⟩
  | .error _, some p => { written with events := written.events ++ [.withdrawn p.id] }
  | _, none => written

def service (t : Task) (operator : UInt64) (id : CallId) (pickedUp ended : Timestamp)
    (draw : Nat) (set : RecorderSet) : Turn Task Unit :=
  let run := (t.assignOperator operator).execute pickedUp ended draw set
  match run.reply with
  | .ok (.ok result) =>
    let sent := run.state.resolve (.ok result)
    ⟨sent.state, run.events ++ sent.events, .ok ()⟩
  | .ok (.error _) => ⟨run.state, run.events, .ok ()⟩
  | .error c =>
    let written := run.state.recordFailure ended set
    let sent := written.state.resolve (.error (.taskFailed id c.reason))
    ⟨sent.state, run.events ++ written.events ++ sent.events, .ok ()⟩

end Task

end Switchboard
