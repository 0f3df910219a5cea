import Switchboard.Task
import Switchboard.CallQueue

/-! The calls of a switchboard and the log of what left it. A queue lets calls into it and turns
them away through the exchange. -/

namespace Switchboard

structure Exchange where
  tasks : List (Option Task)
  log : Log
  /-- The log with the number of the task that each event came from. -/
  journal : List (Nat × Event)
  promises : Nat

namespace Exchange

def empty : Exchange := ⟨[], [], [], 0⟩

instance : Inhabited Exchange := ⟨empty⟩

def task? (x : Exchange) (k : Nat) : Option Task := x.tasks[k]?.join

def newPromise (x : Exchange) : PromiseId × Exchange :=
  (x.promises, { x with promises := x.promises + 1 })

def enter (x : Exchange) (t : Task) : Nat × Exchange :=
  (x.tasks.length, { x with tasks := x.tasks ++ [some t] })

def modify (x : Exchange) (k : Nat) (f : Task → Task) : Exchange :=
  match x.task? k with
  | none => x
  | some t => { x with tasks := x.tasks.set k (some (f t)) }

def turn {α : Type} (x : Exchange) (k : Nat) (f : Task → Turn Task α) :
    Exchange × Option (Except Crash α) :=
  match x.task? k with
  | none => (x, none)
  | some t =>
    let r := f t
    ({ x with
        tasks := x.tasks.set k (some r.state)
        log := x.log ++ r.events
        journal := x.journal ++ r.events.map fun e => (k, e) },
      some r.reply)

def crashOf {α : Type} : Option (Except Crash α) → Option Crash
  | some (.error c) => some c
  | _ => none

def reject (x : Exchange) (k : Nat) (now : Timestamp) (status : CallStatus) (set : RecorderSet) :
    Exchange × Option Crash :=
  let (x, r) := x.turn k (·.reject now status set)
  (x, crashOf r)

def release (x : Exchange) (k : Nat) (now : Timestamp) : Exchange × Option Crash :=
  let (x, r) := x.turn k (·.drop now)
  ({ x with tasks := x.tasks.set k none }, crashOf r)

def releaseAll (x : Exchange) (ks : List Nat) (now : Timestamp) : Exchange × Option Crash :=
  match ks with
  | [] => (x, none)
  | k :: ks =>
    let (x, crash) := x.release k now
    let (x, later) := x.releaseAll ks now
    (x, crash.or later)

end Exchange

namespace CallQueue

structure Entering where
  queue : CallQueue
  exchange : Exchange
  /-- The tasks that the queue has nothing to do with any more. -/
  left : List Nat
  reply : Except Crash Bool

def push (q : CallQueue) (x : Exchange) (now : Timestamp) (e : Entry) : Entering :=
  if q.isFull then
    let (x, crash) := x.reject e.task now .overloaded q.recorders
    ⟨q, x, [e.task], match crash with | none => .ok false | some c => .error c⟩
  else
    match q.find? e.number with
    | none => ⟨q.append e, x, [], .ok true⟩
    | some older =>
      let (x, crash) := x.reject older.task now .duplication q.recorders
      match crash with
      | none => ⟨(q.without e.number).append e, x, [older.task], .ok true⟩
      | some c => ⟨q.without e.number, x, [older.task, e.task], .error c⟩

def tearDown (q : CallQueue) (x : Exchange) (now : Timestamp) : Exchange × Option Crash :=
  go x q.waiting
where
  go (x : Exchange) : List Entry → Exchange × Option Crash
    | [] => (x, none)
    | e :: es =>
      match x.reject e.task now .rejected q.recorders with
      | (x, none) => go x es
      | (x, some c) => (x, some c)

end CallQueue

end Switchboard
