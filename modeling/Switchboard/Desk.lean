import Switchboard.Task

namespace Switchboard

structure Desk where
  task : Option Task
  log : Log
  promises : Nat
  /-- By number, none once given up. -/
  futures : List (Option CallFuture)
  recorders : RecorderSet
  now : Timestamp

namespace Desk

def of (bounds : ServiceBounds) (number : String) (start now : Timestamp) (set : RecorderSet) :
    Desk :=
  ⟨some (.fresh 0 bounds number start), [], 1, [], set, now⟩

def put (d : Desk) (t : Task) : Desk := { d with task := some t }

def turn {α : Type} (d : Desk) (r : Turn Task α) : Except Crash α × Desk :=
  (r.reply, { d.put r.state with log := d.log ++ r.events })

def future? (d : Desk) (i : Nat) : Option CallFuture := d.futures[i]?.join

def setFuture (d : Desk) (i : Nat) (f : Option CallFuture) : Desk :=
  { d with futures := d.futures.set i f }

def keep (d : Desk) (f : Option CallFuture) : Desk :=
  { d with futures := d.futures ++ f.toList.map some }

def takeFuture (d : Desk) (t : Task) : Bool × Desk :=
  let (t, f) := t.takeFuture
  (f.isSome, (d.put t).keep f)

def takeFutures (d : Desk) (p : Promise) : Nat → List Bool × Promise × Desk
  | 0 => ([], p, d)
  | n + 1 =>
    let (p, f) := p.takeFuture
    let (taken, p, d) := (d.keep f).takeFutures p n
    (f.isSome :: taken, p, d)

def attach (d : Desk) (t : Task) (n : Nat) :
    List Bool × Except Crash (Except DispatchError Unit) × Desk :=
  let (taken, p, d) := { d with promises := d.promises + 1 }.takeFutures ⟨d.promises, false⟩ n
  (taken, d.turn (t.attachPromise p))

def execute (d : Desk) (t : Task) (draw : Nat) :
    Except Crash (Except DispatchError CallResult) × Desk :=
  let ended := t.serviceEnd d.now draw
  { d with now := ended }.turn (t.execute d.now ended draw d.recorders)

def drop (d : Desk) : Except Crash Unit × Desk :=
  match d.task with
  | none => (.ok (), d)
  | some t =>
    let (r, d) := d.turn (t.drop d.now)
    (r, { d with task := none })

def tryResult (d : Desk) (i : Nat) (f : CallFuture) : Option Outcome × Desk :=
  let (o, f) := f.tryResult d.log
  (o, d.setFuture i (some f))

def poll (d : Desk) (i : Nat) (f : CallFuture) : Except Crash (Option Outcome) × Desk :=
  match f.await d.log with
  | .ok (some o) => (.ok (some o), d.setFuture i none)
  | r => (r, d)

def wouldBlock (d : Desk) : Bool := d.task.any (!·.isResolved)

def wait (d : Desk) (i : Nat) (f : CallFuture) : Except Crash (Option Outcome) × Desk :=
  (f.await d.log, d.setFuture i none)

end Desk

end Switchboard
