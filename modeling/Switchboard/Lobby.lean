import Switchboard.Exchange

/-! A queue on its own, whose tasks are dropped as soon as nobody refers to them. -/

namespace Switchboard

inductive Holder
  | caller
  | operator
deriving DecidableEq

structure Lobby where
  exchange : Exchange
  queue : Option CallQueue
  held : List ((Holder × CallId) × Nat)

namespace Lobby

def of (q : CallQueue) : Lobby := ⟨.empty, some q, []⟩

def heldBy? (l : Lobby) (h : Holder) (id : CallId) : Option Nat := l.held.lookup (h, id)

def isUsed (l : Lobby) (k : Nat) : Bool :=
  (l.queue.any fun q => q.waiting.any (·.task == k)) || l.held.any (·.2 == k)

def letGo (l : Lobby) (ks : List Nat) (now : Timestamp) : Lobby :=
  { l with exchange := (l.exchange.releaseAll (ks.filter fun k => !l.isUsed k) now).1 }

def newTask (l : Lobby) (bounds : ServiceBounds) (number : String) (start : Timestamp) :
    Task × Lobby :=
  let (p, x) := l.exchange.newPromise
  (.fresh p bounds number start, { l with exchange := x })

def enter (l : Lobby) (t : Task) : Nat × Lobby :=
  let (k, x) := l.exchange.enter t
  (k, { l with exchange := x })

def refer (l : Lobby) (h : Holder) (id : CallId) (k : Option Nat) (now : Timestamp) : Lobby :=
  let (gone, rest) := l.held.partition (·.1 == (h, id))
  { l with held := k.toList.map (((h, id), ·)) ++ rest }.letGo (gone.map Prod.snd) now

def hold (l : Lobby) (h : Holder) (id : CallId) (k : Nat) (now : Timestamp) : Lobby :=
  l.refer h id (some k) now

def forget (l : Lobby) (h : Holder) (id : CallId) (now : Timestamp) : Lobby :=
  l.refer h id none now

def push (l : Lobby) (k : Nat) (id : CallId) (now : Timestamp) : Except Crash Bool × Lobby :=
  match l.queue, l.exchange.task? k with
  | some q, some t =>
    let r := q.push l.exchange now ⟨k, id, t.number⟩
    (r.reply, { l with exchange := r.exchange, queue := some r.queue }.letGo r.left now)
  | _, _ => (.ok false, l)

def pop (l : Lobby) (keep : Bool) (now : Timestamp) : Option Entry × Lobby :=
  match l.queue.map (·.pop) with
  | some (some e, q) =>
    let l := { l with queue := some q }
    (some e, if keep then l.hold .operator e.id e.task now else l.letGo [e.task] now)
  | _ => (none, l)

def popAll (l : Lobby) (now : Timestamp) : List Entry × Lobby :=
  match l.queue with
  | none => ([], l)
  | some q =>
    (q.waiting,
      { l with queue := some { q with waiting := [] } }.letGo (q.waiting.map Entry.task) now)

def resolve (l : Lobby) (k : Nat) (o : Outcome) :
    Option (Except Crash (Except DispatchError Unit)) × Lobby :=
  let (x, r) := l.exchange.turn k (·.resolve o)
  (r, { l with exchange := x })

def modifyQueue (l : Lobby) (f : CallQueue → CallQueue) : Lobby := { l with queue := l.queue.map f }

def close (l : Lobby) (now : Timestamp) : Option Crash × Lobby :=
  match l.queue with
  | none => (none, l)
  | some q =>
    let (x, crash) := q.tearDown l.exchange now
    (crash, { l with exchange := x, queue := none }.letGo (q.waiting.map Entry.task) now)

end Lobby

end Switchboard
