import Switchboard.Exchange
import Switchboard.Pool

/-! The floor: pools of operators, the queues that they share, and the sources of their call
identifiers. -/

namespace Switchboard

structure Floor where
  exchange : Exchange
  /-- By number, none once torn down. -/
  queues : List (Option CallQueue)
  idSources : List CallId
  /-- By number, none once dismissed. -/
  pools : List (Option Pool)
  hired : Nat
  recorderSets : Nat

structure Ticket where
  callId : CallId
  future : CallFuture

namespace Floor

def empty : Floor := ⟨.empty, [], [], [], 0, 0⟩

instance : Inhabited Floor := ⟨empty⟩

def pool? (f : Floor) (p : Nat) : Option Pool := f.pools[p]?.join

def queue? (f : Floor) (q : Nat) : Option CallQueue := f.queues[q]?.join

def log (f : Floor) : Log := f.exchange.log

def setPool (f : Floor) (p : Nat) (pool : Pool) : Floor :=
  { f with pools := f.pools.set p (some pool) }

def modifyPool (f : Floor) (p : Nat) (g : Pool → Pool) : Floor :=
  match f.pool? p with
  | none => f
  | some pool => f.setPool p (g pool)

def setQueue (f : Floor) (q : Nat) (queue : CallQueue) : Floor :=
  { f with queues := f.queues.set q (some queue) }

def modifyQueue (f : Floor) (q : Nat) (g : CallQueue → CallQueue) : Floor :=
  match f.queue? q with
  | none => f
  | some queue => f.setQueue q (g queue)

def queueOf? (f : Floor) (pool : Pool) : Option CallQueue := pool.queue.bind f.queue?

def hasNoCalls (f : Floor) (pool : Pool) : Bool :=
  match f.queueOf? pool with
  | none => true
  | some q => q.isEmpty

def queued (f : Floor) (pool : Pool) : Nat :=
  match f.queueOf? pool with
  | none => 0
  | some q => q.size

def isDrained (f : Floor) (pool : Pool) : Bool := f.hasNoCalls pool && pool.isIdle

def newRecorders (f : Floor) (members : List Recorder) : RecorderSet × Floor :=
  (⟨f.recorderSets, members⟩, { f with recorderSets := f.recorderSets + 1 })

def newQueue (f : Floor) (capacity : UInt64) (set : RecorderSet) : Nat × Floor :=
  (f.queues.length, { f with queues := f.queues ++ [some (.empty capacity set)] })

def newIds (f : Floor) (first : CallId) : Nat × Floor :=
  (f.idSources.length, { f with idSources := f.idSources ++ [first] })

def poolAround (f : Floor) (size : Nat) (queue : Option Nat) (set : RecorderSet) (ids : Nat) :
    Nat × Floor :=
  let operators := (List.range size).map fun i => ⟨UInt64.ofNat (f.hired + i + 1), .awake⟩
  (f.pools.length,
    { f with
      pools := f.pools ++ [some ⟨operators, queue, set, ids, true, false, false⟩]
      hired := f.hired + size })

def newPool (f : Floor) (size : Nat) (capacity : UInt64) : Nat × Floor :=
  let (set, f) := f.newRecorders []
  let (q, f) := f.newQueue capacity set
  let (ids, f) := f.newIds 1
  f.poolAround size (some q) set ids

def overflow? (size : Nat) (capacity : Option UInt64) : Option Crash :=
  (capacity.bind CallQueue.overflow?).or (Pool.overflow? size)

def buildPool (f : Floor) (size : Nat) (capacity : UInt64) : Except Crash (Nat × Floor) :=
  match overflow? size (some capacity) with
  | none => .ok (f.newPool size capacity)
  | some crash => .error crash

def furnished (size : Nat) (capacity : Option UInt64) (members : List Recorder) (first : CallId) :
    Except Crash Floor :=
  match overflow? size capacity with
  | some crash => .error crash
  | none =>
    let (set, f) := empty.newRecorders members
    let (q, f) := match capacity with
      | none => (none, f)
      | some capacity => let (q, f) := f.newQueue capacity set; (some q, f)
    let (ids, f) := f.newIds first
    .ok (f.poolAround size q set ids).2

def release (f : Floor) (ks : List Nat) (now : Timestamp) : Floor × Option Crash :=
  let (x, crash) := f.exchange.releaseAll ks now
  ({ f with exchange := x }, crash)

def usesQueue (f : Floor) (q : Nat) : Bool :=
  f.pools.any fun
    | some pool => pool.queue == some q
    | none => false

def letGoQueue (f : Floor) (q : Option Nat) (now : Timestamp) : Floor × Option Crash :=
  match q with
  | none => (f, none)
  | some q =>
    match f.usesQueue q, f.queue? q with
    | false, some queue =>
      let (x, crash) := queue.tearDown f.exchange now
      let f := { f with exchange := x, queues := f.queues.set q none }
      let (f, _) := f.release (queue.waiting.map (·.task)) now
      (f, crash)
    | _, _ => (f, none)

def nextId (f : Floor) (ids : Nat) : CallId × Floor :=
  let id := (f.idSources[ids]?).getD 0
  (id, { f with idSources := f.idSources.set ids (id + 1) })

def refuse (f : Floor) (k : Nat) (now : Timestamp) (e : DispatchError) :
    Floor × Except Crash (Except DispatchError Ticket) :=
  let (f, crash) := f.release [k] now
  (f, match crash with | none => .ok (.error e) | some c => .error c)

def enqueue (f : Floor) (p q : Nat) (queue : CallQueue) (e : Entry) (future : CallFuture)
    (now : Timestamp) : Floor × Except Crash (Except DispatchError Ticket) :=
  let entering := queue.push f.exchange now e
  let f := { f with exchange := entering.exchange }.setQueue q entering.queue
  let (f, crash) := f.release entering.left now
  match entering.reply, crash with
  | .error c, _ => (f, .error c)
  | .ok _, some c => (f, .error c)
  | .ok waits, none => (if waits then f.modifyPool p Pool.wakeOne else f, .ok (.ok ⟨e.id, future⟩))

def register (f : Floor) (p q : Nat) (pool : Pool) (queue : CallQueue) (k : Nat) (t : Task)
    (now : Timestamp) : Floor × Except Crash (Except DispatchError Ticket) :=
  let (id, f) := f.nextId pool.ids
  let (t, future) := ((t.assignCallId id).bind pool.recorders).takeFuture
  let f := { f with exchange := f.exchange.modify k fun _ => t }
  match future with
  | none => f.refuse k now (.queue s!"result future of call {id} already taken")
  | some future => f.enqueue p q queue ⟨k, id, t.number⟩ future now

def addTask (f : Floor) (p : Nat) (t : Task) (now : Timestamp) :
    Floor × Except Crash (Except DispatchError Ticket) :=
  let (k, x) := f.exchange.enter t
  let f := { f with exchange := x }
  match f.pool? p with
  | none => f.refuse k now .queueNotInstalled
  | some pool =>
    match pool.queue, f.queueOf? pool with
    | some q, some queue => f.register p q pool queue k t now
    | _, _ => f.refuse k now .queueNotInstalled

def newTask (f : Floor) (bounds : ServiceBounds) (number : String) (start : Timestamp) :
    Task × Floor :=
  let (promise, x) := f.exchange.newPromise
  (.fresh promise bounds number start, { f with exchange := x })

/-- First half of a start: `false` when the pool was started before. -/
def beginStart (f : Floor) (p : Nat) : Bool × Floor :=
  match f.pool? p with
  | none => (false, f)
  | some pool =>
    let (more, pool) := pool.beginStart
    (more, f.setPool p pool)

def revive (f : Floor) (p : Nat) : Floor :=
  match f.pool? p with
  | none => f
  | some pool => { f.setPool p (pool.revive (f.hired + 1)) with hired := f.hired + pool.size }

def start (f : Floor) (p : Nat) : Floor :=
  let (more, f) := f.beginStart p
  if more then (f.revive p).modifyPool p Pool.wakeAll else f

def stop (f : Floor) (p : Nat) : Floor := f.modifyPool p Pool.stop

def transfer (f : Floor) (p old : Nat) (now : Timestamp) : Floor × Option Crash :=
  match f.pool? p, f.pool? old with
  | some pool, some other =>
    let own := pool.queue
    let f := match other.queue with
      | none => f
      | some q => f.modifyQueue q (·.setRecorders other.recorders)
    let pool := { pool with queue := other.queue }
    let (f, crash) := (f.setPool p pool).letGoQueue own now
    (if crash.isNone then f.setPool p { pool with recorders := other.recorders, ids := other.ids }
      else f, crash)
  | _, _ => (f, none)

def installQueue (f : Floor) (p q : Nat) (now : Timestamp) : Floor × Option Crash :=
  match f.pool? p with
  | none => (f, none)
  | some pool =>
    let f := f.modifyQueue q (·.setRecorders pool.recorders)
    let (f, crash) := (f.setPool p { pool with queue := some q }).letGoQueue pool.queue now
    (if crash.isNone then f.modifyPool p Pool.wakeAll else f, crash)

def replaceQueue (f : Floor) (p : Nat) (capacity : UInt64) (now : Timestamp) :
    Floor × Option Crash :=
  match CallQueue.overflow? capacity with
  | some crash => (f, some crash)
  | none =>
    let (set, f) := f.newRecorders []
    let (q, f) := f.newQueue capacity set
    f.installQueue p q now

def setRecorders (f : Floor) (p : Nat) (set : RecorderSet) : Floor :=
  match f.pool? p with
  | none => f
  | some pool =>
    let f := match pool.queue with
      | none => f
      | some q => f.modifyQueue q (·.setRecorders set)
    f.setPool p { pool with recorders := set }

def setCapacity (f : Floor) (q : Nat) (capacity : UInt64) : Floor :=
  f.modifyQueue q (·.setCapacity capacity)

def close (f : Floor) (p : Nat) : Floor := f.modifyPool p Pool.close

def dismiss (f : Floor) (p : Nat) (now : Timestamp) : Floor × Option Crash :=
  match f.pool? p with
  | none => (f, none)
  | some pool =>
    if pool.closing && pool.live == 0 then
      { f with pools := f.pools.set p none }.letGoQueue pool.queue now
    else (f, none)

def hasWork (f : Floor) (pool : Pool) : Bool := !pool.paused && !f.hasNoCalls pool

def setStance (f : Floor) (p i : Nat) (s : Stance) : Floor :=
  f.modifyPool p (·.setStance i s)

def look (f : Floor) (p i : Nat) (now : Timestamp) : Floor :=
  match f.pool? p with
  | none => f
  | some pool =>
    if pool.closing then f.setStance p i .gone
    else if f.hasWork pool then
      match pool.queue, f.queueOf? pool with
      | some q, some queue =>
        match queue.pop with
        | (some e, rest) => (f.setQueue q rest).setStance p i (.serving e pool.recorders now)
        | (none, _) => f.setStance p i .parked
      | _, _ => f.setStance p i .parked
    else f.setStance p i .parked

def finishCall (f : Floor) (p i : Nat) (ended : Timestamp) (draw : Nat) : Floor :=
  match f.pool? p with
  | none => f
  | some pool =>
    match pool.operators[i]? with
    | some ⟨id, .serving e set since⟩ =>
      let (x, _) := f.exchange.turn e.task (·.service id e.id since ended draw set)
      let (x, _) := x.release e.task ended
      { f with exchange := x }.setStance p i .returning
    | _ => f

def comeBack (f : Floor) (p i : Nat) (now : Timestamp) : Floor :=
  match f.pool? p with
  | none => f
  | some pool =>
    if pool.draining && f.hasNoCalls pool then f.setStance p i .gone else f.look p i now

end Floor

end Switchboard
