import Switchboard.Recorder
import Switchboard.Storage

/-! The queue of waiting calls. A full queue refuses a call; a call from a number that waits already
takes the older one's place in the queue away. -/

namespace Switchboard

structure Entry where
  task : Nat
  id : CallId
  number : String
deriving DecidableEq

structure CallQueue where
  waiting : List Entry
  capacity : UInt64
  recorders : RecorderSet

namespace CallQueue

def empty (capacity : UInt64) (recorders : RecorderSet) : CallQueue := ⟨[], capacity, recorders⟩

/-- Why there can be no queue of that capacity: 16 bytes are set aside for each entry. -/
def overflow? (capacity : UInt64) : Option Crash := Storage.overflow? capacity.toNat 16

def make (capacity : UInt64) (recorders : RecorderSet) : Except Crash CallQueue :=
  match overflow? capacity with
  | none => .ok (empty capacity recorders)
  | some crash => .error crash

def size (q : CallQueue) : Nat := q.waiting.length

def isEmpty (q : CallQueue) : Bool := q.waiting.isEmpty

def isFull (q : CallQueue) : Bool := q.capacity.toNat ≤ q.size

def front? (q : CallQueue) : Option Entry := q.waiting.head?

def back? (q : CallQueue) : Option Entry := q.waiting.getLast?

def find? (q : CallQueue) (number : String) : Option Entry :=
  q.waiting.find? (·.number == number)

def without (q : CallQueue) (number : String) : CallQueue :=
  { q with waiting := q.waiting.eraseP (·.number == number) }

def append (q : CallQueue) (e : Entry) : CallQueue := { q with waiting := q.waiting ++ [e] }

def pop (q : CallQueue) : Option Entry × CallQueue :=
  match q.waiting with
  | [] => (none, q)
  | e :: es => (some e, { q with waiting := es })

def setCapacity (q : CallQueue) (capacity : UInt64) : CallQueue := { q with capacity := capacity }

def setRecorders (q : CallQueue) (set : RecorderSet) : CallQueue := { q with recorders := set }

end CallQueue

end Switchboard
