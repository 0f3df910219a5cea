import Switchboard.Floor

/-! The operators work until none of them has anything left to do; the one whose time comes
first acts first. -/

namespace Switchboard.Floor

abbrev Agenda := List ((Nat × Nat) × Timestamp)

structure Work where
  floor : Floor
  agenda : Agenda
  began : Timestamp

namespace Work

def freeAt (w : Work) (place : Nat × Nat) : Timestamp :=
  (w.agenda.lookup place).getD w.began

def book (w : Work) (place : Nat × Nat) (t : Timestamp) : Work :=
  { w with agenda := (place, t) :: w.agenda.filter (·.1 != place) }

def canAct (held : List Nat) (o : Operator) : Bool :=
  match o.stance with
  | .awake | .returning => true
  | .serving .. => !o.isHeld held
  | _ => false

def places (f : Floor) : List ((Nat × Nat) × Operator) :=
  (f.pools.zipIdx.map fun (pool, p) => match pool with
    | none => []
    | some pool => pool.operators.zipIdx.map fun (o, i) => ((p, i), o)).flatten

def serviceEnd (f : Floor) (k : Nat) (since : Timestamp) (draw : Nat) : Timestamp :=
  match f.exchange.task? k with
  | none => since
  | some t => t.serviceEnd since draw

def later (s t : Timestamp) : Timestamp := if s.position < t.position then t else s

def due (w : Work) (draw : Nat) (place : Nat × Nat) (o : Operator) : Timestamp :=
  match o.stance with
  | .serving e _ since => later (w.freeAt place) (serviceEnd w.floor e.task since draw)
  | _ => w.freeAt place

def earliest? {α : Type} : List (α × Timestamp) → Option (α × Timestamp)
  | [] => none
  | c :: cs =>
    match earliest? cs with
    | none => some c
    | some b => if b.2.position < c.2.position then some b else some c

def next? (w : Work) (held : List Nat) (draw : Nat) :
    Option (((Nat × Nat) × Operator) × Timestamp) :=
  earliest? (((places w.floor).filter fun (_, o) => canAct held o).map fun (place, o) =>
    ((place, o), w.due draw place o))

def act (w : Work) (draw : Nat) (place : Nat × Nat) (o : Operator) (now : Timestamp) : Work :=
  match o.stance with
  | .serving .. =>
    { w with floor := w.floor.finishCall place.1 place.2 now draw }.book place now
  | .returning => { w with floor := w.floor.comeBack place.1 place.2 now }
  | _ => { w with floor := w.floor.look place.1 place.2 now }

def run (held : List Nat) (draw : Nat) : Nat → Work → Work
  | 0, w => w
  | fuel + 1, w =>
    match w.next? held draw with
    | none => w
    | some ((place, o), now) => run held draw fuel (w.act draw place o now)

def ended (w : Work) (draw : Nat) : Timestamp :=
  ((places w.floor).map fun (place, o) => w.due draw place o).foldl later w.began

end Work

/-- No more than this many acts are left: three for a waiting call, and for an operator as many as
its stance still asks for. -/
def outstanding (f : Floor) : Nat :=
  (f.queues.map fun | none => 0 | some q => 3 * q.size).foldr (· + ·) 0 +
    ((Work.places f).map fun (_, o) => match o.stance with
      | .serving .. => 3
      | .returning => 2
      | .awake => 1
      | _ => 0).foldr (· + ·) 0

def settle (f : Floor) (held : List Nat) (now : Timestamp) (draw : Nat) : Floor × Timestamp :=
  let w := Work.run held draw f.outstanding ⟨f, [], now⟩
  (w.floor, w.ended draw)

/-- Whether no call waits in a pool that runs and has an operator who is not held. -/
def isSettled (f : Floor) (held : List Nat) : Bool :=
  f.pools.all fun
    | none => true
    | some pool => !pool.isRunning || f.hasNoCalls pool ||
      pool.operators.all fun o => o.isGone || o.isHeld held

def takesAtOnce (f : Floor) (pool : Pool) (held : List Nat) : Bool :=
  pool.isRunning && pool.operators.any (fun o => !o.isGone && !o.isHeld held) &&
    (f.queueOf? pool).any fun q => q.isEmpty && !q.isFull

def reap (f : Floor) (now : Timestamp) : Floor :=
  (List.range f.pools.length).foldl (fun f p => (f.dismiss p now).1) f

end Switchboard.Floor
