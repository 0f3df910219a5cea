import Switchboard.Proofs.Floor.Moves
import Switchboard.Proofs.Queue.Push

/-! What bringing a call does. Without a queue the call is given up at once. Otherwise it gets an
identifier and is brought to the queue, and it, or an older call from its number, may leave. -/

namespace Switchboard

open scoped List

namespace CallQueue

lemma perm_without {q : CallQueue} {number : String} {older : Entry}
    (h : q.find? number = some older) :
    q.waiting ~ older :: (q.without number).waiting := by
  rcases q with ⟨waiting, capacity, recorders⟩
  simp only [find?, without] at h ⊢
  induction waiting with
  | nil => simp at h
  | cons e es ih =>
    by_cases hn : e.number = number
    · obtain rfl : e = older := by simpa [hn] using h
      simp [hn]
    · have hes : es ~ older :: es.eraseP (·.number == number) := ih (by simpa [hn] using h)
      simpa [hn] using (hes.cons e).trans (.swap older e _)

lemma push_departs (q : CallQueue) (x : Exchange) (now : Timestamp) (e : Entry) :
    ∃ gone, q.waiting ++ [e] ~ gone ++ (q.push x now e).queue.waiting ∧
      x.Departs ((q.push x now e).exchange.releaseAll (q.push x now e).left now).1
        (gone.map Entry.task) q.recorders := by
  have hp := push_ends q x now e
  generalize q.push x now e = r at hp ⊢
  have rejected (k : Nat) (status : CallStatus) :
      x.Handles (x.reject k now status q.recorders).1 [k] q.recorders :=
    Exchange.handles_reject x k now status q.recorders
  cases hp with
  | full | fullCrash =>
    exact ⟨[e], List.perm_append_comm, (rejected e.task .overloaded).release now⟩
  | new => exact ⟨[], .refl _, Exchange.departs_nil x q.recorders⟩
  | swap older _ isOlder =>
    exact ⟨[older], (perm_without isOlder).append_right [e],
      (rejected older.task .duplication).release now⟩
  | swapCrash older _ _ isOlder =>
    have hs : [older.task] ⊆ [older.task, e.task] := by simp
    refine ⟨[older, e], ?_, ((rejected older.task .duplication).mono hs).release now⟩
    exact ((perm_without isOlder).append_right [e]).trans (List.perm_append_comm.cons older)

end CallQueue

namespace Exchange

def welcome (x : Exchange) (t : Task) : Exchange :=
  { x with tasks := x.tasks ++ [some t], promises := x.promises + 1 }

lemma task?_welcome (x : Exchange) (t : Task) (k : Nat) :
    (x.welcome t).task? k = if k = x.tasks.length then some t else x.task? k :=
  Floor.join_getElem?_append x.tasks _ k

lemma task?_enter (x : Exchange) (t : Task) : (x.enter t).2.task? x.tasks.length = some t := by
  simp [enter, task?]

lemma modify_enter (x : Exchange) (t t' : Task) :
    (x.enter t).2.modify x.tasks.length (fun _ => t') = (x.enter t').2 := by
  simp only [modify, task?_enter]
  simp [enter]

end Exchange

namespace Task

def newcomer (promise : PromiseId) (bounds : ServiceBounds) (number : String) (start : Timestamp)
    (taken : Bool) : Task :=
  { Task.fresh promise bounds number start with promise := some ⟨promise, taken⟩ }

def admitted (t : Task) (promise : PromiseId) (id : CallId) (set : RecorderSet) : Task :=
  { (t.assignCallId id).bind set with promise := some ⟨promise, true⟩ }

lemma takeFuture_of_promise {t : Task} {promise : PromiseId} {taken : Bool}
    (h : t.promise = some ⟨promise, taken⟩) :
    t.takeFuture =
      ({ t with promise := some ⟨promise, true⟩ }, if taken then none else some (.of promise)) := by
  cases taken <;> simp [takeFuture, h, Promise.takeFuture]

lemma newcomer_isOpen (promise : PromiseId) (bounds : ServiceBounds) (number : String)
    (start : Timestamp) (taken : Bool) :
    (newcomer promise bounds number start taken).IsOpen promise :=
  ⟨rfl, ⟨taken, rfl⟩, rfl⟩

lemma admitted_isOpen {t : Task} {promise : PromiseId} (ht : t.IsOpen promise) (id : CallId)
    (set : RecorderSet) : (t.admitted promise id set).IsOpen promise :=
  ⟨ht.unrecorded, ⟨true, rfl⟩, rfl⟩

end Task

namespace Floor

variable {f : Floor} {p q : Nat} {id : CallId}

lemma door?_of_some (h : f.door? p = some (q, id)) :
    ∃ pool queue, f.pool? p = some pool ∧ pool.queue = some q ∧ f.queue? q = some queue ∧
      id = (f.nextId pool.ids).1 := by
  rw [door?] at h
  cases hp : f.pool? p with
  | none => simp [hp] at h
  | some pool =>
    cases hq : pool.queue with
    | none => simp [hp, hq] at h
    | some j =>
      cases hqueue : f.queue? j with
      | none => simp [hp, hq, queueOf?, hqueue] at h
      | some queue =>
        obtain ⟨rfl, rfl⟩ : j = q ∧ (f.nextId pool.ids).1 = id := by
          simpa [hp, hq, queueOf?, hqueue] using h
        exact ⟨pool, queue, rfl, hq, hqueue, rfl⟩

def welcome (f : Floor) (ids : Nat) (t : Task) : Floor :=
  { (f.nextId ids).2 with exchange := f.exchange.welcome t }

section Bring

variable {pool : Pool} {queue : CallQueue} {promise : PromiseId} {taken : Bool}

lemma register_enter {t : Task} (ht : t.promise = some ⟨promise, taken⟩) (now : Timestamp) :
    ({ f with exchange := (f.exchange.enter t).2 } : Floor).register p q pool queue
        f.exchange.tasks.length t now =
      let id := (f.nextId pool.ids).1
      let f' : Floor := { (f.nextId pool.ids).2 with
        exchange := (f.exchange.enter (t.admitted promise id pool.recorders)).2 }
      if taken then
        f'.refuse f.exchange.tasks.length now (.queue s!"result future of call {id} already taken")
      else f'.enqueue p q queue ⟨f.exchange.tasks.length, id, t.number⟩ (.of promise) now := by
  have ht' : ((t.assignCallId (f.nextId pool.ids).1).bind pool.recorders).takeFuture = _ :=
    Task.takeFuture_of_promise ht
  have hm (t' : Task) : (f.exchange.enter t).2.modify f.exchange.tasks.length (fun _ => t') =
      (f.exchange.enter t').2 := f.exchange.modify_enter t t'
  cases taken with
  | true =>
    simp only [register, nextId, if_true] at ht' ⊢
    simp only [ht', hm]
    rfl
  | false =>
    simp only [register, nextId, Bool.false_eq_true, if_false] at ht' ⊢
    simp only [ht', hm]
    rfl

lemma register_eq {t : Task} (ht : t.promise = some ⟨promise, taken⟩) (now : Timestamp) :
    ({ f with exchange := f.exchange.welcome t } : Floor).register p q pool queue
        f.exchange.tasks.length t now =
      let id := (f.nextId pool.ids).1
      let f' := f.welcome pool.ids (t.admitted promise id pool.recorders)
      if taken then
        f'.refuse f.exchange.tasks.length now (.queue s!"result future of call {id} already taken")
      else f'.enqueue p q queue ⟨f.exchange.tasks.length, id, t.number⟩ (.of promise) now :=
  register_enter (f := { f with
    exchange := { f.exchange with promises := f.exchange.promises + 1 } }) ht now

variable (bounds : ServiceBounds) (number : String) (start : Timestamp) (now : Timestamp)

lemma bring_eq (f : Floor) (p : Nat) (taken : Bool) :
    f.bring p bounds number start taken now =
      let t := Task.newcomer f.exchange.promises bounds number start taken
      let f' : Floor := { f with exchange := f.exchange.welcome t }
      match f.pool? p with
      | none => f'.refuse f.exchange.tasks.length now .queueNotInstalled
      | some pool =>
        match pool.queue, f.queueOf? pool with
        | some q, some queue => f'.register p q pool queue f.exchange.tasks.length t now
        | _, _ => f'.refuse f.exchange.tasks.length now .queueNotInstalled := by
  cases taken <;> rfl

lemma bring_of_no_door (hd : f.door? p = none) (taken : Bool) :
    (f.bring p bounds number start taken now).1 =
      { f with
        exchange := ((f.exchange.welcome
          (.newcomer f.exchange.promises bounds number start taken)).releaseAll
            [f.exchange.tasks.length] now).1 } := by
  rw [bring_eq]
  rw [door?] at hd
  cases hp : f.pool? p with
  | none => rfl
  | some pool =>
    simp only [hp] at hd ⊢
    cases hq : pool.queue with
    | none => rfl
    | some q =>
      cases hqueue : f.queueOf? pool with
      | none => rfl
      | some queue => simp [hq, hqueue] at hd

inductive Arrival (f f' : Floor) (q : Nat) (id : CallId) : Prop
  | arrive (p : Nat) (pool : Pool) (isPool : f.pool? p = some pool) (draws : pool.queue = some q)
      (queue : CallQueue) (isQueue : f.queue? q = some queue) (t : Task)
      (isOpen : t.IsOpen f.exchange.promises) (callId : t.callId = id)
      (bound : t.bound = some pool.recorders) (number : String) (gone : List Entry)
      (calls : f.calls ++ [⟨⟨f.exchange.tasks.length, id, number⟩, .waiting q⟩] ~
        gone.map (⟨·, .waiting q⟩) ++ f'.calls)
      (departs : (f.exchange.welcome t).Departs f'.exchange (gone.map Entry.task) queue.recorders)

def verdict (r : CallQueue.Entering) (crash : Option Crash) (ticket : Ticket) :
    Except Crash (Except DispatchError Ticket) :=
  match r.reply, crash with
  | .error c, _ => .error c
  | .ok _, some c => .error c
  | .ok _, none => .ok (.ok ticket)

lemma verdict_congr {r r' : CallQueue.Entering} {crash crash' : Option Crash}
    {ticket ticket' : Ticket} (hr : r.reply = r'.reply) (hc : crash = crash')
    (ht : ticket = ticket') : verdict r crash ticket = verdict r' crash' ticket' := by
  unfold verdict
  rw [hr, hc, ht]

lemma verdict_of_ok {r : CallQueue.Entering} {crash : Option Crash} {ticket : Ticket} {waits : Bool}
    (hr : r.reply = .ok waits) (hc : crash = none) : verdict r crash ticket = .ok (.ok ticket) := by
  simp only [verdict, hr, hc]

lemma enqueue_eq (f : Floor) (p q : Nat) (queue : CallQueue) (e : Entry) (future : CallFuture)
    (now : Timestamp) :
    let r := queue.push f.exchange now e
    let x := r.exchange.releaseAll r.left now
    let f₁ : Floor := { f with exchange := x.1 }.setQueue q r.queue
    (f.enqueue p q queue e future now).2 = verdict r x.2 ⟨e.id, future⟩ ∧
      ((f.enqueue p q queue e future now).1 = f₁ ∨
        (f.enqueue p q queue e future now).1 = f₁.modifyPool p Pool.wakeOne) := by
  intro r x f₁
  have he : f.enqueue p q queue e future now = match r.reply, x.2 with
      | .error c, _ => (f₁, .error c)
      | .ok _, some c => (f₁, .error c)
      | .ok waits, none =>
        (if waits then f₁.modifyPool p Pool.wakeOne else f₁, .ok (.ok ⟨e.id, future⟩)) := rfl
  rw [he]
  unfold verdict
  generalize r.reply = answer
  generalize x.2 = crash
  cases answer with
  | error c => exact ⟨rfl, .inl rfl⟩
  | ok waits =>
    cases crash with
    | some c => exact ⟨rfl, .inl rfl⟩
    | none =>
      cases waits with
      | true => exact ⟨rfl, .inr rfl⟩
      | false => exact ⟨rfl, .inl rfl⟩

lemma enqueue_spec (hqueue : f.queue? q = some queue) (e : Entry) (future : CallFuture) :
    ∃ gone : List Entry,
      f.calls ++ [⟨e, .waiting q⟩] ~
        gone.map (⟨·, .waiting q⟩) ++ (f.enqueue p q queue e future now).1.calls ∧
      f.exchange.Departs (f.enqueue p q queue e future now).1.exchange (gone.map Entry.task)
        queue.recorders := by
  let r := queue.push f.exchange now e
  let x := (r.exchange.releaseAll r.left now).1
  let f₁ : Floor := { f with exchange := x }.setQueue q r.queue
  obtain ⟨-, he⟩ := f.enqueue_eq p q queue e future now
  have hc : (f.enqueue p q queue e future now).1.calls = f₁.calls := by
    rcases he with he | he
    · rw [he]
    · rw [he]
      exact calls_modifyPool f₁ p Pool.calls_wakeOne
  have hx : (f.enqueue p q queue e future now).1.exchange = x := by
    rcases he with he | he
    · rw [he]
      rfl
    · rw [he]
      exact exchange_modifyPool f₁ p Pool.wakeOne
  obtain ⟨gone, hp, hd⟩ := queue.push_departs f.exchange now e
  have hw (j : Nat) : f₁.waitingIn j =
      if j = q then r.queue.waiting.map (⟨·, .waiting q⟩) else f.waitingIn j :=
    waitingIn_setQueue (f := { f with exchange := x }) hqueue r.queue j
  refine ⟨gone, ?_, hx ▸ hd⟩
  rw [hc]
  refine calls_exchange_queue q (fun j hj => by rw [hw, if_neg hj]) (fun _ => rfl) ?_
  rw [hw, if_pos rfl, waitingIn_of_queue? hqueue]
  simpa using hp.map fun e => (⟨e, .waiting q⟩ : Presence)

lemma bring_arrives (hd : f.door? p = some (q, id)) (taken : Bool) :
    f.Arrival (f.bring p bounds number start taken now).1 q id := by
  obtain ⟨pool, queue, hp, hq, hqueue, rfl⟩ := door?_of_some hd
  have hqueue' : f.queueOf? pool = some queue := by rw [queueOf?, hq, Option.bind_some, hqueue]
  let t := Task.newcomer f.exchange.promises bounds number start taken
  have ht : t.IsOpen f.exchange.promises := Task.newcomer_isOpen ..
  have hn := Task.admitted_isOpen ht (f.nextId pool.ids).1 pool.recorders
  rw [bring_eq]
  simp only [hp, hq, hqueue']
  rw [register_eq rfl]
  cases taken with
  | true =>
    -- It is refused with its identifier: the call that leaves is the one that came.
    refine .arrive p pool hp hq queue hqueue _ hn rfl rfl number
      [⟨f.exchange.tasks.length, (f.nextId pool.ids).1, number⟩] ?_ ?_
    · exact List.perm_append_comm
    · exact (Exchange.Handles.refl _ [_] queue.recorders).release now
  | false =>
    let f₁ := f.welcome pool.ids
      (t.admitted f.exchange.promises (f.nextId pool.ids).1 pool.recorders)
    have hqueue₁ : f₁.queue? q = some queue := hqueue
    obtain ⟨gone, hc, hd⟩ := enqueue_spec now (p := p) hqueue₁
      ⟨f.exchange.tasks.length, (f.nextId pool.ids).1, number⟩ (.of f.exchange.promises)
    exact .arrive p pool hp hq queue hqueue _ hn rfl rfl number gone hc hd

lemma refuse_ticket {k : Nat} {e : DispatchError} {ticket : Ticket}
    (h : (f.refuse k now e).2 = .ok (.ok ticket)) : False := by
  rw [refuse] at h
  dsimp only at h
  split at h <;> cases h

lemma enqueue_ticket {e : Entry} {future : CallFuture} {ticket : Ticket}
    (h : (f.enqueue p q queue e future now).2 = .ok (.ok ticket)) : ticket = ⟨e.id, future⟩ := by
  rw [enqueue] at h
  dsimp only at h
  split at h
  · cases h
  · cases h
  · exact (Except.ok.inj (Except.ok.inj h)).symm

lemma bring_ticket {ticket : Ticket}
    (h : (f.bring p bounds number start taken now).2 = .ok (.ok ticket)) :
    ticket.future = .of f.exchange.promises ∧ ∃ q, f.door? p = some (q, ticket.callId) := by
  rw [bring_eq] at h
  cases hp : f.pool? p with
  | none =>
    simp only [hp] at h
    exact (refuse_ticket now h).elim
  | some pool =>
    cases hq : pool.queue with
    | none =>
      simp only [hp, hq] at h
      exact (refuse_ticket now h).elim
    | some q =>
      cases hqueue : f.queueOf? pool with
      | none =>
        simp only [hp, hq, hqueue] at h
        exact (refuse_ticket now h).elim
      | some queue =>
        simp only [hp, hq, hqueue] at h
        rw [register_eq rfl] at h
        cases taken with
        | true => exact (refuse_ticket now h).elim
        | false =>
          obtain rfl := enqueue_ticket now h
          exact ⟨rfl, q, by simp only [door?, hp, hq, hqueue]⟩

end Bring

end Floor

end Switchboard
