import Switchboard.Proofs.Exchange.Departures
import Switchboard.Proofs.Floor.Calls
import Switchboard.Proofs.Floor.Deeds

/-! What a deed does to the calls on a floor: some of them leave, each with a story of its own, or
an operator takes one out of its queue. Nothing else can happen to them. -/

namespace Switchboard.Floor

open scoped List

def HandsTo (f : Floor) (c : Presence) (set : RecorderSet) : Prop :=
  match c.place with
  | .waiting q => ∃ queue, f.queue? q = some queue ∧ queue.recorders = set
  | .onLine s => s = set

inductive Move (f f' : Floor) : Prop
  | leave (gone : List Presence) (set : RecorderSet) (hands : ∀ c ∈ gone, f.HandsTo c set)
      (calls : f.calls ~ gone ++ f'.calls)
      (departs : f.exchange.Departs f'.exchange (gone.map Presence.task) set)
  | answer (q : Nat) (e : Entry) (p : Nat) (pool : Pool) (isPool : f.pool? p = some pool)
      (draws : pool.queue = some q)
      (calls : f.calls ++ [⟨e, .onLine pool.recorders⟩] ~ ⟨e, .waiting q⟩ :: f'.calls)
      (exchange : f'.exchange = f.exchange)

variable {f f' : Floor} {p q : Nat} {pool : Pool} {queue : CallQueue}

lemma Move.idle (hc : f'.calls = f.calls) (hx : f'.exchange = f.exchange) : f.Move f' :=
  .leave [] default (by simp) (by simp [hc]) (hx ▸ Exchange.departs_nil f.exchange default)

lemma perm_tasks_of_answer {calls calls' : List Presence} {e : Entry} {set : RecorderSet}
    (h : calls ++ [⟨e, .onLine set⟩] ~ ⟨e, .waiting q⟩ :: calls') :
    calls.map Presence.task ~ calls'.map Presence.task := by
  have hm := h.map Presence.task
  simp only [List.map_append, List.map_cons, List.map_nil] at hm
  exact (List.perm_append_comm.trans hm).cons_inv

lemma exchange_modifyPool (f : Floor) (p : Nat) (g : Pool → Pool) :
    (f.modifyPool p g).exchange = f.exchange := by
  rw [modifyPool]
  split <;> rfl

lemma exchange_modifyQueue (f : Floor) (q : Nat) (g : CallQueue → CallQueue) :
    (f.modifyQueue q g).exchange = f.exchange := by
  rw [modifyQueue]
  split <;> rfl

lemma pool?_modifyQueue (f : Floor) (q : Nat) (g : CallQueue → CallQueue) (p : Nat) :
    (f.modifyQueue q g).pool? p = f.pool? p := by
  rw [modifyQueue]
  split <;> rfl

lemma queue?_modifyQueue_of_ne (f : Floor) (g : CallQueue → CallQueue) {j : Nat} (hj : j ≠ q) :
    (f.modifyQueue q g).queue? j = f.queue? j := by
  cases h : f.queue? q with
  | none => rw [modifyQueue_of_none h]
  | some queue => rw [modifyQueue_of_some h, queue?_setQueue h, if_neg hj]

lemma move_modifyPool (f : Floor) (p : Nat) {g : Pool → Pool}
    (hg : ∀ pool : Pool, (g pool).calls = pool.calls) : f.Move (f.modifyPool p g) :=
  .idle (calls_modifyPool f p hg) (exchange_modifyPool f p g)

lemma join_getElem?_append {α : Type} (l : List (Option α)) (a : Option α) (j : Nat) :
    ((l ++ [a])[j]?).join = if j = l.length then a else (l[j]?).join := by
  by_cases hj : j < l.length
  · simp [List.getElem?_append_left hj, Nat.ne_of_lt hj]
  · by_cases he : j = l.length
    · simp [he]
    · have hlong : (l ++ [a]).length ≤ j := by
        rw [List.length_append, List.length_singleton]
        omega
      have hl : l.length ≤ j := by omega
      rw [if_neg he, List.getElem?_eq_none hlong, List.getElem?_eq_none hl]

def withQueue (f : Floor) (capacity : UInt64) : Floor :=
  ((f.newRecorders []).2.newQueue capacity (.empty f.recorderSets)).2

lemma queue?_withQueue (f : Floor) (capacity : UInt64) (j : Nat) :
    (f.withQueue capacity).queue? j =
      if j = f.queues.length then some (.empty capacity (.empty f.recorderSets)) else f.queue? j :=
  join_getElem?_append f.queues _ j

lemma waitingIn_withQueue (f : Floor) (capacity : UInt64) (j : Nat) :
    (f.withQueue capacity).waitingIn j = f.waitingIn j := by
  rw [waitingIn, waitingIn, queue?_withQueue]
  by_cases hj : j = f.queues.length
  · simp [hj, CallQueue.empty, queue?]
  · simp [hj]

def newcomers (f : Floor) (size : Nat) : List Operator :=
  (List.range size).map fun i => ⟨UInt64.ofNat (f.hired + i + 1), .awake⟩

lemma pool?_poolAround (f : Floor) (size : Nat) (q : Option Nat) (set : RecorderSet) (ids j : Nat) :
    (f.poolAround size q set ids).2.pool? j =
      if j = f.pools.length then some ⟨f.newcomers size, q, set, ids, true, false, false⟩
      else f.pool? j :=
  join_getElem?_append f.pools _ j

lemma onLineIn_poolAround (f : Floor) (size : Nat) (q : Option Nat) (set : RecorderSet)
    (ids j : Nat) : (f.poolAround size q set ids).2.onLineIn j = f.onLineIn j := by
  rw [onLineIn, onLineIn, pool?_poolAround]
  by_cases hj : j = f.pools.length
  · simp [hj, Pool.calls, newcomers, List.filterMap_map, Operator.call?, pool?]
  · simp [hj]

lemma newPool_eq (f : Floor) (size : Nat) (capacity : UInt64) :
    (f.newPool size capacity).2 =
      (((f.withQueue capacity).newIds 1).2.poolAround size (some f.queues.length)
        (.empty f.recorderSets) f.idSources.length).2 := rfl

lemma move_newPool (f : Floor) (size : Nat) (capacity : UInt64) :
    f.Move (f.newPool size capacity).2 := by
  rw [newPool_eq]
  exact .idle (calls_congr (waitingIn_withQueue f capacity) (onLineIn_poolAround _ size _ _ _)) rfl

lemma act_build {size : Nat} {capacity : UInt64} (h : overflow? size (some capacity) = none) :
    f.act (.build size capacity) = (f.newPool size capacity).2 := by
  simp only [act, buildPool, h]

lemma act_build_of_overflow {size : Nat} {capacity : UInt64} {crash : Crash}
    (h : overflow? size (some capacity) = some crash) : f.act (.build size capacity) = f := by
  simp only [act, buildPool, h]

lemma move_build (f : Floor) (size : Nat) (capacity : UInt64) :
    f.Move (f.act (.build size capacity)) := by
  cases ho : overflow? size (some capacity) with
  | none =>
    rw [act_build ho]
    exact move_newPool f size capacity
  | some crash =>
    rw [act_build_of_overflow ho]
    exact .idle rfl rfl

lemma nodup_waiting (hn : (f.calls.map Presence.task).Nodup) (hq : f.queue? q = some queue) :
    (queue.waiting.map Entry.task).Nodup := by
  obtain ⟨rest, hc, -⟩ : ∃ rest, f.calls ~ f.waitingIn q ++ f.onLineIn 0 ++ rest ∧ _ :=
    calls_split q 0 (fun _ _ => rfl) fun _ _ => rfl
  have hs := (hc.map Presence.task).nodup_iff.1 hn
  rw [waitingIn_of_queue? hq] at hs
  simp only [List.map_append, List.map_map] at hs
  exact (List.nodup_append.1 (List.nodup_append.1 hs).1).1

lemma letGoQueue_cases (hn : (f.calls.map Presence.task).Nodup) (own : Option Nat)
    (now : Timestamp) :
    (f.letGoQueue own now).1 = f ∨
      ∃ k queue x, own = some k ∧ f.usesQueue k = false ∧ f.queue? k = some queue ∧
        (f.letGoQueue own now).1 = { f with exchange := x, queues := f.queues.set k none } ∧
        f.exchange.Departs x (queue.waiting.map Entry.task) queue.recorders := by
  cases own with
  | none => exact .inl rfl
  | some k =>
    cases hu : f.usesQueue k with
    | true => exact .inl (by simp only [letGoQueue, hu])
    | false =>
      cases hq : f.queue? k with
      | none => exact .inl (by simp only [letGoQueue, hu, hq])
      | some queue =>
        have h := Exchange.handles_tearDown queue now f.exchange (nodup_waiting hn hq)
        refine .inr ⟨k, queue, _, rfl, hu, hq, ?_, h.release now⟩
        simp only [letGoQueue, hu, hq, release]

lemma not_draws (h : f.usesQueue q = false) (hp : f.pool? p = some pool) : pool.queue ≠ some q := by
  intro hq
  have hm : some pool ∈ f.pools := by
    have := pool_lt hp
    have he : f.pools[p] = some pool := by simpa [pool?, this] using hp
    exact he ▸ List.getElem_mem this
  have := List.any_eq_false.1 h _ hm
  simp [hq] at this

lemma calls_dropQueue (hq : f.queue? q = some queue) (x : Exchange) :
    f.calls ~ queue.waiting.map (⟨·, .waiting q⟩) ++
      ({ f with exchange := x, queues := f.queues.set q none } : Floor).calls := by
  let f' : Floor := { f with exchange := x, queues := f.queues.set q none }
  have hj (j : Nat) : f'.queue? j = if j = q then none else f.queue? j :=
    join_getElem?_set (queue_lt hq) none j
  have h : f.calls ++ [] ~ queue.waiting.map (⟨·, .waiting q⟩) ++ f'.calls :=
    calls_exchange_queue q (fun j hne => by simp [waitingIn, hj, hne]) (fun _ => rfl)
      (by simp [waitingIn, hj, hq])
  simpa using h

lemma move_letGoQueue {f₁ f₂ : Floor} (hn : (f.calls.map Presence.task).Nodup)
    (hc : f₁.calls = f.calls) (hx : f₁.exchange = f.exchange) (own : Option Nat) (now : Timestamp)
    (hq : ∀ k, own = some k → f₁.usesQueue k = false → f₁.queue? k = f.queue? k)
    (hc₂ : f₂.calls = (f₁.letGoQueue own now).1.calls)
    (hx₂ : f₂.exchange = (f₁.letGoQueue own now).1.exchange) : f.Move f₂ := by
  rcases letGoQueue_cases (hc ▸ hn) own now with he | ⟨k, queue, x, hk, hu, hqk, he, hd⟩
  · exact .idle (by rw [hc₂, he, hc]) (by rw [hx₂, he, hx])
  · refine .leave (queue.waiting.map (⟨·, .waiting k⟩)) queue.recorders ?_ ?_ ?_
    · intro c hm
      obtain ⟨e, -, rfl⟩ := List.mem_map.1 hm
      exact ⟨queue, hq k hk hu ▸ hqk, rfl⟩
    · rw [hc₂, he, ← hc]
      exact calls_dropQueue hqk x
    · rw [hx₂, he, ← hx]
      simpa [List.map_map, Function.comp_def, Presence.task] using hd

def redirect (f : Floor) (q : Option Nat) (set : RecorderSet) : Floor :=
  match q with
  | none => f
  | some q => f.modifyQueue q (·.setRecorders set)

lemma calls_redirect (f : Floor) (q : Option Nat) (set : RecorderSet) :
    (f.redirect q set).calls = f.calls := by
  cases q with
  | none => rfl
  | some q => exact calls_modifyQueue f q fun _ => rfl

lemma exchange_redirect (f : Floor) (q : Option Nat) (set : RecorderSet) :
    (f.redirect q set).exchange = f.exchange := by
  cases q with
  | none => rfl
  | some q => exact exchange_modifyQueue f q _

lemma pool?_redirect (f : Floor) (q : Option Nat) (set : RecorderSet) (p : Nat) :
    (f.redirect q set).pool? p = f.pool? p := by
  cases q with
  | none => rfl
  | some q => exact pool?_modifyQueue f q _ p

lemma queue?_redirect_of_ne (f : Floor) {q : Option Nat} (set : RecorderSet) {j : Nat}
    (hj : q ≠ some j) : (f.redirect q set).queue? j = f.queue? j := by
  cases q with
  | none => rfl
  | some q => exact queue?_modifyQueue_of_ne f _ fun h => hj (congrArg some h.symm)

lemma setRecorders_eq (hp : f.pool? p = some pool) (set : RecorderSet) :
    f.setRecorders p set =
      (f.redirect pool.queue set).setPool p { pool with recorders := set } := by
  simp only [setRecorders, hp]
  rfl

lemma setRecorders_of_none (hp : f.pool? p = none) (set : RecorderSet) :
    f.setRecorders p set = f := by
  simp only [setRecorders, hp]

lemma move_setRecorders (f : Floor) (p : Nat) (set : RecorderSet) :
    f.Move (f.setRecorders p set) := by
  cases hp : f.pool? p with
  | none =>
    rw [setRecorders_of_none hp]
    exact .idle rfl rfl
  | some pool =>
    have hp' : (f.redirect pool.queue set).pool? p = some pool := by rw [pool?_redirect, hp]
    have hc : ((f.redirect pool.queue set).setPool p { pool with recorders := set }).calls =
        (f.redirect pool.queue set).calls := calls_setPool hp' rfl
    rw [setRecorders_eq hp]
    exact .idle (hc.trans (calls_redirect ..)) (exchange_redirect ..)

def takeQueue (f : Floor) (p : Nat) (pool : Pool) (q : Option Nat) (set : RecorderSet) : Floor :=
  (f.redirect q set).setPool p { pool with queue := q }

lemma pool?_takeQueue (hp : f.pool? p = some pool) (q : Option Nat) (set : RecorderSet) :
    (f.takeQueue p pool q set).pool? p = some { pool with queue := q } := by
  rw [takeQueue, pool?_setPool ((pool?_redirect f q set p).trans hp), if_pos rfl]

lemma move_takeQueue (hn : (f.calls.map Presence.task).Nodup) (hp : f.pool? p = some pool)
    (q : Option Nat) (set : RecorderSet) (now : Timestamp) {f₂ : Floor}
    (hc : f₂.calls = ((f.takeQueue p pool q set).letGoQueue pool.queue now).1.calls)
    (hx : f₂.exchange = ((f.takeQueue p pool q set).letGoQueue pool.queue now).1.exchange) :
    f.Move f₂ := by
  have hp' : (f.redirect q set).pool? p = some pool := (pool?_redirect f q set p).trans hp
  have hc₁ : (f.takeQueue p pool q set).calls = (f.redirect q set).calls := calls_setPool hp' rfl
  refine move_letGoQueue hn (hc₁.trans (calls_redirect ..)) (exchange_redirect ..) pool.queue now
    (fun k _ hu => ?_) hc hx
  -- The pool draws from the queue that it takes, so that is not the one that is torn down.
  have hd : q ≠ some k := not_draws hu (pool?_takeQueue hp q set)
  exact queue?_redirect_of_ne f set hd

lemma pool?_letGoQueue (f : Floor) (q : Option Nat) (now : Timestamp) (p : Nat) :
    (f.letGoQueue q now).1.pool? p = f.pool? p := by
  unfold letGoQueue
  cases q with
  | none => rfl
  | some q => dsimp only; split <;> rfl

lemma transfer_eq {other : Pool} {old : Nat} (hp : f.pool? p = some pool)
    (ho : f.pool? old = some other) (now : Timestamp) :
    (f.transfer p old now).1 =
      let r := (f.takeQueue p pool other.queue other.recorders).letGoQueue pool.queue now
      if r.2.isNone then
        r.1.setPool p
          { pool with queue := other.queue, recorders := other.recorders, ids := other.ids }
      else r.1 := by
  simp only [transfer, hp, ho]
  rfl

lemma transfer_of_none (hp : f.pool? p = none) (old : Nat) (now : Timestamp) :
    (f.transfer p old now).1 = f := by
  simp only [transfer, hp]

lemma transfer_of_none_old {old : Nat} (ho : f.pool? old = none) (p : Nat) (now : Timestamp) :
    (f.transfer p old now).1 = f := by
  cases hp : f.pool? p with
  | none => exact transfer_of_none hp old now
  | some pool => simp only [transfer, hp, ho]

lemma move_transfer (hn : (f.calls.map Presence.task).Nodup) (p old : Nat) (now : Timestamp) :
    f.Move (f.transfer p old now).1 := by
  cases hp : f.pool? p with
  | none =>
    rw [transfer_of_none hp]
    exact .idle rfl rfl
  | some pool =>
    cases ho : f.pool? old with
    | none =>
      rw [transfer_of_none_old ho]
      exact .idle rfl rfl
    | some other =>
      have hp₂ := (pool?_letGoQueue _ pool.queue now p).trans
        (pool?_takeQueue hp other.queue other.recorders)
      rw [transfer_eq hp ho]
      dsimp only
      split
      · exact move_takeQueue hn hp _ _ now (calls_setPool hp₂ rfl) rfl
      · exact move_takeQueue hn hp _ _ now rfl rfl

lemma installQueue_eq (hp : f.pool? p = some pool) (q : Nat) (now : Timestamp) :
    (f.installQueue p q now).1 =
      let r := (f.takeQueue p pool (some q) pool.recorders).letGoQueue pool.queue now
      if r.2.isNone then r.1.modifyPool p Pool.wakeAll else r.1 := by
  simp only [installQueue, hp]
  rfl

lemma installQueue_of_none (hp : f.pool? p = none) (q : Nat) (now : Timestamp) :
    (f.installQueue p q now).1 = f := by
  simp only [installQueue, hp]

lemma move_installQueue (hn : (f.calls.map Presence.task).Nodup) (p q : Nat) (now : Timestamp) :
    f.Move (f.installQueue p q now).1 := by
  cases hp : f.pool? p with
  | none =>
    rw [installQueue_of_none hp]
    exact .idle rfl rfl
  | some pool =>
    rw [installQueue_eq hp]
    dsimp only
    split
    · exact move_takeQueue hn hp _ _ now (calls_modifyPool _ p Pool.calls_wakeAll)
        (exchange_modifyPool ..)
    · exact move_takeQueue hn hp _ _ now rfl rfl

lemma Move.from {f₁ : Floor} (h : f₁.Move f') (hc : f₁.calls = f.calls)
    (hx : f₁.exchange = f.exchange)
    (hq : ∀ q queue, f.queue? q = some queue → f₁.queue? q = some queue)
    (hp : ∀ p, f₁.pool? p = f.pool? p) : f.Move f' := by
  cases h with
  | leave gone set hands calls departs =>
    refine .leave gone set (fun c hm => ?_) (hc ▸ calls) (hx ▸ departs)
    have hmem : c ∈ f.calls := hc ▸ calls.mem_iff.2 (List.mem_append_left _ hm)
    have hs := hands c hm
    rw [HandsTo] at hs ⊢
    cases hpl : c.place with
    | waiting q =>
      obtain ⟨queue, hqueue, -⟩ := queue_of_mem hmem hpl
      simp only [hpl, hq q queue hqueue] at hs
      simpa only [hqueue] using hs
    | onLine s => simpa only [hpl] using hs
  | answer q e p pool isPool draws calls exchange =>
    exact .answer q e p pool (hp p ▸ isPool) draws (hc ▸ calls) (hx ▸ exchange)

lemma replaceQueue_eq {capacity : UInt64} (ho : CallQueue.overflow? capacity = none) (p : Nat)
    (now : Timestamp) :
    (f.replaceQueue p capacity now).1 =
      ((f.withQueue capacity).installQueue p f.queues.length now).1 := by
  simp only [replaceQueue, ho]
  rfl

lemma replaceQueue_of_overflow {capacity : UInt64} {crash : Crash}
    (ho : CallQueue.overflow? capacity = some crash) (p : Nat) (now : Timestamp) :
    (f.replaceQueue p capacity now).1 = f := by
  simp only [replaceQueue, ho]

lemma move_replaceQueue (hn : (f.calls.map Presence.task).Nodup) (p : Nat) (capacity : UInt64)
    (now : Timestamp) : f.Move (f.replaceQueue p capacity now).1 := by
  cases ho : CallQueue.overflow? capacity with
  | some crash =>
    rw [replaceQueue_of_overflow ho]
    exact .idle rfl rfl
  | none =>
    have hc : (f.withQueue capacity).calls = f.calls :=
      calls_congr (waitingIn_withQueue f capacity) fun _ => rfl
    have hm : (f.withQueue capacity).Move _ :=
      move_installQueue (hc ▸ hn) p f.queues.length now
    rw [replaceQueue_eq ho]
    refine hm.from hc rfl (fun q queue hq => ?_) fun _ => rfl
    rw [queue?_withQueue, if_neg (Nat.ne_of_lt (queue_lt hq)), hq]

lemma calls_of_live_eq_zero (h : pool.live = 0) : pool.calls = [] := by
  have hg : ∀ o ∈ pool.operators, o.isGone = true := by
    simpa [Pool.live, List.filter_eq_nil_iff] using h
  apply List.filterMap_eq_nil_iff.2
  intro o ho
  have ho := hg o ho
  obtain ⟨id, stance⟩ := o
  cases stance with
  | gone => rfl
  | _ => cases ho

def withoutPool (f : Floor) (p : Nat) : Floor := { f with pools := f.pools.set p none }

lemma pool?_withoutPool (hp : f.pool? p = some pool) (j : Nat) :
    (f.withoutPool p).pool? j = if j = p then none else f.pool? j :=
  join_getElem?_set (pool_lt hp) none j

lemma dismiss_cases (f : Floor) (p : Nat) (now : Timestamp) :
    (f.dismiss p now).1 = f ∨
      ∃ pool, f.pool? p = some pool ∧ (pool.closing = true ∧ pool.live = 0) ∧
      (f.dismiss p now).1 = ((f.withoutPool p).letGoQueue pool.queue now).1 := by
  cases hp : f.pool? p with
  | none => exact .inl (by simp only [dismiss, hp])
  | some pool =>
    cases hl : pool.closing && pool.live == 0 with
    | false => exact .inl (by simp only [dismiss, hp, hl, Bool.false_eq_true, if_false])
    | true =>
      have hz : pool.closing = true ∧ pool.live = 0 := by simpa using hl
      refine .inr ⟨pool, rfl, hz, ?_⟩
      simp only [dismiss, hp, hl, if_true]
      rfl

lemma move_dismiss (hn : (f.calls.map Presence.task).Nodup) (p : Nat) (now : Timestamp) :
    f.Move (f.dismiss p now).1 := by
  rcases dismiss_cases f p now with he | ⟨pool, hp, ⟨-, hl⟩, he⟩
  · rw [he]
    exact .idle rfl rfl
  · have hc : (f.withoutPool p).calls = f.calls := by
      refine calls_congr (fun _ => rfl) ?_
      intro j
      rw [onLineIn, onLineIn, pool?_withoutPool hp]
      by_cases hj : j = p
      · simp [hj, hp, calls_of_live_eq_zero hl]
      · simp [hj]
    exact move_letGoQueue hn hc rfl pool.queue now (fun _ _ _ => rfl) (by rw [he]) (by rw [he])

lemma move_beginStart (f : Floor) (p : Nat) : f.Move (f.beginStart p).2 := by
  cases hp : f.pool? p with
  | none => exact .idle (by simp only [beginStart, hp]) (by simp only [beginStart, hp])
  | some pool =>
    have he : (f.beginStart p).2 = f.setPool p pool.beginStart.2 := by
      simp only [beginStart, hp]
    exact he ▸ .idle (calls_setPool hp rfl) rfl

lemma move_revive (f : Floor) (p : Nat) : f.Move (f.revive p) := by
  cases hp : f.pool? p with
  | none => exact .idle (by simp only [revive, hp]) (by simp only [revive, hp])
  | some pool =>
    have he : f.revive p =
        { f.setPool p (pool.revive (f.hired + 1)) with hired := f.hired + pool.size } := by
      simp only [revive, hp]
    have hc := calls_setPool hp (Pool.calls_revive pool (f.hired + 1))
    exact he ▸ .idle hc rfl

lemma move_setCapacity (f : Floor) (q : Nat) (capacity : UInt64) :
    f.Move (f.setCapacity q capacity) :=
  .idle (calls_modifyQueue f q fun _ => rfl) (exchange_modifyQueue f q _)

end Switchboard.Floor
