import Switchboard.Proofs.Floor.Arrivals

namespace Switchboard

namespace Exchange

variable {x : Exchange} {t : Task}

def visited (x : Exchange) (l : Log) : Exchange :=
  { x with
    tasks := x.tasks ++ [none]
    log := x.log ++ l
    journal := x.journal ++ l.map fun e => (x.tasks.length, e) }

lemma release_enter (x : Exchange) (t : Task) (now : Timestamp) :
    (x.enter t).2.release x.tasks.length now =
      (x.visited (t.drop now).events, crashOf (some (t.drop now).reply)) := by
  rw [release, turn_of_some (task?_enter x t)]
  simp [enter, visited]

lemma visited_others (x : Exchange) (l : Log) {k : Nat} (hk : k ≠ x.tasks.length) :
    (x.visited l).task? k = x.task? k ∧ (x.visited l).story k = x.story k := by
  constructor
  · exact (Floor.join_getElem?_append x.tasks none k).trans (if_neg hk)
  · have hs := story_append x (x.tasks ++ [none]) (x.log ++ l) x.promises x.tasks.length l k
    rw [if_neg hk, List.append_nil] at hs
    exact hs

end Exchange

lemma Log.ending?_settled (p : PromiseId) (o : Outcome) :
    Log.ending? p [.settled p o] = some (some o) := by
  simp [Log.ending?]

lemma Log.ending?_settled_ne {p : PromiseId} (o : Outcome) :
    ∀ p' ≠ p, Log.ending? p' [.settled p o] = none := by
  intro p' hp
  simp [Log.ending?, hp.symm]

lemma CallFuture.tryResult_congr {w : CallFuture} {log l : Log}
    (h : log.ending? w.promise = l.ending? w.promise) : w.tryResult log = w.tryResult l := by
  rw [tryResult, tryResult, h]

lemma CallFuture.tryResult_append {p : PromiseId} {log l : Log} {o : Outcome}
    (hopen : log.ending? p = none) (hl : l.ending? p = some (some o)) :
    ((CallFuture.of p).tryResult (log ++ l)).1 = some o := by
  have he : (log ++ l).ending? p = some (some o) := by
    rw [Log.ending?_append, hopen, hl, Option.none_or]
  simp [tryResult, CallFuture.of, he]

namespace Floor

structure Spares (f f' : Floor) (k : Nat) (p : PromiseId) : Prop where
  queues : f'.queues = f.queues
  pools : f'.pools = f.pools
  hired : f'.hired = f.hired
  recorderSets : f'.recorderSets = f.recorderSets
  promises : f'.exchange.promises = f.exchange.promises
  others : ∀ j ≠ k, f'.exchange.task? j = f.exchange.task? j ∧
    f'.exchange.story j = f.exchange.story j
  futures : ∀ w : CallFuture, w.promise ≠ p → w.tryResult f'.log = w.tryResult f.log

variable {f : Floor} {p : Nat} {pool : Pool} {queue : CallQueue} {t : Task} {q : Promise}

lemma spares_visited {l : Log} {p : PromiseId} (hl : ∀ p' ≠ p, l.ending? p' = none)
    (ids : List CallId) :
    f.Spares { f with idSources := ids, exchange := f.exchange.visited l }
      f.exchange.tasks.length p where
  queues := rfl
  pools := rfl
  hired := rfl
  recorderSets := rfl
  promises := rfl
  others _ hj := f.exchange.visited_others l hj
  futures w hw := by
    apply CallFuture.tryResult_congr
    exact (Log.ending?_append ..).trans (by rw [hl w.promise hw, Option.or_none]; rfl)

lemma refuse_enter (f : Floor) (t : Task) (now : Timestamp) (e : DispatchError)
    (h : (t.drop now).reply = .ok ()) :
    ({ f with exchange := (f.exchange.enter t).2 } : Floor).refuse f.exchange.tasks.length now e =
      ({ f with exchange := f.exchange.visited (t.drop now).events }, .ok (.error e)) := by
  simp only [refuse, release, Exchange.releaseAll, Exchange.release_enter, h, Exchange.crashOf,
    Option.or_none]

lemma addTask_of_no_queue (hp : f.pool? p = some pool) (h : f.queueOf? pool = none)
    (ht : t.promise = some q) (hb : t.bound = none) (now : Timestamp) :
    f.addTask p t now =
      ({ f with exchange := f.exchange.visited [.settled q.id (.error (.abandoned t.callId))] },
        .ok (.error .queueNotInstalled)) := by
  have hp' : ({ f with exchange := (f.exchange.enter t).2 } : Floor).pool? p = some pool := hp
  have h' : ({ f with exchange := (f.exchange.enter t).2 } : Floor).queueOf? pool = none := h
  obtain ⟨hevents, hreply⟩ := Task.drop_of_unbound ht hb now
  have hrefuse := f.refuse_enter t now .queueNotInstalled hreply
  rw [hevents] at hrefuse
  rw [← hrefuse]
  simp only [addTask, hp', h']
  cases pool.queue <;> rfl

lemma addTask_to_queue (hp : f.pool? p = some pool) (h : f.queueOf? pool = some queue) (t : Task)
    (now : Timestamp) :
    ∃ k, f.addTask p t now = ({ f with exchange := (f.exchange.enter t).2 } : Floor).register p k
      pool queue f.exchange.tasks.length t now := by
  obtain ⟨k, hk, -⟩ := Option.bind_eq_some_iff.1 h
  have hp' : ({ f with exchange := (f.exchange.enter t).2 } : Floor).pool? p = some pool := hp
  have h' : ({ f with exchange := (f.exchange.enter t).2 } : Floor).queueOf? pool = some queue := h
  refine ⟨k, ?_⟩
  simp only [addTask, hp', hk, h']
  rfl

lemma addTask_of_taken (hp : f.pool? p = some pool) (h : f.queueOf? pool = some queue)
    (hc : pool.recorders.Calm) (hr : t.recorded = false) (ht : t.promise = some q)
    (taken : q.taken = true) (now : Timestamp) :
    let id := (f.nextId pool.ids).1
    f.addTask p t now =
      ({ (f.nextId pool.ids).2 with
          exchange := f.exchange.visited
            [.recorded pool.recorders ((t.assignCallId id).record.finishFailed now),
              .settled q.id (.error (.abandoned id))] },
        .ok (.error (.queue s!"result future of call {id} already taken"))) := by
  intro id
  obtain ⟨k, hk⟩ := addTask_to_queue hp h t now
  let t' := t.admitted q.id id pool.recorders
  obtain ⟨e, hevents, ⟨-, hcrash⟩ | ⟨rfl, hreply⟩⟩ :=
    t'.drop_of_bound (q := ⟨q.id, true⟩) hr rfl rfl now
  · exact absurd hc hcrash
  rw [hk, register_enter ht]
  simp only [taken, if_true]
  have hrefuse := refuse_enter (f.nextId pool.ids).2 t' now
    (.queue s!"result future of call {id} already taken") hreply
  rw [hevents] at hrefuse
  exact hrefuse

lemma addTask_of_free (hp : f.pool? p = some pool) (h : f.queueOf? pool = some queue)
    (hc : queue.recorders.Calm) (ht : t.promise = some q) (free : q.taken = false)
    (now : Timestamp) :
    (f.addTask p t now).2 = .ok (.ok ⟨(f.nextId pool.ids).1, .of q.id⟩) := by
  obtain ⟨k, hk⟩ := addTask_to_queue hp h t now
  rw [hk, register_enter ht]
  simp only [free, Bool.false_eq_true, if_false]
  rw [(enqueue_eq ..).1]
  exact verdict_of_ok (queue.push_calm hc _ now _) (queue.push_release_calm hc _ now _)

end Floor

open Floor in
theorem refusal_leaves_the_rest_alone {f : Floor} {p : Nat} {pool : Pool}
    (hp : f.pool? p = some pool) (hc : pool.recorders.Calm)
    (hq : ∀ queue, f.queueOf? pool = some queue → queue.recorders.Calm) {t : Task} {q : Promise}
    (hr : t.recorded = false) (ht : t.promise = some q) (hb : t.bound = none) (now : Timestamp) :
    let f' := (f.addTask p t now).1
    let reply := (f.addTask p t now).2
    let id := (f.nextId pool.ids).1
    ((∃ e, reply = .ok (.error e)) → f.Spares f' f.exchange.tasks.length q.id) ∧
    (f.queueOf? pool = none →
      reply = .ok (.error .queueNotInstalled) ∧ f'.idSources = f.idSources ∧
      f'.log = f.log ++ [.settled q.id (.error (.abandoned t.callId))] ∧
      (f.log.ending? q.id = none →
        ((CallFuture.of q.id).tryResult f'.log).1 = some (.error (.abandoned t.callId)))) ∧
    ∀ queue, f.queueOf? pool = some queue →
      ((∃ e, reply = .ok (.error e)) ↔ q.taken = true) ∧
      (q.taken = false → reply = .ok (.ok ⟨id, .of q.id⟩)) ∧
      (q.taken = true →
        reply = .ok (.error (.queue s!"result future of call {id} already taken")) ∧
        f'.idSources = f.idSources.set pool.ids (id + 1) ∧
        (∃ r, f'.log =
            f.log ++ [.recorded pool.recorders r, .settled q.id (.error (.abandoned id))] ∧
          r.callId = id ∧ r.status = .rejected ∧ r.duration = .zero) ∧
        (f.log.ending? q.id = none →
          ((CallFuture.of q.id).tryResult f'.log).1 = some (.error (.abandoned id)))) := by
  intro f' reply id
  cases hqueue : f.queueOf? pool with
  | none =>
    have hf : f.addTask p t now = _ := addTask_of_no_queue hp hqueue ht hb now
    have hf' : f' = _ := congrArg Prod.fst hf
    have hreply : reply = _ := congrArg Prod.snd hf
    rw [hf', hreply]
    refine ⟨fun _ => spares_visited (Log.ending?_settled_ne _) f.idSources, fun _ => ?_, nofun⟩
    refine ⟨rfl, rfl, rfl, fun hopen => ?_⟩
    exact CallFuture.tryResult_append hopen (Log.ending?_settled ..)
  | some queue =>
    cases htaken : q.taken with
    | false =>
      have hreply : reply = _ := addTask_of_free hp hqueue (hq queue hqueue) ht htaken now
      have hticket : ¬ ∃ e, reply = .ok (.error e) := by
        rw [hreply]
        rintro ⟨e, he⟩
        cases he
      refine ⟨fun h => absurd h hticket, nofun, fun _ _ => ?_⟩
      exact ⟨iff_of_false hticket Bool.false_ne_true, fun _ => hreply, nofun⟩
    | true =>
      have hf : f.addTask p t now = _ := addTask_of_taken hp hqueue hc hr ht htaken now
      have hf' : f' = _ := congrArg Prod.fst hf
      have hreply : reply = _ := congrArg Prod.snd hf
      rw [hf', hreply]
      have hends := Log.ending?_settled q.id (.error (.abandoned id))
      have hothers := Log.ending?_settled_ne (p := q.id) (.error (.abandoned id))
      refine ⟨fun _ => spares_visited (l := .recorded _ _ :: [_]) hothers _, nofun, fun _ _ => ?_⟩
      refine ⟨iff_of_true ⟨_, rfl⟩ rfl, nofun, fun _ => ⟨rfl, rfl, ⟨_, rfl, rfl, rfl, rfl⟩, ?_⟩⟩
      exact fun hopen => CallFuture.tryResult_append hopen hends

theorem refusal_leaves_the_rest_alone_of_a_taken_future :
    let noon := Timestamp.ofPosition 0
    let bounds : ServiceBounds := ⟨1, 2, .ofSeconds 3⟩
    let f := (Day.after [.build 1 4, .bring 0 bounds "555-0100" noon false noon]).floor
    let t := (Task.fresh 7 bounds "555-0199" noon).takeFuture.1
    let f' := (f.addTask 0 t noon).1
    (f.addTask 0 t noon).2 = .ok (.error (.queue "result future of call 2 already taken")) ∧
      f.Spares f' 1 7 ∧ f'.idSources = [3] ∧
      ((CallFuture.of 7).tryResult f'.log).1 = some (.error (.abandoned 2)) := by
  intro noon bounds f t f'
  have hf : f.pool? 0 = some
      ⟨[⟨1, .awake⟩], some 0, ⟨0, []⟩, 0, true, false, false⟩ := rfl
  have hqueue : f.queueOf? ⟨[⟨1, .awake⟩], some 0, ⟨0, []⟩, 0, true, false, false⟩ =
      some ⟨[⟨0, 1, "555-0100"⟩], 4, ⟨0, []⟩⟩ := rfl
  obtain ⟨hspares, -, h⟩ := refusal_leaves_the_rest_alone hf (RecorderSet.calm_empty 0)
    (fun queue h => by cases hqueue.symm.trans h; exact RecorderSet.calm_empty 0)
    (t := t) rfl rfl rfl noon
  obtain ⟨hiff, -, htaken⟩ := h _ hqueue
  obtain ⟨hreply, hids, -, hfuture⟩ := htaken rfl
  have htext : s!"result future of call {(2 : CallId)} already taken" =
      "result future of call 2 already taken" := by decide
  exact ⟨htext ▸ hreply, hspares (hiff.2 rfl), hids, hfuture rfl⟩

end Switchboard
