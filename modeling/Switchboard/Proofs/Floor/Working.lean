import Switchboard.Proofs.Floor.Moves

namespace Switchboard.Floor

open scoped List

variable {f : Floor} {p i : Nat} {pool : Pool} {o : Operator} {e : Entry} {set : RecorderSet}
  {since : Timestamp}

lemma move_setStance (hp : f.pool? p = some pool) (hi : pool.operators[i]? = some o)
    (ho : o.call? = none) {s : Stance} (hs : Operator.call? ⟨o.id, s⟩ = none) :
    f.Move (f.setStance p i s) := by
  have hc : (f.setPool p (pool.setStance i s)).calls = f.calls :=
    calls_setPool hp (Pool.calls_setStance_of_none hi ho hs)
  rw [setStance, modifyPool_of_some hp]
  exact .idle hc rfl

lemma look_cases (hp : f.pool? p = some pool) (i : Nat) (now : Timestamp) :
    (pool.closing = true ∧ f.look p i now = f.setStance p i .gone) ∨
      ((pool.paused = true ∨ f.hasNoCalls pool = true) ∧
        f.look p i now = f.setStance p i .parked) ∨
      ∃ q queue e es, pool.isRunning = true ∧ pool.queue = some q ∧ f.queue? q = some queue ∧
        queue.waiting = e :: es ∧
        f.look p i now = (f.setQueue q { queue with waiting := es }).setStance p i
          (.serving e pool.recorders now) := by
  cases hc : pool.closing with
  | true => exact .inl ⟨rfl, by simp only [look, hp, hc, if_true]⟩
  | false =>
    apply Or.inr
    cases hw : f.hasWork pool with
    | false =>
      have hidle : pool.paused = true ∨ f.hasNoCalls pool = true := by
        cases hpaused : pool.paused with
        | true => exact .inl rfl
        | false =>
          rw [hasWork, hpaused, Bool.not_false, Bool.true_and, Bool.not_eq_false'] at hw
          exact .inr hw
      exact .inl ⟨hidle, by simp only [look, hp, hc, hw, Bool.false_eq_true, if_false]⟩
    | true =>
      have hrun : pool.isRunning = true := by
        have hpaused : pool.paused = false := by simpa using (Bool.and_eq_true_iff.1 hw).1
        simp only [Pool.isRunning, hpaused, hc, Bool.not_false, Bool.and_self]
      cases hq : pool.queue with
      | none => simp [hasWork, hasNoCalls, queueOf?, hq] at hw
      | some q =>
        cases hqueue : f.queue? q with
        | none => simp [hasWork, hasNoCalls, queueOf?, hq, hqueue] at hw
        | some queue =>
          cases hwait : queue.waiting with
          | nil =>
            simp [hasWork, hasNoCalls, queueOf?, hq, hqueue, CallQueue.isEmpty, hwait] at hw
          | cons e es =>
            refine .inr ⟨q, queue, e, es, hrun, rfl, hqueue, hwait, ?_⟩
            simp only [look, hp, hc, hw, hq, queueOf?, Option.bind_some, hqueue, CallQueue.pop,
              hwait, Bool.false_eq_true, if_false, if_true]

lemma move_look (hp : f.pool? p = some pool) (hi : pool.operators[i]? = some o)
    (ho : o.call? = none) (now : Timestamp) : f.Move (f.look p i now) := by
  rcases look_cases hp i now with ⟨-, he⟩ | ⟨-, he⟩ | ⟨q, queue, e, es, -, hq, hqueue, hw, he⟩
  · exact he ▸ move_setStance hp hi ho rfl
  · exact he ▸ move_setStance hp hi ho rfl
  · let f₁ := f.setQueue q { queue with waiting := es }
    let pool' := pool.setStance i (.serving e pool.recorders now)
    have hp₁ : f₁.pool? p = some pool := hp
    have hf : f.look p i now = f₁.setPool p pool' := by
      rw [he, setStance, modifyPool_of_some hp₁]
    obtain ⟨rest, hc, hc'⟩ := Pool.calls_setStance hi (.serving e pool.recorders now)
    have hcalls : pool.calls ++ [⟨e, .onLine pool.recorders⟩] ~ pool'.calls :=
      calc pool.calls ++ [⟨e, .onLine pool.recorders⟩]
        _ ~ rest ++ [⟨e, .onLine pool.recorders⟩] := by simpa [ho] using hc.append_right _
        _ ~ [⟨e, .onLine pool.recorders⟩] ++ rest := List.perm_append_comm
        _ ~ pool'.calls := hc'.symm
    have hon (j : Nat) : (f₁.setPool p pool').onLineIn j =
        if j = p then pool'.calls else f.onLineIn j := onLineIn_setPool hp₁ pool' j
    have hwait (j : Nat) : (f₁.setPool p pool').waitingIn j =
        if j = q then es.map (⟨·, .waiting q⟩) else f.waitingIn j :=
      waitingIn_setQueue hqueue { queue with waiting := es } j
    have h : f.calls ++ [⟨e, .onLine pool.recorders⟩] ~
        [⟨e, .waiting q⟩] ++ (f₁.setPool p pool').calls := by
      refine calls_exchange q p (fun j hj => by rw [hwait, if_neg hj])
        (fun j hj => by rw [hon, if_neg hj]) ?_
      rw [hwait, if_pos rfl, hon, if_pos rfl, waitingIn_of_queue? hqueue, onLineIn_of_pool? hp, hw]
      simpa using hcalls.append_left (es.map (⟨·, .waiting q⟩))
    exact hf ▸ .answer q e p pool hp hq h rfl

def hangUp (x : Exchange) (id : UInt64) (e : Entry) (set : RecorderSet) (since ended : Timestamp)
    (draw : Nat) : Exchange :=
  ((x.turn e.task (·.service id e.id since ended draw set)).1.release e.task ended).1

lemma hangUp_spec {x : Exchange} {t : Task} {k : PromiseId} (ht : x.task? e.task = some t)
    (hopen : t.IsOpen k) (id : UInt64) (set : RecorderSet) (since ended : Timestamp) (draw : Nat) :
    let run := t.service id e.id since ended draw set
    ((x.turn e.task (·.service id e.id since ended draw set)).1.release e.task ended).2 = none ∧
      hangUp x id e set since ended draw =
        ⟨x.tasks.set e.task none, x.log ++ run.events,
          x.journal ++ run.events.map fun event => (e.task, event), x.promises⟩ := by
  intro run
  let x₁ : Exchange := ⟨x.tasks.set e.task (some run.state), x.log ++ run.events,
    x.journal ++ run.events.map fun event => (e.task, event), x.promises⟩
  have hended (t' : Task) (ht' : x₁.task? e.task = some t') :
      t'.recorded = true ∧ t'.promise = none := by
    rw [Exchange.task?_set x _ _ _ (Exchange.lt_length ht), if_pos rfl] at ht'
    obtain rfl := Option.some.inj ht'
    obtain ⟨hrecorded, hpromise, -⟩ := Task.service_ended hopen id e.id since ended draw set
    exact ⟨hrecorded, hpromise⟩
  have hturn : (x.turn e.task (·.service id e.id since ended draw set)).1 = x₁ := by
    rw [Exchange.turn_of_some ht]
  rw [hangUp, hturn, Exchange.release_of_ended hended]
  simp [x₁]

lemma story_hangUp {x : Exchange} {t : Task} {k : PromiseId} (ht : x.task? e.task = some t)
    (hopen : t.IsOpen k) (hs : x.story e.task = []) (id : UInt64) (set : RecorderSet)
    (since ended : Timestamp) (draw : Nat) :
    (hangUp x id e set since ended draw).task? e.task = none ∧
      (hangUp x id e set since ended draw).story e.task =
        (t.service id e.id since ended draw set).events := by
  obtain ⟨-, he⟩ := hangUp_spec ht hopen id set since ended draw
  rw [he]
  refine ⟨(Exchange.task?_set x _ _ _ (Exchange.lt_length ht) ..).trans (if_pos rfl), ?_⟩
  rw [Exchange.story_append, hs, if_pos rfl, List.nil_append]

lemma finishCall_eq (hp : f.pool? p = some pool) {id : UInt64}
    (hi : pool.operators[i]? = some ⟨id, .serving e set since⟩) (ended : Timestamp) (draw : Nat) :
    f.finishCall p i ended draw =
      ({ f with exchange := hangUp f.exchange id e set since ended draw } : Floor).setPool p
        (pool.setStance i .returning) := by
  have hp₁ : ({ f with exchange := hangUp f.exchange id e set since ended draw } : Floor).pool? p =
      some pool := hp
  simp only [finishCall, hp, hi]
  rw [← modifyPool_of_some hp₁ (·.setStance i .returning)]
  rfl

lemma calls_finishCall (hp : f.pool? p = some pool) {id : UInt64}
    (hi : pool.operators[i]? = some ⟨id, .serving e set since⟩) (ended : Timestamp) (draw : Nat) :
    f.calls ~ ⟨e, .onLine set⟩ :: (f.finishCall p i ended draw).calls := by
  let f₁ : Floor := { f with exchange := hangUp f.exchange id e set since ended draw }
  have hp₁ : f₁.pool? p = some pool := hp
  obtain ⟨rest, hc, hc'⟩ := Pool.calls_setStance hi .returning
  have hcalls : pool.calls ~ ⟨e, .onLine set⟩ :: (pool.setStance i .returning).calls :=
    hc.trans (hc'.symm.append_left _)
  have hon (j : Nat) : (f₁.setPool p (pool.setStance i .returning)).onLineIn j =
      if j = p then (pool.setStance i .returning).calls else f.onLineIn j :=
    onLineIn_setPool hp₁ _ j
  have h : f.calls ++ [] ~ [⟨e, .onLine set⟩] ++
      (f₁.setPool p (pool.setStance i .returning)).calls := by
    refine calls_exchange 0 p (fun _ _ => rfl) (fun j hj => by rw [hon, if_neg hj]) ?_
    rw [hon, if_pos rfl, onLineIn_of_pool? hp, List.append_nil]
    exact (hcalls.append_left (f.waitingIn 0)).trans List.perm_middle
  rw [finishCall_eq hp hi]
  simpa using h

lemma departs_hangUp (x : Exchange) (id : UInt64) (e : Entry) (set : RecorderSet)
    (since ended : Timestamp) (draw : Nat) :
    x.Departs (hangUp x id e set since ended draw) [e.task] set :=
  (Exchange.handles_turn x e.task fun _ => .service id e.id since ended draw).release ended

lemma move_finishCall (hp : f.pool? p = some pool) {id : UInt64}
    (hi : pool.operators[i]? = some ⟨id, .serving e set since⟩) (ended : Timestamp) (draw : Nat) :
    f.Move (f.finishCall p i ended draw) := by
  have hx : (f.finishCall p i ended draw).exchange =
      hangUp f.exchange id e set since ended draw := by
    rw [finishCall_eq hp hi]
    rfl
  refine .leave [⟨e, .onLine set⟩] set (by simp [HandsTo]) (calls_finishCall hp hi ended draw) ?_
  rw [hx]
  exact departs_hangUp f.exchange id e set since ended draw

lemma move_comeBack (hp : f.pool? p = some pool) (hi : pool.operators[i]? = some o)
    (ho : o.call? = none) (now : Timestamp) : f.Move (f.comeBack p i now) := by
  have hs : f.comeBack p i now =
      if pool.draining && f.hasNoCalls pool then f.setStance p i .gone else f.look p i now := by
    simp only [comeBack, hp]
  rw [hs]
  split
  · exact move_setStance hp hi ho rfl
  · exact move_look hp hi ho now

lemma move_work (f : Floor) (p i : Nat) (now : Timestamp) (draw : Nat) :
    f.Move (f.work p i now draw) := by
  rw [work]
  cases hp : f.pool? p with
  | none => exact .idle rfl rfl
  | some pool =>
    cases hi : pool.operators[i]? with
    | none => simpa only [Option.bind_some, hi] using .idle rfl rfl
    | some o =>
      obtain ⟨id, stance⟩ := o
      simp only [Option.bind_some, hi]
      cases stance with
      | parked => exact .idle rfl rfl
      | awake => exact move_look hp hi rfl now
      | serving e set since => exact move_finishCall hp hi now draw
      | returning => exact move_comeBack hp hi rfl now
      | gone => exact .idle rfl rfl

lemma move_act (hn : (f.calls.map Presence.task).Nodup) {deed : Deed}
    (hd : ∀ p bounds number start taken now, deed ≠ .bring p bounds number start taken now) :
    f.Move (f.act deed) := by
  cases deed with
  | bring p bounds number start taken now => exact absurd rfl (hd p bounds number start taken now)
  | build size capacity => exact move_build f size capacity
  | beginStart p => exact move_beginStart f p
  | revive p => exact move_revive f p
  | wakeAll p => exact move_modifyPool f p Pool.calls_wakeAll
  | stop p => exact move_modifyPool f p fun _ => rfl
  | transfer p old now => exact move_transfer hn p old now
  | replaceQueue p capacity now => exact move_replaceQueue hn p capacity now
  | setRecorders p set => exact move_setRecorders f p set
  | setCapacity q capacity => exact move_setCapacity f q capacity
  | work p i now draw => exact move_work f p i now draw
  | close p => exact move_modifyPool f p Pool.calls_close
  | dismiss p now => exact move_dismiss hn p now

lemma bring_or_move (hn : (f.calls.map Presence.task).Nodup) (deed : Deed) :
    (∃ p bounds number start taken now, deed = .bring p bounds number start taken now) ∨
      f.Move (f.act deed) ∧ f.admission? deed = none := by
  cases deed with
  | bring p bounds number start taken now => exact .inl ⟨p, bounds, number, start, taken, now, rfl⟩
  | _ => exact .inr ⟨move_act hn fun _ _ _ _ _ _ => Deed.noConfusion, rfl⟩

end Switchboard.Floor
