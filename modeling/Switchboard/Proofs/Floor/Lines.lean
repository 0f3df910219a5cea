import Switchboard.Proofs.Floor.Wiring

/-! The lines of a floor: which call each operator is on. Nothing but the operator's own work
changes its line. It takes calls from the queue of a pool that runs and ends them by service. -/

namespace Switchboard

structure Line where
  operator : UInt64
  entry : Entry
  recorders : RecorderSet
  since : Timestamp

def Operator.line? (o : Operator) : Option Line :=
  match o.stance with
  | .serving e set since => some ⟨o.id, e, set, since⟩
  | _ => none

namespace Pool

def line? (pool : Pool) (i : Nat) : Option Line := pool.operators[i]?.bind (·.line?)

variable {pool : Pool} {i : Nat}

lemma line?_eq_none_of_live (h : pool.live = 0) (i : Nat) : pool.line? i = none := by
  rw [line?, Option.bind_eq_none_iff]
  intro o ho
  have hg : o.isGone = true := by
    have hall : ∀ o ∈ pool.operators, o.isGone = true := by
      simpa [live, List.filter_eq_nil_iff] using h
    exact hall o (List.mem_of_getElem? ho)
  obtain ⟨id, stance⟩ := o
  cases stance with
  | gone => rfl
  | _ => cases hg

lemma line?_wake (o : Operator) : o.wake.line? = o.line? := by
  obtain ⟨id, stance⟩ := o
  cases stance <;> simp [Operator.wake, Operator.isParked, Operator.line?]

lemma line?_modify {g : Operator → Operator} (k : Nat)
    (hg : ∀ o, pool.operators[k]? = some o → (g o).line? = o.line?) :
    Pool.line? { pool with operators := pool.operators.modify k g } i = pool.line? i := by
  rw [line?, line?, List.getElem?_modify]
  cases ho : pool.operators[i]? with
  | none => rfl
  | some o =>
    by_cases hi : k = i
    · subst hi
      simpa using hg o ho
    · simp [hi]

@[simp] lemma line?_wakeOne (pool : Pool) (i : Nat) : pool.wakeOne.line? i = pool.line? i :=
  line?_modify _ fun o _ => line?_wake o

@[simp] lemma line?_wakeAll (pool : Pool) (i : Nat) : pool.wakeAll.line? i = pool.line? i := by
  simp only [line?, wakeAll, List.getElem?_map]
  cases pool.operators[i]? with
  | none => rfl
  | some o => exact line?_wake o

lemma line?_stop (pool : Pool) (i : Nat) : pool.stop.line? i = pool.line? i := rfl

@[simp] lemma line?_close (pool : Pool) (i : Nat) : pool.close.line? i = pool.line? i :=
  line?_wakeAll { pool with closing := true } i

lemma line?_revive (pool : Pool) (next i : Nat) : (pool.revive next).line? i = pool.line? i := by
  simp only [line?, revive, List.getElem?_mapIdx]
  cases pool.operators[i]? with
  | none => rfl
  | some o =>
    obtain ⟨id, stance⟩ := o
    cases stance <;> simp [Operator.isGone, Operator.line?]

lemma line?_setStance (pool : Pool) (k : Nat) (s : Stance) (i : Nat) :
    (pool.setStance k s).line? i =
      if k = i then pool.operators[i]?.bind fun o => Operator.line? ⟨o.id, s⟩
      else pool.line? i := by
  simp only [line?, setStance, List.getElem?_modify]
  cases pool.operators[i]? with
  | none => simp
  | some o => by_cases hi : k = i <;> simp [hi]

lemma call?_eq_line? (o : Operator) :
    o.call? = o.line?.map fun l => ⟨l.entry, .onLine l.recorders⟩ := by
  obtain ⟨id, stance⟩ := o
  cases stance <;> rfl

lemma mem_calls {c : Presence} :
    c ∈ pool.calls ↔ ∃ i l, pool.line? i = some l ∧ c = ⟨l.entry, .onLine l.recorders⟩ := by
  rw [calls, List.mem_filterMap]
  constructor
  · rintro ⟨o, ho, hc⟩
    obtain ⟨i, hi⟩ := List.mem_iff_getElem?.1 ho
    rw [call?_eq_line?] at hc
    obtain ⟨l, hl, rfl⟩ := Option.map_eq_some_iff.1 hc
    exact ⟨i, l, by simp only [line?, hi, Option.bind_some, hl], rfl⟩
  · rintro ⟨i, l, hl, rfl⟩
    obtain ⟨o, ho, hol⟩ := Option.bind_eq_some_iff.1 hl
    exact ⟨o, List.mem_of_getElem? ho, by rw [call?_eq_line?, hol, Option.map_some]⟩

end Pool

namespace Floor

def line? (f : Floor) (p i : Nat) : Option Line := (f.pool? p).bind (·.line? i)

variable {f f' : Floor} {p i : Nat} {pool pool' : Pool} {l : Line}

lemma line?_of_pool? (hp : f.pool? p = some pool) (i : Nat) : f.line? p i = pool.line? i := by
  rw [line?, hp, Option.bind_some]

lemma line?_setPool (hp : f.pool? p = some pool) (h : ∀ i, pool'.line? i = pool.line? i)
    (j i : Nat) : (f.setPool p pool').line? j i = f.line? j i := by
  rw [line?, pool?_setPool hp]
  split
  · rw [‹j = p›, line?_of_pool? hp, Option.bind_some, h]
  · rfl

lemma line?_modifyPool (f : Floor) (p : Nat) {g : Pool → Pool}
    (hg : ∀ pool i, (g pool).line? i = pool.line? i) (j i : Nat) :
    (f.modifyPool p g).line? j i = f.line? j i := by
  cases hp : f.pool? p with
  | none => rw [modifyPool_of_none hp]
  | some pool => rw [modifyPool_of_some hp, line?_setPool hp (hg pool)]

lemma line?_redirect (f : Floor) (q : Option Nat) (set : RecorderSet) (j i : Nat) :
    (f.redirect q set).line? j i = f.line? j i := by
  rw [line?, pool?_redirect, line?]

lemma line?_letGoQueue (f : Floor) (q : Option Nat) (now : Timestamp) (j i : Nat) :
    (f.letGoQueue q now).1.line? j i = f.line? j i := by
  rw [line?, pool?_letGoQueue, line?]

lemma line?_takeQueue (hp : f.pool? p = some pool) (q : Option Nat) (set : RecorderSet)
    (j i : Nat) : (f.takeQueue p pool q set).line? j i = f.line? j i := by
  have hp' : (f.redirect q set).pool? p = some pool := (pool?_redirect f q set p).trans hp
  refine (line?_setPool hp' ?_ j i).trans (line?_redirect f q set j i)
  exact fun _ => rfl

lemma line?_transfer (f : Floor) (p old : Nat) (now : Timestamp) (j i : Nat) :
    (f.transfer p old now).1.line? j i = f.line? j i := by
  cases hp : f.pool? p with
  | none => rw [transfer_of_none hp]
  | some pool =>
    cases ho : f.pool? old with
    | none => rw [transfer_of_none_old ho]
    | some other =>
      have hp' := (pool?_letGoQueue _ pool.queue now p).trans
        (pool?_takeQueue hp other.queue other.recorders)
      have ht := (line?_letGoQueue _ pool.queue now j i).trans
        (line?_takeQueue hp other.queue other.recorders j i)
      rw [transfer_eq hp ho]
      dsimp only
      split
      · refine (line?_setPool hp' ?_ j i).trans ht
        exact fun _ => rfl
      · exact ht

lemma line?_installQueue (f : Floor) (p q : Nat) (now : Timestamp) (j i : Nat) :
    (f.installQueue p q now).1.line? j i = f.line? j i := by
  cases hp : f.pool? p with
  | none => rw [installQueue_of_none hp]
  | some pool =>
    have ht := (line?_letGoQueue _ pool.queue now j i).trans
      (line?_takeQueue hp (some q) pool.recorders j i)
    rw [installQueue_eq hp]
    dsimp only
    split
    · rw [line?_modifyPool _ _ Pool.line?_wakeAll, ht]
    · exact ht

lemma line?_poolAround (f : Floor) (size : Nat) (q : Option Nat) (set : RecorderSet)
    (ids j i : Nat) : (f.poolAround size q set ids).2.line? j i = f.line? j i := by
  rw [line?, pool?_poolAround, line?]
  split
  · have hnone : f.pool? j = none := by simp [pool?, ‹j = f.pools.length›]
    rw [hnone, Option.bind_none, Option.bind_some, Pool.line?, Option.bind_eq_none_iff]
    intro o ho
    obtain ⟨k, -, rfl⟩ := List.mem_map.1 (List.mem_of_getElem? ho)
    rfl
  · rfl

lemma line?_build (f : Floor) (size : Nat) (capacity : UInt64) (j i : Nat) :
    (f.act (.build size capacity)).line? j i = f.line? j i := by
  cases ho : overflow? size (some capacity) with
  | some crash => rw [act_build_of_overflow ho]
  | none =>
    rw [act_build ho, newPool_eq, line?_poolAround]
    rfl

lemma line?_dismiss (f : Floor) (p : Nat) (now : Timestamp) (j i : Nat) :
    (f.dismiss p now).1.line? j i = f.line? j i := by
  rcases dismiss_cases f p now with he | ⟨pool, hp, ⟨-, hl⟩, he⟩
  · rw [he]
  · rw [he, line?_letGoQueue, line?, pool?_withoutPool hp]
    split
    · rw [‹j = p›, line?_of_pool? hp, Pool.line?_eq_none_of_live hl]
      rfl
    · rfl

lemma line?_setRecorders (f : Floor) (p : Nat) (set : RecorderSet) (j i : Nat) :
    (f.setRecorders p set).line? j i = f.line? j i := by
  cases hp : f.pool? p with
  | none => rw [setRecorders_of_none hp]
  | some pool =>
    have hp' := (pool?_redirect f pool.queue set p).trans hp
    rw [setRecorders_eq hp]
    refine (line?_setPool hp' ?_ j i).trans (line?_redirect f pool.queue set j i)
    exact fun _ => rfl

lemma line?_beginStart (f : Floor) (p j i : Nat) :
    (f.beginStart p).2.line? j i = f.line? j i := by
  cases hp : f.pool? p with
  | none => simp only [beginStart, hp]
  | some pool =>
    have he : (f.beginStart p).2 = f.setPool p pool.beginStart.2 := by simp only [beginStart, hp]
    rw [he]
    apply line?_setPool hp
    exact fun _ => rfl

lemma line?_revive (f : Floor) (p j i : Nat) : (f.revive p).line? j i = f.line? j i := by
  cases hp : f.pool? p with
  | none => simp only [revive, hp]
  | some pool =>
    have hr := line?_setPool hp (Pool.line?_revive pool (f.hired + 1)) j i
    simp only [revive, hp]
    exact hr

lemma line?_setCapacity (f : Floor) (q : Nat) (capacity : UInt64) (j i : Nat) :
    (f.setCapacity q capacity).line? j i = f.line? j i := by
  rw [line?, setCapacity, pool?_modifyQueue, line?]

lemma line?_enqueue (f : Floor) (p q : Nat) (queue : CallQueue) (e : Entry) (future : CallFuture)
    (now : Timestamp) (j i : Nat) :
    (f.enqueue p q queue e future now).1.line? j i = f.line? j i := by
  obtain ⟨-, he⟩ := f.enqueue_eq p q queue e future now
  rcases he with he | he
  · rw [he]
    rfl
  · rw [he, line?_modifyPool _ _ Pool.line?_wakeOne]
    rfl

lemma line?_bring (f : Floor) (p : Nat) (bounds : ServiceBounds) (number : String)
    (start : Timestamp) (taken : Bool) (now : Timestamp) (j i : Nat) :
    (f.bring p bounds number start taken now).1.line? j i = f.line? j i := by
  rw [bring_eq]
  cases hp : f.pool? p with
  | none => rfl
  | some pool =>
    cases hq : pool.queue with
    | none =>
      simp only [hq]
      rfl
    | some q =>
      cases hqueue : f.queueOf? pool with
      | none =>
        simp only [hq, hqueue]
        rfl
      | some queue =>
        simp only [hq, hqueue]
        rw [register_eq rfl]
        cases taken with
        | true => rfl
        | false =>
          dsimp only
          rw [if_neg Bool.false_ne_true]
          exact line?_enqueue ..

lemma line?_setStance (hp : f.pool? p = some pool) (k : Nat) (s : Stance) (j i : Nat) :
    (f.setStance p k s).line? j i =
      if j = p ∧ k = i then pool.operators[i]?.bind fun o => Operator.line? ⟨o.id, s⟩
      else f.line? j i := by
  rw [setStance, modifyPool_of_some hp, line?, pool?_setPool hp]
  by_cases hj : j = p
  · subst hj
    rw [if_pos rfl, Option.bind_some, Pool.line?_setStance, line?_of_pool? hp]
    simp only [true_and]
  · simp only [hj, if_false, false_and]
    rfl

inductive Works (f f' : Floor) (p i : Nat) (now : Timestamp) (draw : Nat) : Prop
  | rests (before : f.line? p i = none) (after : f'.line? p i = none)
      (exchange : f'.exchange = f.exchange) (queues : f'.queues = f.queues)
  | picksUp (pool : Pool) (isPool : f.pool? p = some pool) (isRunning : pool.isRunning = true)
      (q : Nat) (draws : pool.queue = some q) (queue : CallQueue)
      (isQueue : f.queue? q = some queue) (e : Entry) (es : List Entry)
      (waits : queue.waiting = e :: es) (before : f.line? p i = none) (id : UInt64)
      (after : f'.line? p i = some ⟨id, e, pool.recorders, now⟩)
      (exchange : f'.exchange = f.exchange)
      (queues : f'.queues = (f.setQueue q { queue with waiting := es }).queues)
  | hangsUp (l : Line) (before : f.line? p i = some l) (after : f'.line? p i = none)
      (exchange : f'.exchange =
        hangUp f.exchange l.operator l.entry l.recorders l.since now draw)
      (queues : f'.queues = f.queues)
      (calls : f.calls.Perm (⟨l.entry, .onLine l.recorders⟩ :: f'.calls))

section Work

variable {o : Operator} {now : Timestamp} {draw : Nat}

lemma works_setStance (hp : f.pool? p = some pool) (hi : pool.operators[i]? = some o)
    (ho : o.line? = none) {s : Stance} (hs : Operator.line? ⟨o.id, s⟩ = none) :
    f.Works (f.setStance p i s) p i now draw := by
  have hbefore : f.line? p i = none := by
    rw [line?_of_pool? hp, Pool.line?, hi, Option.bind_some, ho]
  have hafter : (f.setStance p i s).line? p i = none := by
    rw [line?_setStance hp, if_pos ⟨rfl, rfl⟩, hi, Option.bind_some, hs]
  have he : f.setStance p i s = f.setPool p (pool.setStance i s) := modifyPool_of_some hp _
  exact .rests hbefore hafter (by rw [he]; rfl) (by rw [he]; rfl)

lemma works_look (hp : f.pool? p = some pool) (hi : pool.operators[i]? = some o)
    (ho : o.line? = none) : f.Works (f.look p i now) p i now draw := by
  rcases look_cases hp i now with ⟨-, he⟩ | ⟨-, he⟩ | ⟨q, queue, e, es, hrun, hq, hqueue, hw, he⟩
  · exact he ▸ works_setStance hp hi ho rfl
  · exact he ▸ works_setStance hp hi ho rfl
  · have hp₁ : (f.setQueue q { queue with waiting := es }).pool? p = some pool := hp
    have hbefore : f.line? p i = none := by
      rw [line?_of_pool? hp, Pool.line?, hi, Option.bind_some, ho]
    have hafter : (f.look p i now).line? p i = some ⟨o.id, e, pool.recorders, now⟩ := by
      rw [he, line?_setStance hp₁, if_pos ⟨rfl, rfl⟩, hi, Option.bind_some]
      rfl
    refine .picksUp pool hp hrun q hq queue hqueue e es hw hbefore o.id hafter ?_ ?_
    · rw [he, setStance, modifyPool_of_some hp₁]
      rfl
    · rw [he, setStance, modifyPool_of_some hp₁]
      rfl

lemma works_finishCall (hp : f.pool? p = some pool) {id : UInt64} {e : Entry} {set : RecorderSet}
    {since : Timestamp} (hi : pool.operators[i]? = some ⟨id, .serving e set since⟩) :
    f.Works (f.finishCall p i now draw) p i now draw := by
  have hbefore : f.line? p i = some ⟨id, e, set, since⟩ := by
    rw [line?_of_pool? hp, Pool.line?, hi]
    rfl
  have hafter : (f.finishCall p i now draw).line? p i = none := by
    have hp₁ : ({ f with exchange := hangUp f.exchange id e set since now draw } : Floor).pool? p =
      some pool := hp
    rw [finishCall_eq hp hi, line?, pool?_setPool hp₁, if_pos rfl, Option.bind_some,
      Pool.line?_setStance, if_pos rfl, hi]
    rfl
  refine .hangsUp ⟨id, e, set, since⟩ hbefore hafter ?_ ?_ (calls_finishCall hp hi now draw)
  · rw [finishCall_eq hp hi]
    rfl
  · rw [finishCall_eq hp hi]
    rfl

lemma works_comeBack (hp : f.pool? p = some pool) (hi : pool.operators[i]? = some o)
    (ho : o.line? = none) : f.Works (f.comeBack p i now) p i now draw := by
  have he : f.comeBack p i now =
      if pool.draining && f.hasNoCalls pool then f.setStance p i .gone else f.look p i now := by
    simp only [comeBack, hp]
  rw [he]
  split
  · exact works_setStance hp hi ho rfl
  · exact works_look hp hi ho

lemma works_work (f : Floor) (p i : Nat) (now : Timestamp) (draw : Nat) :
    f.Works (f.work p i now draw) p i now draw := by
  rw [work]
  cases hp : f.pool? p with
  | none =>
    have hnone : f.line? p i = none := by rw [line?, hp, Option.bind_none]
    exact .rests hnone hnone rfl rfl
  | some pool =>
    cases hi : pool.operators[i]? with
    | none =>
      have hnone : f.line? p i = none := by rw [line?_of_pool? hp, Pool.line?, hi, Option.bind_none]
      simp only [Option.bind_some, hi]
      exact .rests hnone hnone rfl rfl
    | some o =>
      have hline : f.line? p i = o.line? := by
        rw [line?_of_pool? hp, Pool.line?, hi, Option.bind_some]
      obtain ⟨id, stance⟩ := o
      simp only [Option.bind_some, hi]
      cases stance with
      | parked | gone => exact .rests hline hline rfl rfl
      | awake => exact works_look hp hi rfl
      | serving e set since => exact works_finishCall hp hi
      | returning => exact works_comeBack hp hi rfl

lemma line?_look_of_ne (f : Floor) (p k : Nat) (now : Timestamp) {j i : Nat}
    (h : ¬(j = p ∧ k = i)) : (f.look p k now).line? j i = f.line? j i := by
  cases hp : f.pool? p with
  | none => simp only [look, hp]
  | some pool =>
    rcases look_cases hp k now with ⟨-, he⟩ | ⟨-, he⟩ | ⟨q, queue, e, es, -, -, -, -, he⟩
    · rw [he, line?_setStance hp, if_neg h]
    · rw [he, line?_setStance hp, if_neg h]
    · have hp₁ : (f.setQueue q { queue with waiting := es }).pool? p = some pool := hp
      rw [he, line?_setStance hp₁, if_neg h]
      rfl

lemma line?_work_of_ne (f : Floor) (p k : Nat) (now : Timestamp) (draw : Nat) {j i : Nat}
    (h : ¬(j = p ∧ k = i)) : (f.work p k now draw).line? j i = f.line? j i := by
  rw [work]
  cases hp : f.pool? p with
  | none => rfl
  | some pool =>
    cases hi : pool.operators[k]? with
    | none => simp only [Option.bind_some, hi]
    | some o =>
      obtain ⟨id, stance⟩ := o
      simp only [Option.bind_some, hi]
      cases stance with
      | parked | gone => rfl
      | awake => exact line?_look_of_ne f p k now h
      | serving e set since =>
        let f₁ : Floor := { f with exchange := hangUp f.exchange id e set since now draw }
        have hp₁ : f₁.pool? p = some pool := hp
        have hs : f₁.setStance p k .returning = f₁.setPool p (pool.setStance k .returning) :=
          modifyPool_of_some hp₁ _
        have he : f.finishCall p k now draw = f₁.setStance p k .returning :=
          (finishCall_eq hp hi now draw).trans hs.symm
        show (f.finishCall p k now draw).line? j i = f.line? j i
        rw [he, line?_setStance hp₁, if_neg h]
        rfl
      | returning =>
        simp only [comeBack, hp]
        split
        · rw [line?_setStance hp, if_neg h]
        · exact line?_look_of_ne f p k now h

end Work

lemma line?_act (f : Floor) {deed : Deed} (h : ∀ now draw, deed ≠ .work p i now draw) :
    (f.act deed).line? p i = f.line? p i := by
  cases deed with
  | build size capacity => exact line?_build f size capacity p i
  | bring j bounds number start taken now => exact line?_bring f j bounds number start taken now p i
  | beginStart j => exact line?_beginStart f j p i
  | revive j => exact line?_revive f j p i
  | wakeAll j => exact line?_modifyPool f j Pool.line?_wakeAll p i
  | stop j => exact line?_modifyPool f j Pool.line?_stop p i
  | transfer j old now => exact line?_transfer f j old now p i
  | replaceQueue j capacity now =>
    cases ho : CallQueue.overflow? capacity with
    | some crash => rw [act, replaceQueue_of_overflow ho]
    | none =>
      rw [act, replaceQueue_eq ho, line?_installQueue]
      rfl
  | setRecorders j set => exact line?_setRecorders f j set p i
  | setCapacity q capacity => exact line?_setCapacity f q capacity p i
  | work j k now draw =>
    apply line?_work_of_ne
    rintro ⟨rfl, rfl⟩
    exact h now draw rfl
  | close j => exact line?_modifyPool f j Pool.line?_close p i
  | dismiss j now => exact line?_dismiss f j now p i

end Floor

end Switchboard
