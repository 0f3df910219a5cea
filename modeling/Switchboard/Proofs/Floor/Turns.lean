import Switchboard.Proofs.Floor.Terms

/-! What a deed makes of one pool. Everything that the pools keep up in the course of a day, their
switches and the stances of their operators, is read off from here. -/

namespace Switchboard.Floor

def Allows (f : Floor) (pool : Pool) : Stance → Prop
  | .parked => pool.paused = true ∨ f.hasNoCalls pool = true
  | .awake => False
  | .serving .. => pool.isRunning = true
  | .returning => True
  | .gone => pool.closing = true ∨ pool.draining = true ∧ f.hasNoCalls pool = true

inductive Turn (f : Floor) (p : Nat) : Deed → Option Pool → Option Pool → Prop
  | rests (deed : Deed) (pool : Option Pool) : Turn f p deed pool pool
  | built (size : Nat) (capacity : UInt64) (fresh : p = f.pools.length) :
      Turn f p (.build size capacity) none (some ⟨f.newcomers size, some f.queues.length,
        .empty f.recorderSets, f.idSources.length, true, false, false⟩)
  | called (bounds : ServiceBounds) (number : String) (start : Timestamp) (taken : Bool)
      (now : Timestamp) (pool : Pool) :
      Turn f p (.bring p bounds number start taken now) (some pool) (some pool.wakeOne)
  | begun (pool : Pool) : Turn f p (.beginStart p) (some pool) (some pool.beginStart.2)
  | revived (pool : Pool) : Turn f p (.revive p) (some pool) (some (pool.revive (f.hired + 1)))
  | woken (pool : Pool) : Turn f p (.wakeAll p) (some pool) (some pool.wakeAll)
  | stopped (pool : Pool) : Turn f p (.stop p) (some pool) (some pool.stop)
  | succeeds (old : Nat) (now : Timestamp) (pool : Pool) (queue : Option Nat) (set : RecorderSet)
      (ids : Nat) : Turn f p (.transfer p old now) (some pool)
        (some { pool with queue := queue, recorders := set, ids := ids })
  | rehoused (capacity : UInt64) (now : Timestamp) (pool : Pool) :
      Turn f p (.replaceQueue p capacity now) (some pool)
        (some { pool with queue := some f.queues.length })
  | rehousedAwake (capacity : UInt64) (now : Timestamp) (pool : Pool) :
      Turn f p (.replaceQueue p capacity now) (some pool)
        (some { pool with queue := some f.queues.length }.wakeAll)
  | equipped (set : RecorderSet) (pool : Pool) :
      Turn f p (.setRecorders p set) (some pool) (some { pool with recorders := set })
  | worked (i : Nat) (now : Timestamp) (draw : Nat) (pool : Pool) (o : Operator) (s : Stance)
      (isOperator : pool.operators[i]? = some o) (allows : f.Allows pool s) :
      Turn f p (.work p i now draw) (some pool) (some (pool.setStance i s))
  | closed (pool : Pool) : Turn f p (.close p) (some pool) (some pool.close)
  | dismissed (now : Timestamp) (pool : Pool) (closing : pool.closing = true)
      (live : pool.live = 0) : Turn f p (.dismiss p now) (some pool) none

variable {f : Floor} {p q old : Nat} {pool other : Pool} {deed : Deed}

lemma pool?_modifyPool (f : Floor) (p : Nat) (g : Pool → Pool) (j : Nat) :
    (f.modifyPool p g).pool? j = if j = p then (f.pool? p).map g else f.pool? j := by
  cases hp : f.pool? p with
  | none =>
    rw [modifyPool_of_none hp]
    split
    · rw [‹j = p›, hp, Option.map_none]
    · rfl
  | some pool => rw [modifyPool_of_some hp, pool?_setPool hp, Option.map_some]

lemma turn_of_eq {f' : Floor} {j : Nat} {after : Option Pool}
    (h : f'.pool? p = if p = j then after else f.pool? p)
    (ht : p = j → f.Turn p deed (f.pool? p) after) : f.Turn p deed (f.pool? p) (f'.pool? p) := by
  rw [h]
  split
  · exact ht ‹p = j›
  · exact .rests deed (f.pool? p)

lemma turn_modifyPool (f : Floor) {j : Nat} {g : Pool → Pool}
    (h : ∀ pool, p = j → f.Turn p deed (some pool) (some (g pool))) :
    f.Turn p deed (f.pool? p) ((f.modifyPool j g).pool? p) := by
  apply turn_of_eq (pool?_modifyPool f j g p)
  intro hpj
  rw [← hpj]
  cases f.pool? p with
  | none => exact .rests deed none
  | some pool => exact h pool hpj

lemma turn_build (f : Floor) (p size : Nat) (capacity : UInt64) :
    f.Turn p (.build size capacity) (f.pool? p) ((f.act (.build size capacity)).pool? p) := by
  cases ho : overflow? size (some capacity) with
  | some crash =>
    rw [act_build_of_overflow ho]
    exact .rests _ _
  | none =>
    rw [act_build ho, newPool_eq]
    apply turn_of_eq (pool?_poolAround ..)
    intro hfresh
    have hnone : f.pool? p = none := by
      rw [hfresh]
      simp [pool?]
    rw [hnone]
    exact .built size capacity hfresh

lemma pool?_enqueue (f : Floor) (p q : Nat) (queue : CallQueue) (e : Entry) (future : CallFuture)
    (now : Timestamp) (j : Nat) :
    (f.enqueue p q queue e future now).1.pool? j = f.pool? j ∨
      (f.enqueue p q queue e future now).1.pool? j =
        if j = p then (f.pool? p).map Pool.wakeOne else f.pool? j := by
  obtain ⟨-, he⟩ := f.enqueue_eq p q queue e future now
  rcases he with he | he
  · exact .inl (by rw [he]; rfl)
  · exact .inr (by rw [he, pool?_modifyPool]; rfl)

section Bring

variable (bounds : ServiceBounds) (number : String) (start : Timestamp) (taken : Bool)
  (now : Timestamp)

lemma bring_of_queue? {queue : CallQueue} (hp : f.pool? p = some pool) (hq : pool.queue = some q)
    (hqueue : f.queue? q = some queue) :
    let id := (f.nextId pool.ids).1
    let t := Task.newcomer f.exchange.promises bounds number start taken
    let f' := f.welcome pool.ids (t.admitted f.exchange.promises id pool.recorders)
    f.bring p bounds number start taken now =
      if taken then
        f'.refuse f.exchange.tasks.length now (.queue s!"result future of call {id} already taken")
      else f'.enqueue p q queue ⟨f.exchange.tasks.length, id, number⟩ (.of f.exchange.promises)
        now := by
  have hqueue' : f.queueOf? pool = some queue := by rw [queueOf?, hq, Option.bind_some, hqueue]
  rw [bring_eq]
  simp only [hp, hq, hqueue']
  rw [register_eq rfl]
  rfl

lemma pool?_bring (f : Floor) (p j : Nat) :
    (f.bring p bounds number start taken now).1.pool? j = f.pool? j ∨
      (f.bring p bounds number start taken now).1.pool? j =
        if j = p then (f.pool? p).map Pool.wakeOne else f.pool? j := by
  cases hd : f.door? p with
  | none =>
    rw [bring_of_no_door bounds number start now hd]
    exact .inl rfl
  | some door =>
    obtain ⟨q, id⟩ := door
    obtain ⟨pool, queue, hp, hq, hqueue, -⟩ := door?_of_some hd
    rw [bring_of_queue? bounds number start taken now hp hq hqueue]
    cases taken with
    | true => exact .inl rfl
    | false =>
      rw [if_neg Bool.false_ne_true]
      exact pool?_enqueue (f.welcome pool.ids _) p q queue _ _ now j

lemma turn_bring (f : Floor) (p j : Nat) :
    f.Turn p (.bring j bounds number start taken now) (f.pool? p)
      ((f.bring j bounds number start taken now).1.pool? p) := by
  rcases pool?_bring bounds number start taken now f j p with he | he
  · rw [he]
    exact .rests _ _
  · apply turn_of_eq he
    rintro rfl
    cases f.pool? p with
    | none => exact .rests _ _
    | some pool => exact .called bounds number start taken now pool

end Bring

lemma beginStart_eq (f : Floor) (p : Nat) :
    (f.beginStart p).2 = f.modifyPool p fun pool => pool.beginStart.2 := by
  cases hp : f.pool? p with
  | none => simp only [beginStart, hp, modifyPool]
  | some pool => simp only [beginStart, hp, modifyPool]

lemma pool?_revive (f : Floor) (p j : Nat) :
    (f.revive p).pool? j = (f.modifyPool p (·.revive (f.hired + 1))).pool? j := by
  cases hp : f.pool? p with
  | none => simp only [revive, hp, modifyPool]
  | some pool =>
    simp only [revive, hp, modifyPool]
    rfl

lemma pool?_takeQueue_letGoQueue (hp : f.pool? p = some pool) (q : Option Nat) (set : RecorderSet)
    (now : Timestamp) (j : Nat) :
    ((f.takeQueue p pool q set).letGoQueue pool.queue now).1.pool? j =
      if j = p then some { pool with queue := q } else f.pool? j := by
  rw [pool?_letGoQueue, takeQueue, pool?_setPool ((pool?_redirect ..).trans hp), pool?_redirect]

lemma pool?_installQueue (hp : f.pool? p = some pool) (q : Nat) (now : Timestamp) (j : Nat) :
    (f.installQueue p q now).1.pool? j =
      if j = p then some (if (f.installQueue p q now).2.isNone then
        { pool with queue := some q }.wakeAll else { pool with queue := some q })
      else f.pool? j := by
  have hr := pool?_takeQueue_letGoQueue hp (some q) pool.recorders now
  have hcrash : (f.installQueue p q now).2 =
      ((f.takeQueue p pool (some q) pool.recorders).letGoQueue pool.queue now).2 := by
    simp only [installQueue, hp]
    rfl
  rw [hcrash, installQueue_eq hp]
  dsimp only
  split
  · rw [pool?_modifyPool, hr, hr, if_pos rfl, Option.map_some]
    split <;> rfl
  · exact hr j

lemma pool?_transfer (hp : f.pool? p = some pool) (ho : f.pool? old = some other)
    (now : Timestamp) (j : Nat) :
    (f.transfer p old now).1.pool? j =
      if j = p then some (if (f.transfer p old now).2.isNone then
        { pool with queue := other.queue, recorders := other.recorders, ids := other.ids }
        else { pool with queue := other.queue })
      else f.pool? j := by
  have hr := pool?_takeQueue_letGoQueue hp other.queue other.recorders now
  have hcrash : (f.transfer p old now).2 =
      ((f.takeQueue p pool other.queue other.recorders).letGoQueue pool.queue now).2 := by
    simp only [transfer, hp, ho]
    rfl
  rw [hcrash, transfer_eq hp ho]
  dsimp only
  split
  · rw [pool?_setPool ((hr p).trans (if_pos rfl)), hr]
    split <;> rfl
  · exact hr j

lemma turn_transfer (f : Floor) (p j old : Nat) (now : Timestamp) :
    f.Turn p (.transfer j old now) (f.pool? p) ((f.transfer j old now).1.pool? p) := by
  cases hj : f.pool? j with
  | none =>
    rw [transfer_of_none hj]
    exact .rests _ _
  | some pool =>
    cases ho : f.pool? old with
    | none =>
      rw [transfer_of_none_old ho]
      exact .rests _ _
    | some other =>
      apply turn_of_eq (pool?_transfer hj ho now p)
      rintro rfl
      rw [hj]
      split
      · exact .succeeds old now pool _ _ _
      · exact .succeeds old now pool other.queue pool.recorders pool.ids

lemma turn_replaceQueue (f : Floor) (p j : Nat) (capacity : UInt64) (now : Timestamp) :
    f.Turn p (.replaceQueue j capacity now) (f.pool? p)
      ((f.replaceQueue j capacity now).1.pool? p) := by
  cases ho : CallQueue.overflow? capacity with
  | some crash =>
    rw [replaceQueue_of_overflow ho]
    exact .rests _ _
  | none =>
    rw [replaceQueue_eq ho]
    cases hj : f.pool? j with
    | none =>
      have hj' : (f.withQueue capacity).pool? j = none := hj
      rw [installQueue_of_none hj']
      exact .rests _ _
    | some pool =>
      have hj' : (f.withQueue capacity).pool? j = some pool := hj
      have he := pool?_installQueue hj' f.queues.length now p
      apply turn_of_eq (f := f) he
      rintro rfl
      rw [hj]
      split
      · exact .rehousedAwake capacity now pool
      · exact .rehoused capacity now pool

lemma turn_setRecorders (f : Floor) (p j : Nat) (set : RecorderSet) :
    f.Turn p (.setRecorders j set) (f.pool? p) ((f.setRecorders j set).pool? p) := by
  cases hj : f.pool? j with
  | none =>
    rw [setRecorders_of_none hj]
    exact .rests _ _
  | some pool =>
    have he (k : Nat) : (f.setRecorders j set).pool? k =
        if k = j then some { pool with recorders := set } else f.pool? k := by
      rw [setRecorders_eq hj, pool?_setPool ((pool?_redirect ..).trans hj), pool?_redirect]
    apply turn_of_eq (he p)
    rintro rfl
    rw [hj]
    exact .equipped set pool

lemma turn_dismiss (f : Floor) (p j : Nat) (now : Timestamp) :
    f.Turn p (.dismiss j now) (f.pool? p) ((f.dismiss j now).1.pool? p) := by
  rcases dismiss_cases f j now with he | ⟨pool, hj, ⟨hclosing, hlive⟩, he⟩
  · rw [he]
    exact .rests _ _
  · have hpool : (f.dismiss j now).1.pool? p = if p = j then none else f.pool? p := by
      rw [he, pool?_letGoQueue, pool?_withoutPool hj]
    apply turn_of_eq hpool
    rintro rfl
    rw [hj]
    exact .dismissed now pool hclosing hlive

lemma pool?_setStance (hp : f.pool? p = some pool) (i : Nat) (s : Stance) (j : Nat) :
    (f.setStance p i s).pool? j = if j = p then some (pool.setStance i s) else f.pool? j := by
  rw [setStance, pool?_modifyPool, hp, Option.map_some]

lemma look_allows (hp : f.pool? p = some pool) (i : Nat) (now : Timestamp) :
    ∃ s, f.Allows pool s ∧ ∀ j, (f.look p i now).pool? j = (f.setStance p i s).pool? j := by
  rcases look_cases hp i now with ⟨hc, he⟩ | ⟨hidle, he⟩ | ⟨q, queue, e, es, hrun, -, -, -, he⟩
  · exact ⟨.gone, .inl hc, fun j => by rw [he]⟩
  · exact ⟨.parked, hidle, fun j => by rw [he]⟩
  · refine ⟨.serving e pool.recorders now, hrun, ?_⟩
    intro j
    have hp' : (f.setQueue q { queue with waiting := es }).pool? p = some pool := hp
    rw [he, pool?_setStance hp', pool?_setStance hp]
    rfl

lemma comeBack_allows (hp : f.pool? p = some pool) (i : Nat) (now : Timestamp) :
    ∃ s, f.Allows pool s ∧ ∀ j, (f.comeBack p i now).pool? j = (f.setStance p i s).pool? j := by
  have he : f.comeBack p i now =
      if pool.draining && f.hasNoCalls pool then f.setStance p i .gone else f.look p i now := by
    simp only [comeBack, hp]
  rw [he]
  split
  · have hdrained : pool.draining = true ∧ f.hasNoCalls pool = true :=
      Bool.and_eq_true_iff.1 ‹_›
    exact ⟨.gone, .inr hdrained, fun _ => rfl⟩
  · exact look_allows hp i now

lemma turn_work (f : Floor) (p j i : Nat) (now : Timestamp) (draw : Nat) :
    f.Turn p (.work j i now draw) (f.pool? p) ((f.work j i now draw).pool? p) := by
  cases hj : f.pool? j with
  | none =>
    simp only [work, hj, Option.bind_none]
    exact .rests _ _
  | some pool =>
    cases hi : pool.operators[i]? with
    | none =>
      simp only [work, hj, Option.bind_some, hi]
      exact .rests _ _
    | some o =>
      have takes {s : Stance} {f' : Floor} (hs : f.Allows pool s)
          (h : ∀ k, f'.pool? k = (f.setStance j i s).pool? k) :
          f.Turn p (.work j i now draw) (f.pool? p) (f'.pool? p) := by
        apply turn_of_eq ((h p).trans (pool?_setStance hj i s p))
        rintro rfl
        rw [hj]
        exact .worked i now draw pool o s hi hs
      obtain ⟨id, stance⟩ := o
      simp only [work, hj, Option.bind_some, hi]
      cases stance with
      | parked | gone => exact .rests _ _
      | awake =>
        obtain ⟨s, hs, h⟩ := look_allows hj i now
        exact takes hs h
      | serving e set since =>
        refine takes (s := .returning) trivial ?_
        intro k
        have hj' : ({ f with exchange := hangUp f.exchange id e set since now draw } : Floor).pool?
            j = some pool := hj
        rw [finishCall_eq hj hi, pool?_setPool hj', pool?_setStance hj]
        rfl
      | returning =>
        obtain ⟨s, hs, h⟩ := comeBack_allows hj i now
        exact takes hs h

theorem turn_act (f : Floor) (p : Nat) (deed : Deed) :
    f.Turn p deed (f.pool? p) ((f.act deed).pool? p) := by
  cases deed with
  | build size capacity => exact turn_build f p size capacity
  | bring j bounds number start taken now => exact turn_bring bounds number start taken now f p j
  | beginStart j =>
    rw [act, beginStart_eq]
    exact turn_modifyPool f fun pool hpj => hpj ▸ .begun pool
  | revive j =>
    rw [act, pool?_revive]
    exact turn_modifyPool f fun pool hpj => hpj ▸ .revived pool
  | wakeAll j => exact turn_modifyPool f fun pool hpj => hpj ▸ .woken pool
  | stop j => exact turn_modifyPool f fun pool hpj => hpj ▸ .stopped pool
  | transfer j old now => exact turn_transfer f p j old now
  | replaceQueue j capacity now => exact turn_replaceQueue f p j capacity now
  | setRecorders j set => exact turn_setRecorders f p j set
  | setCapacity q capacity =>
    rw [act, setCapacity, pool?_modifyQueue]
    exact .rests _ _
  | work j i now draw => exact turn_work f p j i now draw
  | close j => exact turn_modifyPool f fun pool hpj => hpj ▸ .closed pool
  | dismiss j now => exact turn_dismiss f p j now

end Switchboard.Floor
