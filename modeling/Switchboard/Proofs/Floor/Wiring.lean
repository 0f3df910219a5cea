import Mathlib.Data.List.Induction
import Switchboard.Proofs.Floor.Working
import Switchboard.Proofs.Floor.Arrivals

/-! How a floor is wired: which pool takes calls from which queue, and to which recorders each of
them hands records. Few deeds change it, and none brings recorders along that nobody set. -/

namespace Switchboard.Floor

structure WiredLike (f f' : Floor) : Prop where
  pools : ∀ p, (f'.pool? p).map (fun pool => (pool.queue, pool.recorders)) =
    (f.pool? p).map fun pool => (pool.queue, pool.recorders)
  queues : ∀ q, (f'.queue? q).map CallQueue.recorders = (f.queue? q).map CallQueue.recorders

inductive Deed.Rewires : Deed → Prop
  | build (size : Nat) (capacity : UInt64) : Rewires (.build size capacity)
  | transfer (p old : Nat) (now : Timestamp) : Rewires (.transfer p old now)
  | replaceQueue (p : Nat) (capacity : UInt64) (now : Timestamp) :
      Rewires (.replaceQueue p capacity now)
  | setRecorders (p : Nat) (set : RecorderSet) : Rewires (.setRecorders p set)
  | dismiss (p : Nat) (now : Timestamp) : Rewires (.dismiss p now)

structure Within (P : RecorderSet → Prop) (f : Floor) : Prop where
  pool : ∀ p pool, f.pool? p = some pool → P pool.recorders
  queue : ∀ q queue, f.queue? q = some queue → P queue.recorders

def Equipped (f : Floor) : Prop :=
  ∀ p pool, f.pool? p = some pool → ∃ q, pool.queue = some q ∧ (f.queue? q).isSome

variable {f f' f₁ : Floor} {p q : Nat} {pool pool' : Pool} {queue queue' : CallQueue}
  {P : RecorderSet → Prop}

namespace WiredLike

lemma of_eq (hp : f'.pools = f.pools) (hq : f'.queues = f.queues) : f.WiredLike f' :=
  ⟨fun p => by rw [pool?, hp, pool?], fun q => by rw [queue?, hq, queue?]⟩

lemma refl (f : Floor) : f.WiredLike f := of_eq rfl rfl

lemma trans (h : f.WiredLike f₁) (h' : f₁.WiredLike f') : f.WiredLike f' :=
  ⟨fun p => (h'.pools p).trans (h.pools p), fun q => (h'.queues q).trans (h.queues q)⟩

lemma setPool (hp : f.pool? p = some pool) (hq : pool'.queue = pool.queue)
    (hr : pool'.recorders = pool.recorders) : f.WiredLike (f.setPool p pool') := by
  refine ⟨?_, fun _ => rfl⟩
  intro j
  rw [pool?_setPool hp]
  split
  · simp [‹j = p›, hp, hq, hr]
  · rfl

lemma from_eq (h : f₁.WiredLike f') (hp : f₁.pools = f.pools) (hq : f₁.queues = f.queues) :
    f.WiredLike f' :=
  (of_eq hp hq).trans h

lemma modifyPool (f : Floor) (p : Nat) {g : Pool → Pool} (hq : ∀ pool, (g pool).queue = pool.queue)
    (hr : ∀ pool, (g pool).recorders = pool.recorders) : f.WiredLike (f.modifyPool p g) := by
  cases hp : f.pool? p with
  | none =>
    rw [modifyPool_of_none hp]
    exact .refl f
  | some pool =>
    rw [modifyPool_of_some hp]
    exact .setPool hp (hq pool) (hr pool)

lemma setQueue (hq : f.queue? q = some queue) (hr : queue'.recorders = queue.recorders) :
    f.WiredLike (f.setQueue q queue') := by
  refine ⟨fun _ => rfl, ?_⟩
  intro j
  rw [queue?_setQueue hq]
  split
  · simp [‹j = q›, hq, hr]
  · rfl

lemma setStance (f : Floor) (p i : Nat) (s : Stance) : f.WiredLike (f.setStance p i s) :=
  .modifyPool f p (fun _ => rfl) fun _ => rfl

lemma look (f : Floor) (p i : Nat) (now : Timestamp) : f.WiredLike (f.look p i now) := by
  cases hp : f.pool? p with
  | none =>
    have he : f.look p i now = f := by simp only [Floor.look, hp]
    rw [he]
    exact .refl f
  | some pool =>
    rcases look_cases hp i now with ⟨-, he⟩ | ⟨-, he⟩ | ⟨q, queue, e, es, -, -, hqueue, -, he⟩
    · rw [he]
      exact .setStance f p i .gone
    · rw [he]
      exact .setStance f p i .parked
    · rw [he]
      have hq : f.WiredLike (f.setQueue q { queue with waiting := es }) := setQueue hqueue rfl
      exact hq.trans (.setStance _ p i _)

lemma finishCall (f : Floor) (p i : Nat) (ended : Timestamp) (draw : Nat) :
    f.WiredLike (f.finishCall p i ended draw) := by
  rw [Floor.finishCall]
  split
  · exact .refl f
  · split
    · dsimp only
      exact (setStance _ p i .returning).from_eq rfl rfl
    · exact .refl f

lemma comeBack (f : Floor) (p i : Nat) (now : Timestamp) : f.WiredLike (f.comeBack p i now) := by
  rw [Floor.comeBack]
  split
  · exact .refl f
  · split
    · exact .setStance f p i .gone
    · exact look f p i now

lemma work (f : Floor) (p i : Nat) (now : Timestamp) (draw : Nat) :
    f.WiredLike (f.work p i now draw) := by
  rw [Floor.work]
  split
  · exact look f p i now
  · exact finishCall f p i now draw
  · exact comeBack f p i now
  · exact .refl f

lemma enqueue (hqueue : f.queue? q = some queue) (p : Nat) (e : Entry) (future : CallFuture)
    (now : Timestamp) : f.WiredLike (f.enqueue p q queue e future now).1 := by
  obtain ⟨-, hr⟩ := queue.push_frame f.exchange now e
  let x := ((queue.push f.exchange now e).exchange.releaseAll
    (queue.push f.exchange now e).left now).1
  have hqueue' : ({ f with exchange := x } : Floor).queue? q = some queue := hqueue
  have hq : f.WiredLike (({ f with exchange := x } : Floor).setQueue q
      (queue.push f.exchange now e).queue) :=
    (setQueue hqueue' hr).from_eq rfl rfl
  obtain ⟨-, he⟩ := f.enqueue_eq p q queue e future now
  rcases he with he | he
  · rw [he]
    exact hq
  · rw [he]
    exact hq.trans (.modifyPool _ p (fun _ => rfl) fun _ => rfl)

lemma bring (f : Floor) (p : Nat) (bounds : ServiceBounds) (number : String) (start : Timestamp)
    (taken : Bool) (now : Timestamp) :
    f.WiredLike (f.bring p bounds number start taken now).1 := by
  rw [bring_eq]
  cases hp : f.pool? p with
  | none => exact .of_eq rfl rfl
  | some pool =>
    cases hq : pool.queue with
    | none =>
      simp only [hq]
      exact .of_eq rfl rfl
    | some q =>
      cases hqueue : f.queue? q with
      | none =>
        simp only [hq, queueOf?, Option.bind_some, hqueue]
        exact .of_eq rfl rfl
      | some queue =>
        simp only [hq, queueOf?, Option.bind_some, hqueue]
        rw [register_eq rfl]
        cases taken with
        | true => exact .of_eq rfl rfl
        | false =>
          let t := (Task.newcomer f.exchange.promises bounds number start false).admitted
            f.exchange.promises (f.nextId pool.ids).1 pool.recorders
          have hqueue' : (f.welcome pool.ids t).queue? q = some queue := hqueue
          exact (enqueue hqueue' p _ _ now).from_eq rfl rfl

lemma beginStart (f : Floor) (p : Nat) : f.WiredLike (f.beginStart p).2 := by
  cases hp : f.pool? p with
  | none => simpa only [Floor.beginStart, hp] using .refl f
  | some pool =>
    have he : (f.beginStart p).2 = f.setPool p pool.beginStart.2 := by
      simp only [Floor.beginStart, hp]
    rw [he]
    exact .setPool hp rfl rfl

lemma revive (f : Floor) (p : Nat) : f.WiredLike (f.revive p) := by
  cases hp : f.pool? p with
  | none => simpa only [Floor.revive, hp] using .refl f
  | some pool =>
    have hr : f.WiredLike (f.setPool p (pool.revive (f.hired + 1))) := .setPool hp rfl rfl
    simp only [Floor.revive, hp]
    exact hr.trans (.of_eq rfl rfl)

lemma setCapacity (f : Floor) (q : Nat) (capacity : UInt64) :
    f.WiredLike (f.setCapacity q capacity) := by
  cases hq : f.queue? q with
  | none =>
    rw [Floor.setCapacity, modifyQueue_of_none hq]
    exact .refl f
  | some queue =>
    rw [Floor.setCapacity, modifyQueue_of_some hq]
    exact .setQueue hq rfl

lemma act (f : Floor) (deed : Deed) : f.WiredLike (f.act deed) ∨ deed.Rewires := by
  cases deed with
  | build size capacity => exact .inr (.build size capacity)
  | bring p bounds number start taken now => exact .inl (bring f p bounds number start taken now)
  | beginStart p => exact .inl (beginStart f p)
  | revive p => exact .inl (revive f p)
  | wakeAll p => exact .inl (modifyPool f p (fun _ => rfl) fun _ => rfl)
  | stop p => exact .inl (modifyPool f p (fun _ => rfl) fun _ => rfl)
  | transfer p old now => exact .inr (.transfer p old now)
  | replaceQueue p capacity now => exact .inr (.replaceQueue p capacity now)
  | setRecorders p set => exact .inr (.setRecorders p set)
  | setCapacity q capacity => exact .inl (setCapacity f q capacity)
  | work p i now draw => exact .inl (work f p i now draw)
  | close p => exact .inl (modifyPool f p (fun _ => rfl) fun _ => rfl)
  | dismiss p now => exact .inr (.dismiss p now)

lemma pool_of (h : f.WiredLike f') (hp : f'.pool? p = some pool') :
    ∃ pool, f.pool? p = some pool ∧ pool.queue = pool'.queue ∧
      pool.recorders = pool'.recorders := by
  have hm := h.pools p
  rw [hp, Option.map_some] at hm
  obtain ⟨pool, hpool, he⟩ := Option.map_eq_some_iff.1 hm.symm
  exact ⟨pool, hpool, congrArg Prod.fst he, congrArg Prod.snd he⟩

lemma queue_of (h : f.WiredLike f') (hq : f'.queue? q = some queue') :
    ∃ queue, f.queue? q = some queue ∧ queue.recorders = queue'.recorders := by
  have hm := h.queues q
  rw [hq, Option.map_some] at hm
  exact Option.map_eq_some_iff.1 hm.symm

lemma isSome_queue? (h : f.WiredLike f') (q : Nat) :
    (f'.queue? q).isSome = (f.queue? q).isSome := by
  simpa using congrArg Option.isSome (h.queues q)

end WiredLike

lemma queue?_letGoQueue (f : Floor) (own : Option Nat) (now : Timestamp) (j : Nat) :
    (f.letGoQueue own now).1.queue? j = f.queue? j ∨
      (f.letGoQueue own now).1.queue? j = none ∧ f.usesQueue j = false := by
  unfold letGoQueue
  cases own with
  | none => exact .inl rfl
  | some k =>
    dsimp only
    split
    · have hj : ((f.queues.set k none)[j]?).join = if j = k then none else f.queue? j :=
        join_getElem?_set (queue_lt ‹_›) none j
      by_cases hjk : j = k
      · refine .inr ⟨?_, hjk ▸ ‹_›⟩
        rw [if_pos hjk] at hj
        exact hj
      · rw [if_neg hjk] at hj
        exact .inl hj
    · exact .inl rfl

namespace Within

lemma of_wiredLike (hw : f.Within P) (h : f.WiredLike f') : f'.Within P := by
  constructor
  · intro p pool' hp
    obtain ⟨pool, hpool, -, hr⟩ := h.pool_of hp
    exact hr ▸ hw.pool p pool hpool
  · intro q queue' hq
    obtain ⟨queue, hqueue, hr⟩ := h.queue_of hq
    exact hr ▸ hw.queue q queue hqueue

lemma setPool (hw : f.Within P) (hp : f.pool? p = some pool) (hr : P pool'.recorders) :
    (f.setPool p pool').Within P := by
  refine ⟨?_, hw.queue⟩
  intro j pool'' hj
  rw [pool?_setPool hp] at hj
  split at hj
  · exact Option.some.inj hj ▸ hr
  · exact hw.pool j pool'' hj

lemma redirect (hw : f.Within P) (q : Option Nat) {set : RecorderSet} (hr : P set) :
    (f.redirect q set).Within P := by
  cases q with
  | none => exact hw
  | some q =>
    cases hq : f.queue? q with
    | none => simpa only [Floor.redirect, modifyQueue_of_none hq] using hw
    | some queue =>
      simp only [Floor.redirect, modifyQueue_of_some hq]
      refine ⟨hw.pool, ?_⟩
      intro j queue' hj
      rw [queue?_setQueue hq] at hj
      split at hj
      · exact Option.some.inj hj ▸ hr
      · exact hw.queue j queue' hj

lemma letGoQueue (hw : f.Within P) (own : Option Nat) (now : Timestamp) :
    (f.letGoQueue own now).1.Within P := by
  constructor
  · intro p pool hp
    exact hw.pool p pool (pool?_letGoQueue f own now p ▸ hp)
  · intro q queue hq
    rcases queue?_letGoQueue f own now q with he | ⟨he, -⟩
    · exact hw.queue q queue (he ▸ hq)
    · cases he.symm.trans hq

lemma takeQueue (hw : f.Within P) (hp : f.pool? p = some pool) (q : Option Nat) {set : RecorderSet}
    (hr : P set) : (f.takeQueue p pool q set).Within P :=
  (hw.redirect q hr).setPool ((pool?_redirect f q set p).trans hp) (hw.pool p pool hp)

lemma transfer (hw : f.Within P) (p old : Nat) (now : Timestamp) :
    (f.transfer p old now).1.Within P := by
  cases hp : f.pool? p with
  | none => rwa [transfer_of_none hp]
  | some pool =>
    cases ho : f.pool? old with
    | none => rwa [transfer_of_none_old ho]
    | some other =>
      have hr := hw.pool old other ho
      have ht := (hw.takeQueue hp other.queue hr).letGoQueue pool.queue now
      have hp' := (pool?_letGoQueue _ pool.queue now p).trans
        (pool?_takeQueue hp other.queue other.recorders)
      rw [transfer_eq hp ho]
      dsimp only
      split
      · exact ht.setPool hp' hr
      · exact ht

lemma withQueue (hw : f.Within P) (hempty : ∀ label, P (.empty label)) (capacity : UInt64) :
    (f.withQueue capacity).Within P := by
  refine ⟨hw.pool, ?_⟩
  intro q queue hq
  rw [queue?_withQueue] at hq
  split at hq
  · exact Option.some.inj hq ▸ hempty f.recorderSets
  · exact hw.queue q queue hq

lemma installQueue (hw : f.Within P) (p q : Nat) (now : Timestamp) :
    (f.installQueue p q now).1.Within P := by
  cases hp : f.pool? p with
  | none => rwa [installQueue_of_none hp]
  | some pool =>
    have ht := (hw.takeQueue hp (some q) (hw.pool p pool hp)).letGoQueue pool.queue now
    rw [installQueue_eq hp]
    dsimp only
    split
    · exact ht.of_wiredLike (.modifyPool _ p (fun _ => rfl) fun _ => rfl)
    · exact ht

lemma replaceQueue (hw : f.Within P) (hempty : ∀ label, P (.empty label)) (p : Nat)
    (capacity : UInt64) (now : Timestamp) : (f.replaceQueue p capacity now).1.Within P := by
  cases ho : CallQueue.overflow? capacity with
  | some crash => rwa [replaceQueue_of_overflow ho]
  | none =>
    rw [replaceQueue_eq ho]
    exact (hw.withQueue hempty capacity).installQueue p f.queues.length now

lemma build (hw : f.Within P) (hempty : ∀ label, P (.empty label)) (size : Nat)
    (capacity : UInt64) : (f.act (.build size capacity)).Within P := by
  cases ho : overflow? size (some capacity) with
  | some crash => rwa [act_build_of_overflow ho]
  | none =>
    rw [act_build ho, newPool_eq]
    have hq := hw.withQueue hempty capacity
    refine ⟨?_, hq.queue⟩
    intro p pool hp
    rw [pool?_poolAround] at hp
    split at hp
    · exact Option.some.inj hp ▸ hempty f.recorderSets
    · exact hq.pool p pool hp

lemma dismiss (hw : f.Within P) (p : Nat) (now : Timestamp) : (f.dismiss p now).1.Within P := by
  rcases dismiss_cases f p now with he | ⟨pool, hp, -, he⟩
  · rwa [he]
  · have hw' : (f.withoutPool p).Within P := by
      refine ⟨?_, hw.queue⟩
      intro j pool' hj
      rw [pool?_withoutPool hp] at hj
      split at hj
      · cases hj
      · exact hw.pool j pool' hj
    rw [he]
    exact hw'.letGoQueue pool.queue now

lemma setRecorders (hw : f.Within P) (p : Nat) {set : RecorderSet} (hr : P set) :
    (f.setRecorders p set).Within P := by
  cases hp : f.pool? p with
  | none => rwa [setRecorders_of_none hp]
  | some pool =>
    rw [setRecorders_eq hp]
    exact (hw.redirect pool.queue hr).setPool ((pool?_redirect f _ set p).trans hp) hr

lemma act (hw : f.Within P) (hempty : ∀ label, P (.empty label)) {deed : Deed}
    (hset : ∀ p set, deed = .setRecorders p set → P set) : (f.act deed).Within P := by
  rcases WiredLike.act f deed with h | h
  · exact hw.of_wiredLike h
  · cases h with
    | build size capacity => exact hw.build hempty size capacity
    | transfer p old now => exact hw.transfer p old now
    | replaceQueue p capacity now => exact hw.replaceQueue hempty p capacity now
    | setRecorders p set => exact hw.setRecorders p (hset p set rfl)
    | dismiss p now => exact hw.dismiss p now

end Within

namespace Equipped

lemma of_wiredLike (he : f.Equipped) (h : f.WiredLike f') : f'.Equipped := by
  intro p pool' hp
  obtain ⟨pool, hpool, hq, -⟩ := h.pool_of hp
  obtain ⟨q, hpq, hs⟩ := he p pool hpool
  exact ⟨q, hq.symm.trans hpq, (h.isSome_queue? q).trans hs⟩

lemma setPool (he : f.Equipped) (hp : f.pool? p = some pool)
    (hq : ∃ q, pool'.queue = some q ∧ (f.queue? q).isSome) : (f.setPool p pool').Equipped := by
  intro j pool'' hj
  rw [pool?_setPool hp] at hj
  split at hj
  · exact Option.some.inj hj ▸ hq
  · exact he j pool'' hj

lemma isSome_redirect (f : Floor) (q : Option Nat) (set : RecorderSet) (j : Nat) :
    ((f.redirect q set).queue? j).isSome = (f.queue? j).isSome := by
  cases q with
  | none => rfl
  | some q =>
    cases hq : f.queue? q with
    | none => rw [Floor.redirect, modifyQueue_of_none hq]
    | some queue =>
      rw [Floor.redirect, modifyQueue_of_some hq, queue?_setQueue hq]
      split
      · simp [‹j = q›, hq]
      · rfl

lemma redirect (he : f.Equipped) (q : Option Nat) (set : RecorderSet) :
    (f.redirect q set).Equipped := by
  intro p pool hp
  rw [pool?_redirect] at hp
  obtain ⟨j, hj, hs⟩ := he p pool hp
  exact ⟨j, hj, (isSome_redirect f q set j).trans hs⟩

lemma letGoQueue (he : f.Equipped) (own : Option Nat) (now : Timestamp) :
    (f.letGoQueue own now).1.Equipped := by
  intro p pool hp
  rw [pool?_letGoQueue] at hp
  obtain ⟨q, hq, hs⟩ := he p pool hp
  refine ⟨q, hq, ?_⟩
  rcases queue?_letGoQueue f own now q with hsame | ⟨-, hu⟩
  · rw [hsame, hs]
  · exact absurd hq (not_draws hu hp)

lemma takeQueue (he : f.Equipped) (hp : f.pool? p = some pool) {q : Option Nat}
    (hq : ∃ j, q = some j ∧ (f.queue? j).isSome) (set : RecorderSet) :
    (f.takeQueue p pool q set).Equipped := by
  obtain ⟨j, rfl, hs⟩ := hq
  exact (he.redirect _ set).setPool ((pool?_redirect f _ set p).trans hp)
    ⟨j, rfl, (isSome_redirect f _ set j).trans hs⟩

lemma transfer (he : f.Equipped) (p old : Nat) (now : Timestamp) :
    (f.transfer p old now).1.Equipped := by
  cases hp : f.pool? p with
  | none => rwa [transfer_of_none hp]
  | some pool =>
    cases ho : f.pool? old with
    | none => rwa [transfer_of_none_old ho]
    | some other =>
      have ht := (he.takeQueue hp (he old other ho) other.recorders).letGoQueue pool.queue now
      have hp' := (pool?_letGoQueue _ pool.queue now p).trans
        (pool?_takeQueue hp other.queue other.recorders)
      rw [transfer_eq hp ho]
      dsimp only
      split
      · exact ht.setPool hp' (ht p { pool with queue := other.queue } hp')
      · exact ht

lemma installQueue (he : f.Equipped) (p : Nat) (hq : (f.queue? q).isSome) (now : Timestamp) :
    (f.installQueue p q now).1.Equipped := by
  cases hp : f.pool? p with
  | none => rwa [installQueue_of_none hp]
  | some pool =>
    have ht := (he.takeQueue hp ⟨q, rfl, hq⟩ pool.recorders).letGoQueue pool.queue now
    rw [installQueue_eq hp]
    dsimp only
    split
    · exact ht.of_wiredLike (.modifyPool _ p (fun _ => rfl) fun _ => rfl)
    · exact ht

lemma isSome_withQueue {capacity : UInt64} {j : Nat}
    (hj : j = f.queues.length ∨ (f.queue? j).isSome) :
    ((f.withQueue capacity).queue? j).isSome := by
  rw [queue?_withQueue]
  split
  · rfl
  · exact hj.resolve_left ‹_›

lemma withQueue (he : f.Equipped) (capacity : UInt64) : (f.withQueue capacity).Equipped := by
  intro p pool hp
  obtain ⟨q, hq, hs⟩ := he p pool hp
  exact ⟨q, hq, isSome_withQueue (.inr hs)⟩

lemma replaceQueue (he : f.Equipped) (p : Nat) (capacity : UInt64) (now : Timestamp) :
    (f.replaceQueue p capacity now).1.Equipped := by
  cases ho : CallQueue.overflow? capacity with
  | some crash => rwa [replaceQueue_of_overflow ho]
  | none =>
    rw [replaceQueue_eq ho]
    exact (he.withQueue capacity).installQueue p (isSome_withQueue (.inl rfl)) now

lemma build (he : f.Equipped) (size : Nat) (capacity : UInt64) :
    (f.act (.build size capacity)).Equipped := by
  cases ho : overflow? size (some capacity) with
  | some crash => rwa [act_build_of_overflow ho]
  | none =>
    rw [act_build ho, newPool_eq]
    intro p pool hp
    rw [pool?_poolAround] at hp
    split at hp
    · obtain rfl := Option.some.inj hp
      exact ⟨f.queues.length, rfl, isSome_withQueue (f := f) (.inl rfl)⟩
    · exact he.withQueue capacity p pool hp

lemma dismiss (he : f.Equipped) (p : Nat) (now : Timestamp) : (f.dismiss p now).1.Equipped := by
  rcases dismiss_cases f p now with hd | ⟨pool, hp, -, hd⟩
  · rwa [hd]
  · have he' : (f.withoutPool p).Equipped := by
      intro j pool' hj
      rw [pool?_withoutPool hp] at hj
      split at hj
      · cases hj
      · exact he j pool' hj
    rw [hd]
    exact he'.letGoQueue pool.queue now

lemma setRecorders (he : f.Equipped) (p : Nat) (set : RecorderSet) :
    (f.setRecorders p set).Equipped := by
  cases hp : f.pool? p with
  | none => rwa [setRecorders_of_none hp]
  | some pool =>
    have hp' := (pool?_redirect f pool.queue set p).trans hp
    have hr := he.redirect pool.queue set
    rw [setRecorders_eq hp]
    exact hr.setPool hp' (hr p pool hp')

lemma act (he : f.Equipped) (deed : Deed) : (f.act deed).Equipped := by
  rcases WiredLike.act f deed with h | h
  · exact he.of_wiredLike h
  · cases h with
    | build size capacity => exact he.build size capacity
    | transfer p old now => exact he.transfer p old now
    | replaceQueue p capacity now => exact he.replaceQueue p capacity now
    | setRecorders p set => exact he.setRecorders p set
    | dismiss p now => exact he.dismiss p now

end Equipped

end Switchboard.Floor

namespace Switchboard.Day

variable {d : Day} {deeds : List Floor.Deed}

lemma within_run {P : RecorderSet → Prop} (hw : d.floor.Within P)
    (hempty : ∀ label, P (.empty label)) (hset : ∀ p set, .setRecorders p set ∈ deeds → P set) :
    (d.run deeds).floor.Within P := by
  induction deeds using List.reverseRecOn with
  | nil => exact hw
  | append_singleton deeds deed ih =>
    have hdeeds := ih fun p set hm => hset p set (List.mem_append_left _ hm)
    rw [run_append]
    apply hdeeds.act hempty
    intro p set hdeed
    exact hset p set (List.mem_append_right _ (List.mem_singleton.2 hdeed.symm))

lemma equipped_run (he : d.floor.Equipped) : (d.run deeds).floor.Equipped := by
  induction deeds using List.reverseRecOn with
  | nil => exact he
  | append_singleton deeds deed ih =>
    rw [run_append]
    exact ih.act deed

end Switchboard.Day
