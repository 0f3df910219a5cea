import Switchboard.Proofs.Floor.Turns

/-! Who waits in the queues of a floor and which identifiers were drawn. Only when a call is brought
does anyone join a queue, and only a pool with a queue draws an identifier for it. -/

namespace Switchboard.Floor

open scoped List

structure Thins (f f' : Floor) : Prop where
  waiting : ∀ q, f'.waitingIn q <+ f.waitingIn q
  ids : ∀ (g : Nat) (id : CallId), f.idSources[g]? = some id → f'.idSources[g]? = some id

variable {f f' f₁ : Floor} {p q : Nat} {pool : Pool} {queue : CallQueue}

lemma waitingIn_modifyQueue (f : Floor) (q : Nat) {g : CallQueue → CallQueue}
    (hg : ∀ queue : CallQueue, (g queue).waiting = queue.waiting) (j : Nat) :
    (f.modifyQueue q g).waitingIn j = f.waitingIn j := by
  cases hq : f.queue? q with
  | none => rw [modifyQueue_of_none hq]
  | some queue =>
    rw [modifyQueue_of_some hq, waitingIn_setQueue hq]
    split
    · rw [‹j = q›, waitingIn_of_queue? hq, hg queue]
    · rfl

lemma waitingIn_redirect (f : Floor) (q : Option Nat) (set : RecorderSet) (j : Nat) :
    (f.redirect q set).waitingIn j = f.waitingIn j := by
  cases q with
  | none => rfl
  | some q => exact waitingIn_modifyQueue f q (g := (·.setRecorders set)) (fun _ => rfl) j

namespace Thins

lemma of_eq (hq : f'.queues = f.queues) (hi : f'.idSources = f.idSources) : f.Thins f' := by
  refine ⟨?_, fun g id h => hi ▸ h⟩
  intro q
  rw [waitingIn, queue?, hq, waitingIn, queue?]

lemma refl (f : Floor) : f.Thins f := of_eq rfl rfl

lemma trans (h : f.Thins f₁) (h' : f₁.Thins f') : f.Thins f' :=
  ⟨fun q => (h'.waiting q).trans (h.waiting q), fun g id hg => h'.ids g id (h.ids g id hg)⟩

lemma setQueue (hq : f.queue? q = some queue) {queue' : CallQueue}
    (hw : queue'.waiting <+ queue.waiting) : f.Thins (f.setQueue q queue') := by
  refine ⟨?_, fun _ _ => id⟩
  intro j
  rw [waitingIn_setQueue hq]
  split
  · rw [‹j = q›, waitingIn_of_queue? hq]
    exact hw.map _
  · exact .refl _

lemma modifyPool (f : Floor) (p : Nat) (g : Pool → Pool) : f.Thins (f.modifyPool p g) := by
  rw [Floor.modifyPool]
  split
  · exact .refl f
  · exact .of_eq rfl rfl

lemma modifyQueue (f : Floor) (q : Nat) {g : CallQueue → CallQueue}
    (hg : ∀ queue : CallQueue, (g queue).waiting = queue.waiting) :
    f.Thins (f.modifyQueue q g) := by
  refine ⟨fun j => by rw [waitingIn_modifyQueue f q hg], ?_⟩
  intro k id h
  rw [Floor.modifyQueue]
  split
  · exact h
  · exact h

lemma redirect (f : Floor) (q : Option Nat) (set : RecorderSet) : f.Thins (f.redirect q set) := by
  cases q with
  | none => exact .refl f
  | some q => exact .modifyQueue f q fun _ => rfl

lemma letGoQueue (f : Floor) (own : Option Nat) (now : Timestamp) :
    f.Thins (f.letGoQueue own now).1 := by
  constructor
  · intro j
    rcases queue?_letGoQueue f own now j with he | ⟨he, -⟩
    · rw [waitingIn, he, waitingIn]
    · rw [waitingIn, he]
      exact List.nil_sublist _
  · intro g id h
    unfold Floor.letGoQueue
    cases own with
    | none => exact h
    | some k =>
      dsimp only
      split
      · exact h
      · exact h

lemma takeQueue (f : Floor) (p : Nat) (pool : Pool) (q : Option Nat) (set : RecorderSet)
    (now : Timestamp) : f.Thins ((f.takeQueue p pool q set).letGoQueue pool.queue now).1 := by
  have hs : f.Thins (f.takeQueue p pool q set) := (redirect f q set).trans (.of_eq rfl rfl)
  exact hs.trans (letGoQueue _ pool.queue now)

lemma transfer (f : Floor) (p old : Nat) (now : Timestamp) : f.Thins (f.transfer p old now).1 := by
  cases hp : f.pool? p with
  | none =>
    rw [transfer_of_none hp]
    exact refl f
  | some pool =>
    cases ho : f.pool? old with
    | none =>
      rw [transfer_of_none_old ho]
      exact refl f
    | some other =>
      have ht := takeQueue f p pool other.queue other.recorders now
      rw [transfer_eq hp ho]
      dsimp only
      split
      · exact ht.trans (.of_eq rfl rfl)
      · exact ht

lemma installQueue (f : Floor) (p q : Nat) (now : Timestamp) :
    f.Thins (f.installQueue p q now).1 := by
  cases hp : f.pool? p with
  | none =>
    rw [installQueue_of_none hp]
    exact refl f
  | some pool =>
    have ht := takeQueue f p pool (some q) pool.recorders now
    rw [installQueue_eq hp]
    dsimp only
    split
    · exact ht.trans (modifyPool _ p Pool.wakeAll)
    · exact ht

lemma withQueue (f : Floor) (capacity : UInt64) : f.Thins (f.withQueue capacity) :=
  ⟨fun q => by rw [waitingIn_withQueue], fun _ _ => id⟩

lemma poolAround (f : Floor) (first : CallId) (size : Nat) (queue : Option Nat)
    (set : RecorderSet) :
    f.Thins ((f.newIds first).2.poolAround size queue set f.idSources.length).2 := by
  refine ⟨fun q => .refl _, ?_⟩
  intro g id h
  obtain ⟨hg, -⟩ := List.getElem?_eq_some_iff.1 h
  exact (List.getElem?_append_left hg).trans h

lemma newPool (f : Floor) (size : Nat) (capacity : UInt64) :
    f.Thins (f.newPool size capacity).2 := by
  rw [newPool_eq]
  exact (withQueue f capacity).trans (poolAround _ 1 size _ _)

lemma setRecorders (f : Floor) (p : Nat) (set : RecorderSet) : f.Thins (f.setRecorders p set) := by
  cases hp : f.pool? p with
  | none =>
    rw [setRecorders_of_none hp]
    exact refl f
  | some pool =>
    rw [setRecorders_eq hp]
    exact (redirect f pool.queue set).trans (.of_eq rfl rfl)

lemma dismiss (f : Floor) (p : Nat) (now : Timestamp) : f.Thins (f.dismiss p now).1 := by
  rcases dismiss_cases f p now with he | ⟨pool, -, -, he⟩
  · rw [he]
    exact .refl f
  · rw [he]
    have hs : f.Thins (f.withoutPool p) := .of_eq rfl rfl
    exact hs.trans (letGoQueue _ pool.queue now)

lemma revive (f : Floor) (p : Nat) : f.Thins (f.revive p) := by
  rw [Floor.revive]
  split
  · exact .refl f
  · exact .of_eq rfl rfl

lemma work (f : Floor) (p i : Nat) (now : Timestamp) (draw : Nat) :
    f.Thins (f.work p i now draw) := by
  have hi : (f.work p i now draw).idSources = f.idSources := (sameTerms_work f p i now draw).ids
  cases f.works_work p i now draw with
  | rests _ _ _ queues => exact .of_eq queues hi
  | hangsUp _ _ _ _ queues => exact .of_eq queues hi
  | picksUp pool isPool _ q draws queue isQueue e es waits _ _ _ _ queues =>
    have hs : f.Thins (f.setQueue q { queue with waiting := es }) := by
      apply setQueue isQueue
      rw [waits]
      exact List.sublist_cons_self e es
    exact hs.trans (.of_eq queues hi)

end Thins

theorem thins_act (f : Floor) {deed : Deed}
    (h : ∀ p bounds number start taken now, deed ≠ .bring p bounds number start taken now) :
    f.Thins (f.act deed) := by
  cases deed with
  | bring p bounds number start taken now => exact absurd rfl (h p bounds number start taken now)
  | build size capacity =>
    cases ho : overflow? size (some capacity) with
    | none =>
      rw [act_build ho]
      exact .newPool f size capacity
    | some crash =>
      rw [act_build_of_overflow ho]
      exact .refl f
  | beginStart p =>
    rw [act, beginStart_eq]
    exact .modifyPool f p _
  | revive p => exact .revive f p
  | wakeAll p => exact .modifyPool f p _
  | stop p => exact .modifyPool f p _
  | transfer p old now => exact .transfer f p old now
  | replaceQueue p capacity now =>
    cases ho : CallQueue.overflow? capacity with
    | some crash =>
      rw [act, replaceQueue_of_overflow ho]
      exact .refl f
    | none =>
      rw [act, replaceQueue_eq ho]
      exact (Thins.withQueue f capacity).trans (.installQueue _ p _ now)
  | setRecorders p set => exact .setRecorders f p set
  | setCapacity q capacity => exact .modifyQueue f q fun _ => rfl
  | work p i now draw => exact .work f p i now draw
  | close p => exact .modifyPool f p _
  | dismiss p now => exact .dismiss f p now

lemma waitingIn_replaceQueue (f : Floor) (p : Nat) (capacity : UInt64) (now : Timestamp) :
    (f.act (.replaceQueue p capacity now)).waitingIn f.queues.length = [] := by
  have ht : f.Thins (f.act (.replaceQueue p capacity now)) :=
    f.thins_act fun _ _ _ _ _ _ => Deed.noConfusion
  exact List.sublist_nil.1
    (waitingIn_of_length_le (Nat.le_refl f.queues.length) ▸ ht.waiting f.queues.length)

lemma push_sublist (queue : CallQueue) (x : Exchange) (now : Timestamp) (e : Entry) :
    (queue.push x now e).queue.waiting <+ queue.waiting ++ [e] := by
  have hp := queue.push_ends x now e
  generalize queue.push x now e = r at hp ⊢
  have hw : (queue.without e.number).waiting <+ queue.waiting := List.eraseP_sublist
  cases hp with
  | full | fullCrash => exact List.sublist_append_left _ _
  | new => exact .refl _
  | swap => exact hw.append_right [e]
  | swapCrash => exact hw.trans (List.sublist_append_left _ _)

lemma push_of_empty (hw : queue.waiting = []) (x : Exchange) (now : Timestamp) (e : Entry) :
    (queue.push x now e).queue.waiting = [] ∨
      (queue.push x now e).reply = .ok true ∧ (queue.push x now e).left = [] := by
  have hp := queue.push_ends x now e
  generalize queue.push x now e = r at hp ⊢
  cases hp with
  | full | fullCrash => exact .inl hw
  | new => exact .inr ⟨rfl, rfl⟩
  | swap older _ isOlder => simp [CallQueue.find?, hw] at isOlder
  | swapCrash older c _ isOlder => simp [CallQueue.find?, hw] at isOlder

structure Joins (f f' : Floor) (p : Nat) (pool : Pool) (q : Nat) (e : Entry) : Prop where
  waiting : f'.waitingIn q <+ f.waitingIn q ++ [⟨e, .waiting q⟩]
  others : ∀ j ≠ q, f'.waitingIn j = f.waitingIn j
  ids : f'.idSources = f.idSources.set pool.ids (e.id + 1)
  wakes : f.waitingIn q = [] → f'.waitingIn q = [] ∨ f'.pool? p = some pool.wakeOne

lemma waitingIn_enqueue (hqueue : f.queue? q = some queue) (p : Nat) (e : Entry)
    (future : CallFuture) (now : Timestamp) (j : Nat) :
    (f.enqueue p q queue e future now).1.waitingIn j =
      if j = q then (queue.push f.exchange now e).queue.waiting.map (⟨·, .waiting q⟩)
      else f.waitingIn j := by
  let r := queue.push f.exchange now e
  let f' : Floor := { f with exchange := (r.exchange.releaseAll r.left now).1 }.setQueue q r.queue
  have hs : f'.waitingIn j = _ := waitingIn_setQueue hqueue r.queue j
  obtain ⟨-, he⟩ := f.enqueue_eq p q queue e future now
  rcases he with he | he
  · rw [he]
    exact hs
  · rw [he, modifyPool]
    split
    · exact hs
    · exact hs

lemma pool?_enqueue_of_push (hp : f.pool? p = some pool) {e : Entry} {now : Timestamp}
    (hr : (queue.push f.exchange now e).reply = .ok true)
    (hl : (queue.push f.exchange now e).left = []) (q : Nat) (future : CallFuture) :
    (f.enqueue p q queue e future now).1.pool? p = some pool.wakeOne := by
  let f' : Floor := { f with exchange := (queue.push f.exchange now e).exchange }.setQueue q
    (queue.push f.exchange now e).queue
  have he : (f.enqueue p q queue e future now).1 = f'.modifyPool p Pool.wakeOne := by
    simp only [enqueue, release, hr, hl, Exchange.releaseAll, if_true]
    rfl
  have hp' : f'.pool? p = some pool := hp
  rw [he, pool?_modifyPool, if_pos rfl, hp', Option.map_some]

lemma joins_enqueue {f₁ : Floor} (hp : f.pool? p = some pool) (hqueue : f.queue? q = some queue)
    (hp₁ : f₁.pools = f.pools) (hq₁ : f₁.queues = f.queues) {e : Entry}
    (hi₁ : f₁.idSources = f.idSources.set pool.ids (e.id + 1)) (future : CallFuture)
    (now : Timestamp) : f.Joins (f₁.enqueue p q queue e future now).1 p pool q e := by
  have hqueue₁ : f₁.queue? q = some queue := by rw [queue?, hq₁, ← queue?, hqueue]
  have hpool₁ : f₁.pool? p = some pool := by rw [pool?, hp₁, ← pool?, hp]
  have hw (j : Nat) := waitingIn_enqueue hqueue₁ p e future now j
  constructor
  · rw [hw, if_pos rfl, waitingIn_of_queue? hqueue]
    simpa using (push_sublist queue f₁.exchange now e).map fun e => (⟨e, .waiting q⟩ : Presence)
  · intro j hj
    rw [hw, if_neg hj, waitingIn, queue?, hq₁, waitingIn, queue?]
  · rw [← hi₁]
    obtain ⟨-, he⟩ := f₁.enqueue_eq p q queue e future now
    rcases he with he | he
    · rw [he]
      rfl
    · rw [he, modifyPool]
      split <;> rfl
  · intro hempty
    rw [waitingIn_of_queue? hqueue, List.map_eq_nil_iff] at hempty
    rcases push_of_empty hempty f₁.exchange now e with hr | ⟨hr, hl⟩
    · refine .inl ?_
      rw [hw, if_pos rfl, List.map_eq_nil_iff]
      exact hr
    · exact .inr (pool?_enqueue_of_push hpool₁ hr hl q future)

section Bring

variable (bounds : ServiceBounds) (number : String) (start : Timestamp) (taken : Bool)
  (now : Timestamp)

lemma thins_bring (hd : f.door? p = none) :
    f.Thins (f.bring p bounds number start taken now).1 := by
  rw [bring_of_no_door bounds number start now hd]
  exact .of_eq rfl rfl

lemma joins_bring (hp : f.pool? p = some pool) (hq : pool.queue = some q)
    (hqueue : f.queue? q = some queue) :
    f.Joins (f.bring p bounds number start taken now).1 p pool q
      ⟨f.exchange.tasks.length, (f.nextId pool.ids).1, number⟩ := by
  rw [bring_of_queue? bounds number start taken now hp hq hqueue]
  cases taken with
  | true =>
    rw [if_pos rfl]
    exact ⟨List.sublist_append_left _ _, fun _ _ => rfl, rfl, fun hempty => .inl hempty⟩
  | false =>
    rw [if_neg Bool.false_ne_true]
    apply joins_enqueue hp hqueue
    · rfl
    · rfl
    · rfl

end Bring

end Switchboard.Floor
