import Switchboard.Proofs.Floor.Turns
import Switchboard.Proofs.Floor.Wiring

/-! Whether a pool and its queue hand records to the same recorders. -/

namespace Switchboard

namespace Floor

def wire? (f : Floor) (p : Nat) : Option (Option Nat × RecorderSet) :=
  (f.pool? p).map fun pool => (pool.queue, pool.recorders)

def sink? (f : Floor) (q : Nat) : Option RecorderSet := (f.queue? q).map CallQueue.recorders

variable {f : Floor} {p q j old : Nat} {pool other : Pool} {set s : RecorderSet}
  {own taken : Option Nat} {now : Timestamp} {w : Option Nat × RecorderSet}

lemma wire?_of_pool? (h : f.pool? p = some pool) :
    f.wire? p = some (pool.queue, pool.recorders) := by
  rw [wire?, h, Option.map_some]

lemma wire?_eq_none (h : f.pool? p = none) : f.wire? p = none := by
  rw [wire?, h, Option.map_none]

lemma draws_iff : (f.pool? p).bind (·.queue) = some q ↔ ∃ set, f.wire? p = some (some q, set) := by
  cases hp : f.pool? p with
  | none => simp [wire?, hp]
  | some pool => simp [wire?, hp]

lemma sink?_redirect (f : Floor) (taken : Option Nat) (set : RecorderSet) (q : Nat) :
    (f.redirect taken set).sink? q =
      if taken = some q then (f.sink? q).map fun _ => set else f.sink? q := by
  by_cases htaken : taken = some q
  · subst htaken
    rw [redirect, if_pos rfl]
    cases hq : f.queue? q with
    | none => rw [modifyQueue_of_none hq, sink?, hq, Option.map_none, Option.map_none]
    | some queue =>
      rw [modifyQueue_of_some hq, sink?, queue?_setQueue hq, if_pos rfl, sink?, hq]
      rfl
  · rw [if_neg htaken, sink?, queue?_redirect_of_ne f set htaken, sink?]

lemma sink?_of_redirect (h : (f.redirect taken set).sink? q = some s) :
    if taken = some q then s = set else f.sink? q = some s := by
  rw [sink?_redirect] at h
  split
  · rw [if_pos ‹_›] at h
    obtain ⟨-, -, rfl⟩ := Option.map_eq_some_iff.1 h
    rfl
  · rwa [if_neg ‹_›] at h

lemma sink?_of_letGoQueue (h : (f.letGoQueue own now).1.sink? q = some s) :
    f.sink? q = some s := by
  rw [sink?] at h ⊢
  obtain he | ⟨he, -⟩ := queue?_letGoQueue f own now q
  · rwa [he] at h
  · rw [he] at h
    cases h

lemma sink?_of_takeQueue
    (h : ((f.takeQueue p pool taken set).letGoQueue own now).1.sink? q = some s) :
    if taken = some q then s = set else f.sink? q = some s := by
  have hs : (f.takeQueue p pool taken set).sink? q = some s := sink?_of_letGoQueue h
  exact sink?_of_redirect hs

lemma wire?_transfer (hp : f.pool? p = some pool) (ho : f.pool? old = some other) (now : Timestamp)
    (j : Nat) :
    (f.transfer p old now).1.wire? j =
      if j = p then some (other.queue,
        if (f.transfer p old now).2.isNone then other.recorders else pool.recorders)
      else f.wire? j := by
  rw [wire?, pool?_transfer hp ho]
  split
  · split <;> rfl
  · rfl

lemma sink?_of_transfer (hp : f.pool? p = some pool) (ho : f.pool? old = some other)
    (h : (f.transfer p old now).1.sink? q = some s) :
    if other.queue = some q then s = other.recorders else f.sink? q = some s := by
  rw [transfer_eq hp ho] at h
  dsimp only at h
  split at h
  · have hs : ((f.takeQueue p pool other.queue other.recorders).letGoQueue pool.queue
        now).1.sink? q = some s := h
    exact sink?_of_takeQueue hs
  · exact sink?_of_takeQueue h

lemma wire?_installQueue (hp : f.pool? p = some pool) (q : Nat) (now : Timestamp) (j : Nat) :
    (f.installQueue p q now).1.wire? j =
      if j = p then some (some q, pool.recorders) else f.wire? j := by
  rw [wire?, pool?_installQueue hp]
  split
  · split <;> rfl
  · rfl

lemma sink?_of_installQueue (hp : f.pool? p = some pool)
    (h : (f.installQueue p j now).1.sink? q = some s) :
    if some j = some q then s = pool.recorders else f.sink? q = some s := by
  rw [installQueue_eq hp] at h
  dsimp only at h
  split at h
  · have hlike := WiredLike.modifyPool
      ((f.takeQueue p pool (some j) pool.recorders).letGoQueue pool.queue now).1 p
      (g := Pool.wakeAll) (fun _ => rfl) fun _ => rfl
    exact sink?_of_takeQueue ((hlike.queues q).symm.trans h)
  · exact sink?_of_takeQueue h

lemma wire?_setRecorders (hp : f.pool? p = some pool) (set : RecorderSet) (j : Nat) :
    (f.setRecorders p set).wire? j =
      if j = p then some (pool.queue, set) else f.wire? j := by
  rw [setRecorders_eq hp, wire?, pool?_setPool ((pool?_redirect ..).trans hp), pool?_redirect]
  split <;> rfl

lemma sink?_of_setRecorders (hp : f.pool? p = some pool)
    (h : (f.setRecorders p set).sink? q = some s) :
    if pool.queue = some q then s = set else f.sink? q = some s := by
  rw [setRecorders_eq hp] at h
  exact sink?_of_redirect h

lemma wire?_of_dismiss (h : (f.dismiss j now).1.wire? p = some w) : f.wire? p = some w := by
  obtain he | ⟨pool, hp, -, he⟩ := dismiss_cases f j now
  · rwa [he] at h
  · rw [he, wire?, pool?_letGoQueue, pool?_withoutPool hp] at h
    split at h
    · cases h
    · exact h

lemma sink?_of_dismiss (h : (f.dismiss j now).1.sink? q = some s) : f.sink? q = some s := by
  obtain he | ⟨pool, hp, -, he⟩ := dismiss_cases f j now
  · rwa [he] at h
  · rw [he] at h
    have hs : (f.withoutPool j).sink? q = some s := sink?_of_letGoQueue h
    exact hs

lemma sink?_newQueue (f : Floor) (capacity : UInt64) (set : RecorderSet) (q : Nat) :
    (f.newQueue capacity set).2.sink? q =
      if q = f.queues.length then some set else f.sink? q := by
  have hq : (f.newQueue capacity set).2.queue? q =
      if q = f.queues.length then some (.empty capacity set) else f.queue? q :=
    join_getElem?_append f.queues _ q
  rw [sink?, hq]
  split <;> rfl

lemma sink?_withQueue (f : Floor) (capacity : UInt64) (q : Nat) :
    (f.withQueue capacity).sink? q =
      if q = f.queues.length then some (.empty f.recorderSets) else f.sink? q :=
  (f.newRecorders []).2.sink?_newQueue capacity (.empty f.recorderSets) q

lemma wire?_poolAround (f : Floor) (size : Nat) (queue : Option Nat) (set : RecorderSet)
    (ids j : Nat) :
    (f.poolAround size queue set ids).2.wire? j =
      if j = f.pools.length then some (queue, set) else f.wire? j := by
  rw [wire?, pool?_poolAround]
  split <;> rfl

end Floor

structure Tenancy where
  floor : Floor
  keeper : Nat → Option Nat

namespace Tenancy

inductive Deed
  | floor (deed : Floor.Deed)
  | newRecorders (members : List Recorder)
  | newQueue (capacity : UInt64) (set : RecorderSet)
  | newIds (first : CallId)
  | poolAround (size : Nat) (queue : Option Nat) (set : RecorderSet) (ids : Nat)
  | installQueue (p q : Nat) (now : Timestamp)

def step (f : Floor) : Deed → Floor
  | .floor deed => f.act deed
  | .newRecorders members => (f.newRecorders members).2
  | .newQueue capacity set => (f.newQueue capacity set).2
  | .newIds first => (f.newIds first).2
  | .poolAround size queue set ids => (f.poolAround size queue set ids).2
  | .installQueue p q now => (f.installQueue p q now).1

def taker? (f : Floor) : Deed → Option Nat
  | .floor (.build ..) | .poolAround .. => some f.pools.length
  | .floor (.transfer p old _) => (f.pool? old).map fun _ => p
  | .floor (.replaceQueue p capacity _) =>
    if CallQueue.overflow? capacity = none then some p else none
  | .installQueue p _ _ => some p
  | _ => none

def act (t : Tenancy) (deed : Deed) : Tenancy where
  floor := step t.floor deed
  keeper q :=
    let kept := if q < t.floor.queues.length then t.keeper q else none
    match taker? t.floor deed with
    | none => kept
    | some p => if ((step t.floor deed).pool? p).bind (·.queue) = some q then some p else kept

def run (t : Tenancy) (deeds : List Deed) : Tenancy := deeds.foldl act t

def after (deeds : List Deed) : Tenancy := run ⟨.empty, fun _ => none⟩ deeds

lemma run_append (t : Tenancy) (deeds more : List Deed) :
    t.run (deeds ++ more) = (t.run deeds).run more :=
  List.foldl_append

lemma after_append (deeds more : List Deed) : after (deeds ++ more) = (after deeds).run more :=
  run_append ..

def Concord (t : Tenancy) (p : Nat) : Prop :=
  ∀ pool q queue, t.floor.pool? p = some pool → pool.queue = some q → t.keeper q = some p →
    t.floor.queue? q = some queue → queue.recorders = pool.recorders

inductive Jars (t : Tenancy) (p : Nat) : Deed → Prop
  | around (size q : Nat) (set : RecorderSet) (ids : Nat) (queue : CallQueue)
      (fresh : p = t.floor.pools.length) (isQueue : t.floor.queue? q = some queue)
      (differs : queue.recorders ≠ set) : Jars t p (.poolAround size (some q) set ids)
  | crash (old : Nat) (now : Timestamp) (pool other : Pool) (isPool : t.floor.pool? p = some pool)
      (isOther : t.floor.pool? old = some other)
      (crashes : (t.floor.transfer p old now).2 ≠ none)
      (differs : other.recorders ≠ pool.recorders) : Jars t p (.floor (.transfer p old now))
  | meddle (j q : Nat) (set : RecorderSet) (pool other : Pool)
      (isPool : t.floor.pool? p = some pool) (isOther : t.floor.pool? j = some other)
      (shared : pool.queue = some q ∧ other.queue = some q) (isKeeper : t.keeper q = some p)
      (apart : j ≠ p) (differs : set ≠ pool.recorders) : Jars t p (.floor (.setRecorders j set))

variable {t : Tenancy} {p q : Nat} {deed : Deed}

lemma concord_iff :
    t.Concord p ↔ ∀ q set s, t.floor.wire? p = some (some q, set) → t.keeper q = some p →
      t.floor.sink? q = some s → s = set := by
  constructor
  · intro h q set s hwire hkeeper hsink
    obtain ⟨pool, hp, hw⟩ := Option.map_eq_some_iff.1 hwire
    obtain ⟨queue, hq, rfl⟩ := Option.map_eq_some_iff.1 hsink
    obtain ⟨hown, rfl⟩ := Prod.mk.inj hw
    exact h pool q queue hp hown hkeeper hq
  · intro h pool q queue hp hown hkeeper hq
    refine h q pool.recorders queue.recorders ?_ hkeeper (by rw [Floor.sink?, hq, Option.map_some])
    rw [Floor.wire?_of_pool? hp, hown]

lemma keeper_act (h : (t.act deed).keeper q = some p) :
    taker? t.floor deed = some p ∨
      t.keeper q = some p ∧ q < t.floor.queues.length ∧
        ∀ j set, taker? t.floor deed = some j →
          (step t.floor deed).wire? j ≠ some (some q, set) := by
  have kept (hk : (if q < t.floor.queues.length then t.keeper q else none) = some p) :
      t.keeper q = some p ∧ q < t.floor.queues.length := by
    split at hk
    · exact ⟨hk, ‹_›⟩
    · cases hk
  rw [act] at h
  dsimp only at h
  cases htaker : taker? t.floor deed with
  | none =>
    rw [htaker] at h
    obtain ⟨hk, hq⟩ := kept h
    exact .inr ⟨hk, hq, by simp⟩
  | some k =>
    rw [htaker] at h
    dsimp only at h
    split at h
    · exact .inl h
    · obtain ⟨hk, hq⟩ := kept h
      refine .inr ⟨hk, hq, ?_⟩
      rintro j set hj hwire
      obtain rfl := Option.some.inj hj
      exact ‹¬ _› (Floor.draws_iff.2 ⟨set, hwire⟩)

lemma concord_same (h : t.Concord p)
    (htaker : ∀ j, taker? t.floor deed = some j → t.floor.wire? j = none)
    (hwire : ∀ j w, (step t.floor deed).wire? j = some w → t.floor.wire? j = some w)
    (hsink : ∀ q s, q < t.floor.queues.length → (step t.floor deed).sink? q = some s →
      t.floor.sink? q = some s) : (t.act deed).Concord p := by
  rw [concord_iff] at h ⊢
  intro q set s hw hkeeper hs
  have hw := hwire p _ hw
  obtain hp | ⟨hk, hq, -⟩ := keeper_act hkeeper
  · cases (htaker p hp).symm.trans hw
  · exact h q set s hw hk (hsink q s hq hs)

lemma concord_idle (h : t.Concord p) (he : step t.floor deed = t.floor)
    (htaker : ∀ j, taker? t.floor deed = some j → t.floor.pool? j = none) :
    (t.act deed).Concord p := by
  apply concord_same h
  · exact fun j hj => Floor.wire?_eq_none (htaker j hj)
  · exact fun _ _ hw => he ▸ hw
  · exact fun _ _ _ hs => he ▸ hs

lemma concord_of_wire (taken : Option Nat) (own : RecorderSet)
    (hwire : (step t.floor deed).wire? p = some (taken, own))
    (hown : ∀ q s, taken = some q → (step t.floor deed).sink? q = some s → s = own) :
    (t.act deed).Concord p := by
  rw [concord_iff]
  intro q set s hw _ hs
  obtain ⟨htaken, rfl⟩ := Prod.mk.inj (Option.some.inj (hwire.symm.trans hw))
  exact hown q s htaken hs

lemma concord_of_missing (hp : t.floor.pool? p = none) (he : step t.floor deed = t.floor) :
    (t.act deed).Concord p := by
  intro pool q queue hpool
  cases hp.symm.trans ((congrArg (·.pool? p) he).symm.trans hpool)

lemma concord_taken (h : t.Concord p) (j : Nat) (taken : Option Nat) (own : RecorderSet)
    (htaker : taker? t.floor deed = some j)
    (hwire : ∀ k, (step t.floor deed).wire? k =
      if k = j then some (taken, own) else t.floor.wire? k)
    (hown : ∀ q s, p = j → taken = some q → (step t.floor deed).sink? q = some s → s = own)
    (hsink : ∀ q s, taken ≠ some q → q < t.floor.queues.length →
      (step t.floor deed).sink? q = some s → t.floor.sink? q = some s) :
    (t.act deed).Concord p := by
  have hp := hwire p
  by_cases hj : p = j
  · rw [if_pos hj] at hp
    exact concord_of_wire taken own hp fun q s => hown q s hj
  · rw [if_neg hj] at hp
    rw [concord_iff] at h ⊢
    intro q set s hw hkeeper hs
    obtain hk | ⟨hk, hq, hothers⟩ := keeper_act hkeeper
    · exact absurd (Option.some.inj (hk.symm.trans htaker)) hj
    · -- The queue that was taken is kept by `j` now, so `p` keeps another one.
      refine h q set s (hp.symm.trans hw) hk (hsink q s ?_ hq hs)
      rintro rfl
      exact hothers j own htaker ((hwire j).trans (if_pos rfl))

lemma concord_transfer (h : t.Concord p) {j old : Nat} {now : Timestamp}
    (hj : ¬ t.Jars p (.floor (.transfer j old now))) :
    (t.act (.floor (.transfer j old now))).Concord p := by
  cases ho : t.floor.pool? old with
  | none =>
    apply concord_idle h
    · exact Floor.transfer_of_none_old ho j now
    · intro k hk
      simp [taker?, ho] at hk
  | some other =>
    cases hp : t.floor.pool? j with
    | none =>
      apply concord_idle h
      · exact Floor.transfer_of_none hp old now
      · intro k hk
        obtain ⟨-, -, rfl⟩ := Option.map_eq_some_iff.1 hk
        exact hp
    | some pool =>
      apply concord_taken h j other.queue
        (if (t.floor.transfer j old now).2.isNone then other.recorders else pool.recorders)
      · rw [taker?, ho, Option.map_some]
      · exact Floor.wire?_transfer hp ho now
      · rintro q s rfl hq hs
        have hs := Floor.sink?_of_transfer hp ho hs
        rw [if_pos hq] at hs
        by_cases hcalm : (t.floor.transfer p old now).2.isNone
        · rwa [if_pos hcalm]
        · -- The queue has gone over to the recorders of the other pool, and the pool has not.
          rw [if_neg hcalm, hs]
          by_contra hne
          refine hj (.crash old now pool other hp ho ?_ hne)
          exact fun hnone => hcalm (Option.isNone_iff_eq_none.2 hnone)
      · intro q s hq _ hs
        have hs := Floor.sink?_of_transfer hp ho hs
        rwa [if_neg hq] at hs

lemma concord_installQueue (h : t.Concord p) (j q : Nat) (now : Timestamp) :
    (t.act (.installQueue j q now)).Concord p := by
  cases hp : t.floor.pool? j with
  | none =>
    apply concord_idle h
    · exact Floor.installQueue_of_none hp q now
    · intro k hk
      obtain rfl := Option.some.inj hk
      exact hp
  | some pool =>
    apply concord_taken h j (some q) pool.recorders rfl
    · exact Floor.wire?_installQueue hp q now
    · intro k s _ hk hs
      have hs := Floor.sink?_of_installQueue hp hs
      rwa [if_pos hk] at hs
    · intro k s hk _ hs
      have hs := Floor.sink?_of_installQueue hp hs
      rwa [if_neg hk] at hs

lemma concord_replaceQueue (h : t.Concord p) (j : Nat) (capacity : UInt64) (now : Timestamp) :
    (t.act (.floor (.replaceQueue j capacity now))).Concord p := by
  cases ho : CallQueue.overflow? capacity with
  | some crash =>
    apply concord_idle h
    · exact Floor.replaceQueue_of_overflow ho j now
    · intro k hk
      simp [taker?, ho] at hk
  | none =>
    have he : step t.floor (.floor (.replaceQueue j capacity now)) =
        ((t.floor.withQueue capacity).installQueue j t.floor.queues.length now).1 :=
      Floor.replaceQueue_eq ho j now
    have htaker : taker? t.floor (.floor (.replaceQueue j capacity now)) = some j := if_pos ho
    have hsink (q : Nat) (s : RecorderSet) (hq : q < t.floor.queues.length)
        (hs : (t.floor.withQueue capacity).sink? q = some s) : t.floor.sink? q = some s := by
      rwa [Floor.sink?_withQueue, if_neg (Nat.ne_of_lt hq)] at hs
    cases hp : t.floor.pool? j with
    | none =>
      have hp' : (t.floor.withQueue capacity).pool? j = none := hp
      have he := he.trans (Floor.installQueue_of_none hp' t.floor.queues.length now)
      apply concord_same h
      · intro k hk
        obtain rfl := Option.some.inj (hk.symm.trans htaker)
        exact Floor.wire?_eq_none hp
      · intro k w hw
        rw [he] at hw
        exact hw
      · intro q s hq hs
        rw [he] at hs
        exact hsink q s hq hs
    | some pool =>
      have hp' : (t.floor.withQueue capacity).pool? j = some pool := hp
      apply concord_taken h j (some t.floor.queues.length) pool.recorders htaker
      · intro k
        rw [he]
        exact Floor.wire?_installQueue hp' t.floor.queues.length now k
      · intro q s _ hq hs
        rw [he] at hs
        have hs := Floor.sink?_of_installQueue hp' hs
        rwa [if_pos hq] at hs
      · intro q s hq hlt hs
        rw [he] at hs
        have hs := Floor.sink?_of_installQueue hp' hs
        rw [if_neg hq] at hs
        exact hsink q s hlt hs

lemma concord_build (h : t.Concord p) (size : Nat) (capacity : UInt64) :
    (t.act (.floor (.build size capacity))).Concord p := by
  cases ho : Floor.overflow? size (some capacity) with
  | some crash =>
    apply concord_idle h
    · exact Floor.act_build_of_overflow ho
    · intro j hj
      obtain rfl := Option.some.inj hj
      simp [Floor.pool?]
  | none =>
    have he : step t.floor (.floor (.build size capacity)) =
        (((t.floor.withQueue capacity).newIds 1).2.poolAround size (some t.floor.queues.length)
          (.empty t.floor.recorderSets) t.floor.idSources.length).2 := by
      exact (Floor.act_build ho).trans (Floor.newPool_eq ..)
    have hsink (q : Nat) : (step t.floor (.floor (.build size capacity))).sink? q =
        if q = t.floor.queues.length then some (.empty t.floor.recorderSets)
        else t.floor.sink? q := by
      rw [he]
      exact t.floor.sink?_withQueue capacity q
    apply concord_taken h t.floor.pools.length (some t.floor.queues.length)
      (.empty t.floor.recorderSets) rfl
    · intro j
      rw [he]
      exact Floor.wire?_poolAround ..
    · intro q s _ hq hs
      obtain rfl := Option.some.inj hq
      rw [hsink, if_pos rfl] at hs
      exact (Option.some.inj hs).symm
    · intro q s hq _ hs
      rwa [hsink, if_neg fun hne => hq (congrArg some hne.symm)] at hs

lemma concord_poolAround (h : t.Concord p) {size : Nat} {queue : Option Nat} {set : RecorderSet}
    {ids : Nat} (hj : ¬ t.Jars p (.poolAround size queue set ids)) :
    (t.act (.poolAround size queue set ids)).Concord p := by
  apply concord_taken h t.floor.pools.length queue set rfl
  · exact t.floor.wire?_poolAround size queue set ids
  · rintro q s hp rfl hs
    obtain ⟨queue, hqueue, rfl⟩ := Option.map_eq_some_iff.1 hs
    by_contra hne
    exact hj (.around size q set ids queue hp hqueue hne)
  · exact fun _ _ _ _ hs => hs

lemma concord_setRecorders (h : t.Concord p) {j : Nat} {set : RecorderSet}
    (hj : ¬ t.Jars p (.floor (.setRecorders j set))) :
    (t.act (.floor (.setRecorders j set))).Concord p := by
  cases ho : t.floor.pool? j with
  | none =>
    apply concord_idle h
    · exact Floor.setRecorders_of_none ho set
    · intro k hk
      cases hk
  | some other =>
    have hwire := Floor.wire?_setRecorders ho set p
    rw [concord_iff] at h ⊢
    intro q own s hw hkeeper hs
    have hw := hwire.symm.trans hw
    have hs := Floor.sink?_of_setRecorders ho hs
    obtain hp | ⟨hk, -, -⟩ := keeper_act hkeeper
    · cases hp
    by_cases hpj : p = j
    · rw [if_pos hpj] at hw
      obtain ⟨hq, rfl⟩ := Prod.mk.inj (Option.some.inj hw)
      rwa [if_pos hq] at hs
    · rw [if_neg hpj] at hw
      split at hs
      · obtain ⟨pool, hp, hpw⟩ := Option.map_eq_some_iff.1 hw
        obtain ⟨hq, rfl⟩ := Prod.mk.inj hpw
        by_contra hne
        subst hs
        exact hj (.meddle j q s pool other hp ho ⟨hq, ‹_›⟩ hk (Ne.symm hpj) hne)
      · exact h q own s hw hk hs

lemma taker?_eq_none {f : Floor} {deed : Floor.Deed} (h : ¬ deed.Rewires) :
    taker? f (.floor deed) = none := by
  cases deed with
  | build size capacity => exact absurd (.build size capacity) h
  | transfer j old now => exact absurd (.transfer j old now) h
  | replaceQueue j capacity now => exact absurd (.replaceQueue j capacity now) h
  | _ => rfl

lemma concord_floor (h : t.Concord p) {deed : Floor.Deed} (hj : ¬ t.Jars p (.floor deed)) :
    (t.act (.floor deed)).Concord p := by
  by_cases hr : deed.Rewires
  · cases hr with
    | build size capacity => exact concord_build h size capacity
    | transfer => exact concord_transfer h hj
    | replaceQueue j capacity now => exact concord_replaceQueue h j capacity now
    | setRecorders => exact concord_setRecorders h hj
    | dismiss j now =>
      exact concord_same h (by simp [taker?]) (fun _ _ => Floor.wire?_of_dismiss)
        fun _ _ _ => Floor.sink?_of_dismiss
  · have hlike := (Floor.WiredLike.act t.floor deed).resolve_right hr
    apply concord_same h
    · intro j hk
      cases (taker?_eq_none hr).symm.trans hk
    · exact fun j w hw => (hlike.pools j).symm.trans hw
    · exact fun q s _ hs => (hlike.queues q).symm.trans hs

lemma concord_act (h : t.Concord p) (deed : Deed) (hj : ¬ t.Jars p deed) :
    (t.act deed).Concord p := by
  cases deed with
  | floor deed => exact concord_floor h hj
  | newRecorders | newIds =>
    exact concord_same h (by simp [taker?]) (fun _ _ hw => hw) fun _ _ _ hs => hs
  | newQueue capacity set =>
    refine concord_same h (by simp [taker?]) (fun _ _ hw => hw) fun q s hq hs => ?_
    rwa [step, Floor.sink?_newQueue, if_neg (Nat.ne_of_lt hq)] at hs
  | poolAround => exact concord_poolAround h hj
  | installQueue j q now => exact concord_installQueue h j q now

lemma concord_empty (p : Nat) : (after []).Concord p := by
  intro pool q queue hp
  simp [after, run, Floor.pool?, Floor.empty] at hp

lemma concord_or_jarred (deeds : List Deed) (p : Nat) :
    (after deeds).Concord p ∨
      ∃ before deed later, deeds = before ++ deed :: later ∧ (after before).Concord p ∧
        (after before).Jars p deed ∧
        ∀ more, more <+: later → ¬ (after (before ++ deed :: more)).Concord p := by
  refine holds_or_broken (P := fun deeds => (after deeds).Concord p) (concord_empty p) ?_ deeds
  intro deeds deed htogether hj
  rw [after_append]
  exact concord_act htogether deed hj

lemma concord_of_setRecorders (t : Tenancy) (p : Nat) (set : RecorderSet) :
    (t.act (.floor (.setRecorders p set))).Concord p := by
  cases hp : t.floor.pool? p with
  | none => exact concord_of_missing hp (Floor.setRecorders_of_none hp set)
  | some pool =>
    apply concord_of_wire pool.queue set
    · exact (Floor.wire?_setRecorders hp set p).trans (if_pos rfl)
    · intro q s hq hs
      have hs := Floor.sink?_of_setRecorders hp hs
      rwa [if_pos hq] at hs

lemma concord_of_installQueue (t : Tenancy) (p q : Nat) (now : Timestamp) :
    (t.act (.installQueue p q now)).Concord p := by
  cases hp : t.floor.pool? p with
  | none => exact concord_of_missing hp (Floor.installQueue_of_none hp q now)
  | some pool =>
    apply concord_of_wire (some q) pool.recorders
    · exact (Floor.wire?_installQueue hp q now p).trans (if_pos rfl)
    · intro k s hk hs
      have hs := Floor.sink?_of_installQueue hp hs
      rwa [if_pos hk] at hs

lemma concord_of_transfer {old : Nat} {now : Timestamp} (ho : (t.floor.pool? old).isSome)
    (hcalm : (t.floor.transfer p old now).2 = none) :
    (t.act (.floor (.transfer p old now))).Concord p := by
  obtain ⟨other, ho⟩ := Option.isSome_iff_exists.1 ho
  cases hp : t.floor.pool? p with
  | none => exact concord_of_missing hp (Floor.transfer_of_none hp old now)
  | some pool =>
    apply concord_of_wire other.queue other.recorders
    · have hw := (Floor.wire?_transfer hp ho now p).trans (if_pos rfl)
      rwa [hcalm] at hw
    · intro q s hq hs
      have hs := Floor.sink?_of_transfer hp ho hs
      rwa [if_pos hq] at hs

end Tenancy

end Switchboard
