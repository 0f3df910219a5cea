import Switchboard.Proofs.Floor.Lines

/-! The terms on which the pools of a floor work. Whoever directs the pools changes their terms and
builds, closes and dismisses pools; callers notice nothing of that. -/

namespace Switchboard

structure Estate where
  queue : Nat
  recorders : RecorderSet
  ids : Nat

structure Terms where
  queue : Option Nat
  recorders : RecorderSet
  ids : Nat
  paused : Bool
  closing : Bool
  size : Nat

namespace Pool

def terms (pool : Pool) : Terms :=
  ⟨pool.queue, pool.recorders, pool.ids, pool.paused, pool.closing, pool.size⟩

@[simp] lemma terms_setStance (pool : Pool) (i : Nat) (s : Stance) :
    (pool.setStance i s).terms = pool.terms := by
  simp [terms, setStance, size]

@[simp] lemma terms_wakeOne (pool : Pool) : pool.wakeOne.terms = pool.terms := by
  simp [terms, wakeOne, size]

@[simp] lemma terms_wakeAll (pool : Pool) : pool.wakeAll.terms = pool.terms := by
  simp [terms, wakeAll, size]

@[simp] lemma terms_revive (pool : Pool) (next : Nat) : (pool.revive next).terms = pool.terms := by
  simp [terms, revive, size]

@[simp] lemma terms_close (pool : Pool) :
    pool.close.terms = { pool.terms with closing := true } := by
  simp [close, terms, wakeAll, size]

end Pool

namespace Floor

def terms? (f : Floor) (p : Nat) : Option Terms := (f.pool? p).map Pool.terms

def Retired (f : Floor) (p : Nat) : Prop :=
  p < f.pools.length ∧ ∀ t, f.terms? p = some t → t.closing = true

structure Still (f f' : Floor) : Prop where
  exchange : f'.exchange = f.exchange
  lines : ∀ j i, f'.line? j i = f.line? j i
  retired : ∀ j, f.Retired j → f'.Retired j

structure Quiet (o : Estate) (f f' : Floor) : Prop extends f.Still f' where
  queue : f'.queue? o.queue = f.queue? o.queue
  others : ∀ j queue, f'.queue? j = some queue → f.queue? j = some queue ∨ queue.waiting = []
  ids : f'.idSources[o.ids]? = f.idSources[o.ids]?

variable {f f' f₁ : Floor} {p q old : Nat} {pool pool' other : Pool} {queue : CallQueue}
  {t : Terms} {o : Estate}

lemma terms?_of_pool? (hp : f.pool? p = some pool) : f.terms? p = some pool.terms := by
  rw [terms?, hp, Option.map_some]

lemma pool?_of_terms? (h : f.terms? p = some t) : ∃ pool, f.pool? p = some pool ∧ pool.terms = t :=
  Option.map_eq_some_iff.1 h

lemma terms?_setPool (hp : f.pool? p = some pool) (pool' : Pool) (j : Nat) :
    (f.setPool p pool').terms? j = if j = p then some pool'.terms else f.terms? j := by
  rw [terms?, pool?_setPool hp]
  split
  · rfl
  · rw [terms?]

lemma terms?_modifyPool (f : Floor) (p : Nat) {g : Pool → Pool} {h : Terms → Terms}
    (hg : ∀ pool, (g pool).terms = h pool.terms) (j : Nat) :
    (f.modifyPool p g).terms? j = if j = p then (f.terms? p).map h else f.terms? j := by
  cases hp : f.pool? p with
  | none =>
    rw [modifyPool_of_none hp]
    split
    · rw [‹j = p›, terms?, hp]
      rfl
    · rfl
  | some pool => rw [modifyPool_of_some hp, terms?_setPool hp, terms?_of_pool? hp, hg]; rfl

lemma terms?_modifyPool_of_same (f : Floor) (p : Nat) {g : Pool → Pool}
    (hg : ∀ pool, (g pool).terms = pool.terms) (j : Nat) :
    (f.modifyPool p g).terms? j = f.terms? j := by
  rw [terms?_modifyPool f p (h := id) hg]
  split
  · rw [‹j = p›, Option.map_id, id]
  · rfl

lemma terms?_stop (f : Floor) (p j : Nat) :
    (f.stop p).terms? j =
      if j = p then (f.terms? p).map fun t => { t with paused := true } else f.terms? j :=
  terms?_modifyPool f p (fun _ => rfl) j

lemma terms?_close (f : Floor) (p j : Nat) :
    (f.close p).terms? j =
      if j = p then (f.terms? p).map fun t => { t with closing := true } else f.terms? j :=
  terms?_modifyPool f p Pool.terms_close j

lemma terms?_beginStart (f : Floor) (p j : Nat) :
    (f.beginStart p).2.terms? j =
      if j = p then (f.terms? p).map fun t => { t with paused := false } else f.terms? j := by
  have he : (f.beginStart p).2 = f.modifyPool p fun pool => pool.beginStart.2 := by
    cases hp : f.pool? p with
    | none => simp only [beginStart, hp, modifyPool]
    | some pool => simp only [beginStart, hp, modifyPool]
  rw [he]
  exact terms?_modifyPool f p (fun _ => rfl) j

lemma terms?_revive (f : Floor) (p j : Nat) : (f.revive p).terms? j = f.terms? j := by
  cases hp : f.pool? p with
  | none => simp only [revive, hp]
  | some pool =>
    have hr := terms?_setPool hp (pool.revive (f.hired + 1)) j
    simp only [revive, hp]
    refine hr.trans ?_
    split
    · rw [‹j = p›, terms?_of_pool? hp, Pool.terms_revive]
    · rfl

lemma terms?_start (f : Floor) (p j : Nat) :
    (f.start p).terms? j =
      if j = p then (f.terms? p).map fun t => { t with paused := false } else f.terms? j := by
  rw [← terms?_beginStart, start]
  dsimp only
  split
  · rw [terms?_modifyPool_of_same _ p Pool.terms_wakeAll, terms?_revive]
  · rfl

section Work

variable {i : Nat} {now : Timestamp} {draw : Nat}

structure SameTerms (f f' : Floor) : Prop where
  terms : ∀ j, f'.terms? j = f.terms? j
  ids : f'.idSources = f.idSources
  length : f'.pools.length = f.pools.length

lemma SameTerms.of_eq (hp : f'.pools = f.pools) (hi : f'.idSources = f.idSources) :
    f.SameTerms f' :=
  ⟨fun j => by rw [terms?, pool?, hp, terms?, pool?], hi, congrArg List.length hp⟩

lemma SameTerms.modifyPool (h : f.SameTerms f₁) (p : Nat) {g : Pool → Pool}
    (hg : ∀ pool, (g pool).terms = pool.terms) : f.SameTerms (f₁.modifyPool p g) := by
  refine ⟨fun j => (terms?_modifyPool_of_same f₁ p hg j).trans (h.terms j), ?_, ?_⟩
  · rw [Floor.modifyPool]
    split <;> exact h.ids
  · rw [Floor.modifyPool]
    split
    · exact h.length
    · exact List.length_set.trans h.length

lemma SameTerms.setStance (h : f.SameTerms f₁) (p i : Nat) (s : Stance) :
    f.SameTerms (f₁.setStance p i s) :=
  h.modifyPool p fun pool => pool.terms_setStance i s

lemma SameTerms.retired (h : f.SameTerms f') {j : Nat} (hj : f.Retired j) : f'.Retired j :=
  ⟨h.length ▸ hj.1, fun t ht => hj.2 t (h.terms j ▸ ht)⟩

lemma sameTerms_look (f : Floor) (p i : Nat) (now : Timestamp) : f.SameTerms (f.look p i now) := by
  have refl : f.SameTerms f := .of_eq rfl rfl
  cases hp : f.pool? p with
  | none =>
    have he : f.look p i now = f := by simp only [look, hp]
    rwa [he]
  | some pool =>
    rcases look_cases hp i now with ⟨-, he⟩ | ⟨-, he⟩ | ⟨q, queue, e, es, -, -, -, -, he⟩
    · rw [he]
      exact refl.setStance p i .gone
    · rw [he]
      exact refl.setStance p i .parked
    · have hq : f.SameTerms (f.setQueue q { queue with waiting := es }) := .of_eq rfl rfl
      rw [he]
      exact hq.setStance p i _

lemma sameTerms_work (f : Floor) (p i : Nat) (now : Timestamp) (draw : Nat) :
    f.SameTerms (f.work p i now draw) := by
  have refl : f.SameTerms f := .of_eq rfl rfl
  rw [work]
  split
  · exact sameTerms_look f p i now
  · rw [finishCall]
    split
    · exact refl
    · split
      · have hx (x : Exchange) : f.SameTerms { f with exchange := x } := .of_eq rfl rfl
        exact (hx _).setStance p i .returning
      · exact refl
  · rw [comeBack]
    split
    · exact refl
    · split
      · exact refl.setStance p i .gone
      · exact sameTerms_look f p i now
  · exact refl

end Work

lemma Still.refl (f : Floor) : f.Still f := ⟨rfl, fun _ _ => rfl, fun _ => id⟩

lemma Still.trans (h : f.Still f₁) (h' : f₁.Still f') : f.Still f' where
  exchange := h'.exchange.trans h.exchange
  lines j i := (h'.lines j i).trans (h.lines j i)
  retired j hj := h'.retired j (h.retired j hj)

namespace Quiet

lemma refl (o : Estate) (f : Floor) : f.Quiet o f :=
  ⟨.refl f, rfl, fun _ _ => .inl, rfl⟩

lemma trans (h : f.Quiet o f₁) (h' : f₁.Quiet o f') : f.Quiet o f' where
  toStill := h.toStill.trans h'.toStill
  queue := h'.queue.trans h.queue
  others j queue hq := (h'.others j queue hq).elim (h.others j queue) .inr
  ids := h'.ids.trans h.ids

lemma setPool (hp : f.pool? p = some pool) (hl : ∀ i, pool'.line? i = pool.line? i)
    (hc : pool.closing = true → pool'.closing = true) : f.Quiet o (f.setPool p pool') := by
  refine ⟨⟨rfl, line?_setPool hp hl, ?_⟩, rfl, fun _ _ => .inl, rfl⟩
  rintro j ⟨hj, hclosing⟩
  refine ⟨by simpa [Floor.setPool] using hj, ?_⟩
  intro t ht
  rw [terms?_setPool hp] at ht
  split at ht
  · obtain rfl := Option.some.inj ht
    exact hc (hclosing pool.terms (‹j = p› ▸ terms?_of_pool? hp))
  · exact hclosing t ht

lemma modifyPool (f : Floor) (p : Nat) {g : Pool → Pool}
    (hl : ∀ pool i, (g pool).line? i = pool.line? i)
    (hc : ∀ pool : Pool, pool.closing = true → (g pool).closing = true) :
    f.Quiet o (f.modifyPool p g) := by
  cases hp : f.pool? p with
  | none =>
    rw [modifyPool_of_none hp]
    exact .refl o f
  | some pool =>
    rw [modifyPool_of_some hp]
    exact .setPool hp (hl pool) (hc pool)

lemma stop (f : Floor) (p : Nat) : f.Quiet o (f.stop p) :=
  .modifyPool f p Pool.line?_stop fun _ => id

lemma close (f : Floor) (p : Nat) : f.Quiet o (f.close p) :=
  .modifyPool f p Pool.line?_close fun _ _ => rfl

lemma start (f : Floor) (p : Nat) : f.Quiet o (f.start p) := by
  have hb : f.Quiet o (f.beginStart p).2 := by
    cases hp : f.pool? p with
    | none => simpa only [beginStart, hp] using .refl o f
    | some pool =>
      have he : (f.beginStart p).2 = f.setPool p pool.beginStart.2 := by simp only [beginStart, hp]
      rw [he]
      exact .setPool hp (fun _ => rfl) id
  have hr (f : Floor) : f.Quiet o (f.revive p) := by
    cases hp : f.pool? p with
    | none => simpa only [revive, hp] using .refl o f
    | some pool =>
      have hs : f.Quiet o (f.setPool p (pool.revive (f.hired + 1))) :=
        .setPool hp (Pool.line?_revive pool _) id
      simp only [revive, hp]
      exact ⟨⟨hs.exchange, hs.lines, hs.retired⟩, hs.queue, hs.others, hs.ids⟩
  rw [Floor.start]
  dsimp only
  split
  · exact hb.trans ((hr _).trans (.modifyPool _ p Pool.line?_wakeAll fun _ => id))
  · exact hb

end Quiet

lemma letGoQueue_of_empty (f : Floor) (own : Option Nat) (now : Timestamp)
    (he : ∀ k queue, own = some k → f.usesQueue k = false → f.queue? k = some queue →
      queue.waiting = []) :
    ∃ queues, f.letGoQueue own now = ({ f with queues := queues }, none) ∧
      ∀ j, (queues[j]?).join = f.queue? j ∨
        (queues[j]?).join = none ∧ f.usesQueue j = false := by
  have same : ∀ j, (f.queues[j]?).join = f.queue? j ∨
      (f.queues[j]?).join = none ∧ f.usesQueue j = false := fun _ => .inl rfl
  cases own with
  | none => exact ⟨f.queues, rfl, same⟩
  | some k =>
    cases hu : f.usesQueue k with
    | true => exact ⟨f.queues, by simp only [letGoQueue, hu], same⟩
    | false =>
      cases hq : f.queue? k with
      | none => exact ⟨f.queues, by simp only [letGoQueue, hu, hq], same⟩
      | some queue =>
        refine ⟨f.queues.set k none, ?_, ?_⟩
        · simp only [letGoQueue, hu, hq, CallQueue.tearDown, he k queue rfl hu hq,
            CallQueue.tearDown.go, release, List.map_nil, Exchange.releaseAll]
        · intro j
          rw [join_getElem?_set (queue_lt hq)]
          by_cases hj : j = k
          · rw [if_pos hj]
            exact .inr ⟨rfl, hj ▸ hu⟩
          · rw [if_neg hj]
            exact .inl rfl

lemma usesQueue_of_pool? (hp : f.pool? p = some pool) (hq : pool.queue = some q) :
    f.usesQueue q = true := by
  by_contra h
  exact not_draws (Bool.not_eq_true _ ▸ h) hp hq

lemma Quiet.letGoQueue (own : Option Nat) (now : Timestamp)
    (he : ∀ k queue, own = some k → f.usesQueue k = false → f.queue? k = some queue →
      queue.waiting = []) (hu : f.usesQueue o.queue = true) :
    f.Quiet o (f.letGoQueue own now).1 ∧ (f.letGoQueue own now).2 = none ∧
      (f.letGoQueue own now).1.pools = f.pools := by
  obtain ⟨queues, hl, hq⟩ := letGoQueue_of_empty f own now he
  rw [hl]
  refine ⟨⟨⟨rfl, fun _ _ => rfl, fun _ => id⟩, ?_, ?_, rfl⟩, rfl, rfl⟩
  · rcases hq o.queue with hs | ⟨-, hn⟩
    · exact hs
    · cases hu.symm.trans hn
  · intro j queue hj
    rcases hq j with hs | ⟨hn, -⟩
    · exact .inl (hs.symm.trans hj)
    · cases hn.symm.trans hj

lemma setQueue_self (hq : f.queue? q = some queue) : f.setQueue q queue = f := by
  have hlt : q < f.queues.length := queue_lt hq
  have hq' : f.queues[q] = some queue := by
    simpa [queue?, hlt] using hq
  rw [setQueue, ← hq', List.set_getElem_self]

lemma quiet_transfer (hp : f.pool? p = some pool) (ho : f.pool? old = some other)
    (hq : other.queue = some o.queue) (hqueue : f.queue? o.queue = some queue)
    (hr : queue.recorders = other.recorders)
    (he : ∀ j queue, j ≠ o.queue → f.queue? j = some queue → queue.waiting = [])
    (now : Timestamp) :
    f.Quiet o (f.transfer p old now).1 ∧
      ∀ j, (f.transfer p old now).1.terms? j = if j = p then
        some { pool.terms with
          queue := some o.queue, recorders := other.recorders, ids := other.ids } else
        f.terms? j := by
  have hredirect : f.redirect other.queue other.recorders = f := by
    simp only [redirect, hq, modifyQueue_of_some hqueue, CallQueue.setRecorders, ← hr]
    exact setQueue_self hqueue
  let f₁ := f.setPool p { pool with queue := other.queue }
  have htake : f.takeQueue p pool other.queue other.recorders = f₁ := by
    rw [takeQueue, hredirect]
  have hp₁ : f₁.pool? p = some { pool with queue := other.queue } := htake ▸ pool?_takeQueue hp ..
  have hu : f₁.usesQueue o.queue = true := usesQueue_of_pool? hp₁ hq
  have hempty : ∀ k queue, pool.queue = some k → f₁.usesQueue k = false →
      f₁.queue? k = some queue → queue.waiting = [] := by
    intro k queue _ hk
    apply he
    rintro rfl
    cases hu.symm.trans hk
  obtain ⟨hl, hcalm, hpools⟩ := Quiet.letGoQueue (o := o) pool.queue now hempty hu
  have hp₂ : (f₁.letGoQueue pool.queue now).1.pool? p = some { pool with queue := other.queue } :=
    (pool?_letGoQueue f₁ pool.queue now p).trans hp₁
  have hset : f.Quiet o f₁ := .setPool hp (fun _ => rfl) id
  rw [transfer_eq hp ho, htake]
  dsimp only
  rw [hcalm, Option.isNone_none, if_pos rfl]
  refine ⟨hset.trans (hl.trans (.setPool hp₂ (fun _ => rfl) id)), ?_⟩
  intro j
  rw [terms?_setPool hp₂]
  split
  · rw [hq]
    rfl
  · rw [terms?, pool?, hpools, ← pool?, ← terms?, terms?_setPool hp, if_neg ‹_›]

lemma build_cases {size : Nat} {capacity : UInt64} (h : f.buildPool size capacity = .ok (p, f')) :
    p = f.pools.length ∧ f' = (((f.withQueue capacity).newIds 1).2.poolAround size
      (some f.queues.length) (.empty f.recorderSets) f.idSources.length).2 := by
  rw [buildPool] at h
  split at h
  · obtain ⟨hp, hf⟩ := Prod.ext_iff.1 (Except.ok.inj h)
    exact ⟨hp.symm, hf.symm⟩
  · cases h

lemma terms?_build {size : Nat} {capacity : UInt64} (h : f.buildPool size capacity = .ok (p, f'))
    (j : Nat) :
    f'.terms? j = if j = p then
      some ⟨some f.queues.length, .empty f.recorderSets, f.idSources.length, true, false, size⟩ else
      f.terms? j := by
  obtain ⟨rfl, rfl⟩ := build_cases h
  rw [terms?, pool?_poolAround]
  split
  · rw [if_pos ‹_›]
    simp [Pool.terms, Pool.size, newcomers]
  · rw [if_neg ‹_›]
    rfl

lemma quiet_build {size : Nat} {capacity : UInt64} (h : f.buildPool size capacity = .ok (p, f'))
    (hq : o.queue < f.queues.length) (hi : o.ids < f.idSources.length) : f.Quiet o f' := by
  have hterms := terms?_build h
  obtain ⟨rfl, rfl⟩ := build_cases h
  refine ⟨⟨rfl, ?_, ?_⟩, ?_, ?_, ?_⟩
  · intro j i
    rw [line?_poolAround]
    rfl
  · rintro j ⟨hj, hclosing⟩
    refine ⟨?_, ?_⟩
    · rw [poolAround, List.length_append]
      exact Nat.lt_add_right _ hj
    · intro t ht
      rw [hterms, if_neg (Nat.ne_of_lt hj)] at ht
      exact hclosing t ht
  · exact (queue?_withQueue f capacity o.queue).trans (if_neg (Nat.ne_of_lt hq))
  · intro j queue hj
    have hj := (queue?_withQueue f capacity j).symm.trans hj
    split at hj
    · obtain rfl := Option.some.inj hj
      exact .inr rfl
    · exact .inl hj
  · exact List.getElem?_append_left hi

lemma quiet_dismiss (ho : f.pool? old = some other) (hq : other.queue = some o.queue)
    (hopen : other.closing = false)
    (he : ∀ j queue, j ≠ o.queue → f.queue? j = some queue → queue.waiting = []) (p : Nat)
    (now : Timestamp) :
    f.Quiet o (f.dismiss p now).1 ∧ ((f.dismiss p now).1 = f ∨
      (∃ t, f.terms? p = some t ∧ t.closing = true) ∧
        ∀ j, (f.dismiss p now).1.terms? j = if j = p then none else f.terms? j) := by
  rcases dismiss_cases f p now with hd | ⟨pool, hp, ⟨hclosing, hlive⟩, hd⟩
  · rw [hd]
    exact ⟨.refl o f, .inl rfl⟩
  · have hpool := pool?_withoutPool hp
    have hne : old ≠ p := by
      rintro rfl
      obtain rfl := Option.some.inj (ho.symm.trans hp)
      cases hopen.symm.trans hclosing
    have ho' : (f.withoutPool p).pool? old = some other := by rw [hpool, if_neg hne, ho]
    have hu : (f.withoutPool p).usesQueue o.queue = true := usesQueue_of_pool? ho' hq
    have hempty : ∀ k queue, pool.queue = some k → (f.withoutPool p).usesQueue k = false →
        (f.withoutPool p).queue? k = some queue → queue.waiting = [] := by
      intro k queue _ hk
      apply he
      rintro rfl
      cases hu.symm.trans hk
    obtain ⟨hl, -, hpools⟩ := Quiet.letGoQueue (o := o) pool.queue now hempty hu
    have hterms : ∀ j, (f.withoutPool p).terms? j = if j = p then none else f.terms? j := by
      intro j
      rw [terms?, hpool]
      split
      · rfl
      · rfl
    have hterms' : ∀ j, (f.dismiss p now).1.terms? j = if j = p then none else f.terms? j := by
      intro j
      rw [hd, terms?, pool?, hpools]
      exact hterms j
    refine ⟨⟨⟨hd ▸ hl.exchange, ?_, ?_⟩, hd ▸ hl.queue, hd ▸ hl.others, hd ▸ hl.ids⟩,
      .inr ⟨⟨pool.terms, terms?_of_pool? hp, hclosing⟩, hterms'⟩⟩
    · exact line?_dismiss f p now
    · rintro j ⟨hj, hcl⟩
      refine ⟨?_, ?_⟩
      · rw [hd, hpools]
        simpa [withoutPool] using hj
      · intro t ht
        rw [hterms'] at ht
        split at ht
        · cases ht
        · exact hcl t ht

end Floor

end Switchboard
