import Switchboard.Proofs.Floor.Places
import Switchboard.Proofs.Floor.Terms

/-! A floor with one live pool. All others are paused, and calls wait in the live pool's queue only,
so another pool can take its place without a caller noticing it. -/

namespace Switchboard.Floor

structure Led (f : Floor) (o : Estate) (p : Nat) (running : Bool) : Prop where
  live : ∃ size, f.terms? p = some ⟨some o.queue, o.recorders, o.ids, !running, false, size⟩
  paused : ∀ j t, j ≠ p → f.terms? j = some t → t.paused = true
  queue : ∃ queue, f.queue? o.queue = some queue ∧ queue.recorders = o.recorders
  empty : ∀ j queue, j ≠ o.queue → f.queue? j = some queue → queue.waiting = []
  ids : ∃ id, f.idSources[o.ids]? = some id
  lines : ∀ j i l, f.line? j i = some l → l.recorders = o.recorders

def Spare (f : Floor) (p : Nat) : Prop := ∃ t, f.terms? p = some t ∧ t.closing = false

def takeOver (f : Floor) (p old : Nat) (running : Bool) (now : Timestamp) : Floor :=
  let f := ((f.stop old).transfer p old now).1
  if running then f.start p else f

def handOver (f : Floor) (p old : Nat) (running : Bool) (now : Timestamp) : Floor :=
  (f.takeOver p old running now).close old

variable {f f' : Floor} {o : Estate} {p old j : Nat} {running running' : Bool} {pool : Pool}
  {queue : CallQueue}

namespace Led

lemma exists_pool (h : f.Led o p running) :
    ∃ pool, f.pool? p = some pool ∧ pool.queue = some o.queue ∧ pool.recorders = o.recorders ∧
      pool.ids = o.ids ∧ pool.paused = !running ∧ pool.closing = false := by
  obtain ⟨size, hlive⟩ := h.live
  obtain ⟨pool, hp, ht⟩ := pool?_of_terms? hlive
  exact ⟨pool, hp, congrArg Terms.queue ht, congrArg Terms.recorders ht, congrArg Terms.ids ht,
    congrArg Terms.paused ht, congrArg Terms.closing ht⟩

lemma of_quiet (h : f.Led o old running) (hq : f.Quiet o f')
    (hlive : ∃ size, f'.terms? p = some ⟨some o.queue, o.recorders, o.ids, !running', false, size⟩)
    (hpaused : ∀ j t, j ≠ p → f'.terms? j = some t → t.paused = true) :
    f'.Led o p running' where
  live := hlive
  paused := hpaused
  queue := hq.queue ▸ h.queue
  empty j queue hj hqueue := (hq.others j queue hqueue).elim (h.empty j queue hj) id
  ids := hq.ids ▸ h.ids
  lines j i l hl := h.lines j i l (hq.lines j i ▸ hl)

lemma start (h : f.Led o p running) : (f.start p).Led o p true := by
  obtain ⟨size, hlive⟩ := h.live
  refine h.of_quiet (.start f p) ⟨size, ?_⟩ ?_
  · rw [terms?_start, if_pos rfl, hlive]
    rfl
  · intro j t hj ht
    rw [terms?_start, if_neg hj] at ht
    exact h.paused j t hj ht

lemma stop (h : f.Led o p running) : (f.stop p).Led o p false := by
  obtain ⟨size, hlive⟩ := h.live
  refine h.of_quiet (.stop f p) ⟨size, ?_⟩ ?_
  · rw [terms?_stop, if_pos rfl, hlive]
    rfl
  · intro j t hj ht
    rw [terms?_stop, if_neg hj] at ht
    exact h.paused j t hj ht

lemma close_of_ne (h : f.Led o p running) (hj : j ≠ p) : (f.close j).Led o p running := by
  obtain ⟨size, hlive⟩ := h.live
  refine h.of_quiet (.close f j) ⟨size, ?_⟩ ?_
  · rw [terms?_close, if_neg hj.symm, hlive]
  · intro k t hk ht
    rw [terms?_close] at ht
    split at ht
    · obtain ⟨t', ht', rfl⟩ := Option.map_eq_some_iff.1 ht
      exact h.paused j t' hj ht'
    · exact h.paused k t hk ht

lemma build {size : Nat} {capacity : UInt64} (h : f.Led o p running)
    (hb : f.buildPool size capacity = .ok (j, f')) : f.Quiet o f' ∧ f'.Led o p running := by
  obtain ⟨n, hlive⟩ := h.live
  obtain ⟨pool, hp, -⟩ := pool?_of_terms? hlive
  obtain ⟨queue, hqueue, -⟩ := h.queue
  obtain ⟨id, hid⟩ := h.ids
  have hids : o.ids < f.idSources.length := (List.getElem?_eq_some_iff.1 hid).1
  have hq := quiet_build hb (queue_lt hqueue) hids
  have hterms := terms?_build hb
  obtain ⟨rfl, -⟩ := build_cases hb
  refine ⟨hq, h.of_quiet hq ⟨n, ?_⟩ ?_⟩
  · rw [hterms, if_neg (Nat.ne_of_lt (pool_lt hp)), hlive]
  · intro k t hk ht
    rw [hterms] at ht
    split at ht
    · obtain rfl := Option.some.inj ht
      rfl
    · exact h.paused k t hk ht

lemma dismiss (h : f.Led o p running) (j : Nat) (now : Timestamp) :
    f.Quiet o (f.dismiss j now).1 ∧ (f.dismiss j now).1.Led o p running ∧
      ∀ k t, f.terms? k = some t → t.closing = false → (f.dismiss j now).1.terms? k = some t := by
  obtain ⟨pool, hp, hq, -, -, -, hopen⟩ := h.exists_pool
  obtain ⟨size, hlive⟩ := h.live
  obtain ⟨hquiet, hd⟩ := quiet_dismiss hp hq hopen h.empty j now
  rcases hd with hd | ⟨⟨u, hu, hclosing⟩, hterms⟩
  · rw [hd]
    exact ⟨.refl o f, h, fun k t ht _ => ht⟩
  · have keeps (k : Nat) (t : Terms) (ht : f.terms? k = some t) (hc : t.closing = false) :
        (f.dismiss j now).1.terms? k = some t := by
      rw [hterms, if_neg, ht]
      rintro rfl
      obtain rfl := Option.some.inj (hu.symm.trans ht)
      cases hclosing.symm.trans hc
    refine ⟨hquiet, h.of_quiet hquiet ⟨size, keeps p _ hlive rfl⟩ ?_, keeps⟩
    intro k t hk ht
    rw [hterms] at ht
    split at ht
    · cases ht
    · exact h.paused k t hk ht

lemma takeOver (h : f.Led o old running) (hp : p ≠ old) (hs : f.Spare p) (now : Timestamp) :
    f.Quiet o (f.takeOver p old running now) ∧
      (∃ t, f.terms? p = some t ∧ (f.takeOver p old running now).terms? p =
        some ⟨some o.queue, o.recorders, o.ids, !running, false, t.size⟩) ∧
      ∀ j, j ≠ p → (f.takeOver p old running now).terms? j = (f.stop old).terms? j := by
  have hstop := h.stop
  obtain ⟨other, ho, hq, hr, hi, -⟩ := hstop.exists_pool
  obtain ⟨queue, hqueue, hqr⟩ := hstop.queue
  obtain ⟨t, ht, hopen⟩ := hs
  have ht' : (f.stop old).terms? p = some t := by rw [terms?_stop, if_neg hp, ht]
  have hpaused := hstop.paused p t hp ht'
  obtain ⟨pool, hpool, rfl⟩ := pool?_of_terms? ht'
  obtain ⟨hquiet, hterms⟩ := quiet_transfer hpool ho hq hqueue (hqr.trans hr.symm) hstop.empty now
  have hp₁ : ((f.stop old).transfer p old now).1.terms? p =
      some ⟨some o.queue, o.recorders, o.ids, true, false, pool.size⟩ := by
    rw [hterms, if_pos rfl, hr, hi, ← hpaused, ← hopen]
    rfl
  have hquiet := (Quiet.stop f old).trans hquiet
  cases running with
  | false =>
    refine ⟨hquiet, ⟨pool.terms, ht, hp₁⟩, ?_⟩
    intro j hj
    exact (hterms j).trans (if_neg hj)
  | true =>
    refine ⟨hquiet.trans (.start _ p), ⟨pool.terms, ht, ?_⟩, ?_⟩
    · exact (terms?_start ..).trans (by rw [if_pos rfl, hp₁]; rfl)
    · intro j hj
      refine (terms?_start ..).trans ?_
      rw [if_neg hj, hterms, if_neg hj]

lemma handOver (h : f.Led o old running) (hp : p ≠ old) (hs : f.Spare p) (now : Timestamp) :
    f.Quiet o (f.handOver p old running now) ∧
      (f.handOver p old running now).Led o p running ∧
      (f.handOver p old running now).Retired old ∧
      ((f.handOver p old running now).terms? p).map Terms.size = (f.terms? p).map Terms.size ∧
      ∀ j, j ≠ p → j ≠ old → (f.handOver p old running now).terms? j = f.terms? j := by
  obtain ⟨hquiet, ⟨t, ht, hp₁⟩, hj₁⟩ := h.takeOver hp hs now
  obtain ⟨size, hlive⟩ := h.live
  have hall : f.Quiet o (f.handOver p old running now) := hquiet.trans (.close _ old)
  have hp₂ : (f.handOver p old running now).terms? p =
      some ⟨some o.queue, o.recorders, o.ids, !running, false, t.size⟩ := by
    rw [Floor.handOver, terms?_close, if_neg hp, hp₁]
  have hold : (f.handOver p old running now).terms? old =
      some ⟨some o.queue, o.recorders, o.ids, true, true, size⟩ := by
    rw [Floor.handOver, terms?_close, if_pos rfl, hj₁ old hp.symm, terms?_stop, if_pos rfl, hlive]
    rfl
  have hj₂ (j : Nat) (hj : j ≠ p) (hne : j ≠ old) :
      (f.handOver p old running now).terms? j = f.terms? j := by
    rw [Floor.handOver, terms?_close, if_neg hne, hj₁ j hj, terms?_stop, if_neg hne]
  refine ⟨hall, h.of_quiet hall ⟨t.size, hp₂⟩ ?_, ⟨?_, ?_⟩, ?_, hj₂⟩
  · intro j u hj hu
    by_cases hne : j = old
    · obtain rfl := Option.some.inj (hold.symm.trans (hne ▸ hu))
      rfl
    · exact h.paused j u hne (hj₂ j hj hne ▸ hu)
  · obtain ⟨pool, hpool, -⟩ := pool?_of_terms? hold
    exact pool_lt hpool
  · intro u hu
    obtain rfl := Option.some.inj (hold.symm.trans hu)
    rfl
  · rw [hp₂, ht]
    rfl

lemma of_sameTerms (h : f.Led o p running) (ht : f.SameTerms f')
    (hqueue : ∃ queue, f'.queue? o.queue = some queue ∧ queue.recorders = o.recorders)
    (hempty : ∀ j queue, j ≠ o.queue → f'.queue? j = some queue → queue.waiting = [])
    (hlines : ∀ j i l, f'.line? j i = some l → l.recorders = o.recorders) :
    f'.Led o p running where
  live := ht.terms p ▸ h.live
  paused j t hj hjt := h.paused j t hj (ht.terms j ▸ hjt)
  queue := hqueue
  empty := hempty
  ids := ht.ids ▸ h.ids
  lines := hlines

end Led

inductive Labour (o : Estate) (f f' : Floor) (p j i : Nat) (running : Bool) (now : Timestamp)
    (draw : Nat) : Prop
  | rests (before : f.line? j i = none) (quiet : f.Quiet o f')
  | picksUp (isLive : j = p) (isRunning : running = true) (before : f.line? j i = none)
      (queue : CallQueue) (e : Entry) (es : List Entry) (isQueue : f.queue? o.queue = some queue)
      (waits : queue.waiting = e :: es)
      (after : f'.queue? o.queue = some { queue with waiting := es })
      (exchange : f'.exchange = f.exchange)
  | hangsUp (l : Line) (before : f.line? j i = some l) (after : f'.line? j i = none)
      (exchange : f'.exchange =
        hangUp f.exchange l.operator l.entry l.recorders l.since now draw)
      (queues : f'.queues = f.queues)

section Work

variable {i : Nat} {now : Timestamp} {draw : Nat}

lemma Led.work (h : f.Led o p running) (j i : Nat) (now : Timestamp) (draw : Nat) :
    f.Labour o (f.work j i now draw) p j i running now draw ∧
      (f.work j i now draw).Led o p running := by
  have ht := sameTerms_work f j i now draw
  have hlines (hi : ∀ l, (f.work j i now draw).line? j i = some l → l.recorders = o.recorders)
      (k m : Nat) (l : Line) (hl : (f.work j i now draw).line? k m = some l) :
      l.recorders = o.recorders := by
    by_cases hk : k = j ∧ i = m
    · obtain ⟨rfl, rfl⟩ := hk
      exact hi l hl
    · exact h.lines k m l (line?_work_of_ne f j i now draw hk ▸ hl)
  cases works_work f j i now draw with
  | rests before after exchange queues =>
    have hq (k : Nat) : (f.work j i now draw).queue? k = f.queue? k := by
      rw [queue?, queues, queue?]
    have hl (k m : Nat) : (f.work j i now draw).line? k m = f.line? k m := by
      by_cases hk : k = j ∧ i = m
      · obtain ⟨rfl, rfl⟩ := hk
        exact after.trans before.symm
      · exact line?_work_of_ne f j i now draw hk
    have quiet : f.Quiet o (f.work j i now draw) :=
      ⟨⟨exchange, hl, fun _ => ht.retired⟩, hq o.queue, fun k queue hk => .inl (hq k ▸ hk),
        by rw [ht.ids]⟩
    refine ⟨.rests before quiet, h.of_quiet quiet (ht.terms p ▸ h.live) ?_⟩
    intro k t hk hkt
    exact h.paused k t hk (ht.terms k ▸ hkt)
  | picksUp pool isPool isRunning q draws queue isQueue e es waits before id after exchange
      queues =>
    obtain ⟨hpaused, -⟩ : pool.paused = false ∧ pool.closing = false := by
      simpa [Pool.isRunning] using isRunning
    have hj : j = p := by
      by_contra hne
      cases hpaused.symm.trans (h.paused j pool.terms hne (terms?_of_pool? isPool))
    subst hj
    obtain ⟨pool', hp, hq, hr, -, hrun, -⟩ := h.exists_pool
    obtain rfl := Option.some.inj (isPool.symm.trans hp)
    obtain rfl := Option.some.inj (draws.symm.trans hq)
    have hqueue (k : Nat) : (f.work j i now draw).queue? k =
        if k = o.queue then some { queue with waiting := es } else f.queue? k := by
      rw [queue?, queues, ← queue?, queue?_setQueue isQueue]
    have hrunning : running = true := by
      rw [hrun] at hpaused
      simpa using hpaused
    have hq' := (hqueue o.queue).trans (if_pos rfl)
    refine ⟨.picksUp rfl hrunning before queue e es isQueue waits hq' exchange,
      h.of_sameTerms ht ⟨_, hq', ?_⟩ ?_ (hlines ?_)⟩
    · obtain ⟨queue', hqueue', hrec⟩ := h.queue
      obtain rfl := Option.some.inj (isQueue.symm.trans hqueue')
      exact hrec
    · intro k queue' hk hkq
      exact h.empty k queue' hk (by rw [hqueue, if_neg hk] at hkq; exact hkq)
    · intro l hl
      obtain rfl := Option.some.inj (after.symm.trans hl)
      exact hr
  | hangsUp l before after exchange queues calls =>
    have hq (k : Nat) : (f.work j i now draw).queue? k = f.queue? k := by
      rw [queue?, queues, queue?]
    refine ⟨.hangsUp l before after exchange queues,
      h.of_sameTerms ht (hq o.queue ▸ h.queue) ?_ (hlines ?_)⟩
    · intro k queue hk hkq
      exact h.empty k queue hk (hq k ▸ hkq)
    · intro m hm
      cases after.symm.trans hm

end Work

def receive (x : Exchange) (queue : CallQueue) (id : CallId) (bounds : ServiceBounds)
    (number : String) (now : Timestamp) : CallQueue.Entering :=
  let t := Task.newcomer x.promises bounds number now false
  queue.push (x.welcome (t.admitted x.promises id queue.recorders)) now ⟨x.tasks.length, id, number⟩

lemma quiet_enqueue (f : Floor) (p q : Nat) (queue : CallQueue) (e : Entry) (future : CallFuture)
    (now : Timestamp) :
    let r := queue.push f.exchange now e
    let f₁ : Floor :=
      { f with exchange := (r.exchange.releaseAll r.left now).1 }.setQueue q r.queue
    f₁.Quiet o (f.enqueue p q queue e future now).1 ∧
      f₁.SameTerms (f.enqueue p q queue e future now).1 := by
  intro r f₁
  have refl : f₁.SameTerms f₁ := .of_eq rfl rfl
  obtain ⟨-, he⟩ := f.enqueue_eq p q queue e future now
  rcases he with he | he
  · rw [he]
    exact ⟨.refl o f₁, refl⟩
  · rw [he]
    exact ⟨.modifyPool f₁ p Pool.line?_wakeOne fun _ => id, refl.modifyPool p Pool.terms_wakeOne⟩

lemma Led.bring_eq (h : f.Led o p running) (hqueue : f.queue? o.queue = some queue) {id : CallId}
    (hid : f.idSources[o.ids]? = some id) (bounds : ServiceBounds) (number : String)
    (now : Timestamp) :
    (f.nextId o.ids).1 = id ∧ f.bring p bounds number now false now =
      (f.welcome o.ids ((Task.newcomer f.exchange.promises bounds number now false).admitted
        f.exchange.promises id queue.recorders)).enqueue p o.queue queue
          ⟨f.exchange.tasks.length, id, number⟩ (.of f.exchange.promises) now := by
  obtain ⟨pool, hp, hq, hr, hi, -⟩ := h.exists_pool
  obtain ⟨queue', hqueue', hqr⟩ := h.queue
  obtain rfl := Option.some.inj (hqueue.symm.trans hqueue')
  have hqueueOf : f.queueOf? pool = some queue := by rw [queueOf?, hq, Option.bind_some, hqueue]
  have hnext : (f.nextId o.ids).1 = id := by simp only [nextId, hid, Option.getD_some]
  refine ⟨hnext, ?_⟩
  rw [Floor.bring_eq]
  simp only [hp, hq, hqueueOf]
  rw [register_eq rfl]
  simp only [Bool.false_eq_true, if_false, hi, hr, hnext, ← hqr]
  rfl

lemma Led.bring (h : f.Led o p running) (bounds : ServiceBounds) (number : String)
    (now : Timestamp) :
    ∃ queue id, f.queue? o.queue = some queue ∧ f.idSources[o.ids]? = some id ∧
      let r := receive f.exchange queue id bounds number now
      let x := r.exchange.releaseAll r.left now
      let f' := f.bring p bounds number now false now
      f'.2 = verdict r x.2 ⟨id, .of f.exchange.promises⟩ ∧ f'.1.exchange = x.1 ∧
        f'.1.queue? o.queue = some r.queue ∧ f'.1.idSources[o.ids]? = some (id + 1) ∧
        f'.1.Led o p running ∧ (∀ j, f'.1.terms? j = f.terms? j) ∧
        f'.1.pools.length = f.pools.length := by
  obtain ⟨queue, hqueue, hqr⟩ := h.queue
  obtain ⟨id, hid⟩ := h.ids
  obtain ⟨hnext, hbring⟩ := h.bring_eq hqueue hid bounds number now
  refine ⟨queue, id, hqueue, hid, ?_⟩
  intro r x f'
  let t := (Task.newcomer f.exchange.promises bounds number now false).admitted
    f.exchange.promises id queue.recorders
  let e : Entry := ⟨f.exchange.tasks.length, id, number⟩
  let f₁ : Floor := { f.welcome o.ids t with exchange := x.1 }.setQueue o.queue r.queue
  have hqueue₁ (j : Nat) : f₁.queue? j = if j = o.queue then some r.queue else f.queue? j :=
    queue?_setQueue (f := { f.welcome o.ids t with exchange := x.1 }) hqueue r.queue j
  have hids₁ : f₁.idSources[o.ids]? = some (id + 1) := by
    have hlt : o.ids < f.idSources.length := (List.getElem?_eq_some_iff.1 hid).1
    show (f.idSources.set o.ids ((f.nextId o.ids).1 + 1))[o.ids]? = _
    rw [hnext, List.getElem?_set_self hlt]
  have hled₁ : f₁.Led o p running := by
    refine ⟨h.live, h.paused, ⟨r.queue, ?_, ?_⟩, ?_, ⟨_, hids₁⟩, h.lines⟩
    · rw [hqueue₁, if_pos rfl]
    · exact (queue.push_frame ..).2.trans hqr
    · intro j queue' hj hqj
      rw [hqueue₁, if_neg hj] at hqj
      exact h.empty j queue' hj hqj
  obtain ⟨hquiet, hterms⟩ : f₁.Quiet o f'.1 ∧ f₁.SameTerms f'.1 := by
    dsimp only [f']
    rw [hbring]
    exact quiet_enqueue (f.welcome o.ids t) p o.queue queue e _ now
  have hverdict : f'.2 = verdict r x.2 ⟨id, .of f.exchange.promises⟩ := by
    dsimp only [f']
    rw [hbring]
    exact ((f.welcome o.ids t).enqueue_eq p o.queue queue e _ now).1
  refine ⟨hverdict, hquiet.exchange, ?_, hquiet.ids.trans hids₁, ?_, hterms.terms, hterms.length⟩
  · rw [hquiet.queue, hqueue₁, if_pos rfl]
  · exact hled₁.of_quiet hquiet (hterms.terms p ▸ hled₁.live) fun j t hj ht =>
      hled₁.paused j t hj (hterms.terms j ▸ ht)

lemma still_setCapacity (f : Floor) (q : Nat) (capacity : UInt64) :
    f.Still (f.setCapacity q capacity) := by
  have ht : f.SameTerms (f.setCapacity q capacity) := by
    rw [Floor.setCapacity, modifyQueue]
    split <;> exact .of_eq rfl rfl
  exact ⟨exchange_modifyQueue .., line?_setCapacity f q capacity, fun _ => ht.retired⟩

lemma idSources_setCapacity (f : Floor) (q : Nat) (capacity : UInt64) :
    (f.setCapacity q capacity).idSources = f.idSources := by
  rw [Floor.setCapacity, modifyQueue]
  split <;> rfl

lemma Led.setCapacity (h : f.Led o p running) (capacity : UInt64) :
    (f.setCapacity o.queue capacity).Led o p running ∧
      ∃ queue, f.queue? o.queue = some queue ∧
        (f.setCapacity o.queue capacity).queue? o.queue = some (queue.setCapacity capacity) := by
  obtain ⟨queue, hqueue, hr⟩ := h.queue
  have he : f.setCapacity o.queue capacity =
      f.setQueue o.queue (queue.setCapacity capacity) := modifyQueue_of_some hqueue _
  have hq (j : Nat) : (f.setCapacity o.queue capacity).queue? j =
      if j = o.queue then some (queue.setCapacity capacity) else f.queue? j := by
    rw [he, queue?_setQueue hqueue]
  have hqo := (hq o.queue).trans (if_pos rfl)
  refine ⟨?_, queue, hqueue, hqo⟩
  have ht : f.SameTerms (f.setCapacity o.queue capacity) := he ▸ .of_eq rfl rfl
  refine h.of_sameTerms ht ⟨_, hqo, hr⟩ ?_ ?_
  · intro j queue' hj hqj
    rw [hq, if_neg hj] at hqj
    exact h.empty j queue' hj hqj
  · intro j i l hl
    exact h.lines j i l (line?_setCapacity f o.queue capacity j i ▸ hl)

def Sound (f : Floor) : Prop := ∃ admissions, Day.Sound (fun _ _ => True) ⟨f, admissions⟩

namespace Sound

variable {k : Nat} {l : Line} {i : Nat}

lemma act (h : f.Sound) (deed : Deed) : (f.act deed).Sound := by
  obtain ⟨admissions, h⟩ := h
  exact ⟨_, Day.sound_act h ⟨fun _ _ _ => trivial, fun _ _ _ _ _ => trivial⟩ deed⟩

lemma start (h : f.Sound) (p : Nat) : (f.start p).Sound := by
  rw [Floor.start]
  dsimp only
  split
  · exact ((h.act (.beginStart p)).act (.revive p)).act (.wakeAll p)
  · exact h.act (.beginStart p)

lemma handOver (h : f.Sound) (p old : Nat) (running : Bool) (now : Timestamp) :
    (f.handOver p old running now).Sound := by
  have ht := (h.act (.stop old)).act (.transfer p old now)
  rw [Floor.handOver, takeOver]
  split
  · exact (ht.start p).act (.close old)
  · exact ht.act (.close old)

lemma distinct (h : f.Sound) : (f.calls.map Presence.task).Nodup := by
  obtain ⟨admissions, h⟩ := h
  exact Accounted.distinct h

lemma bounded (h : f.Sound) : ∀ c ∈ f.calls, c.task < f.exchange.tasks.length := by
  obtain ⟨admissions, h⟩ := h
  intro c hc
  obtain ⟨a, ha, hp⟩ := Accounted.present h c hc
  exact hp.task ▸ Accounted.bounded h a ha

lemma untouched (h : f.Sound) (deed : Deed) (hk : k < f.exchange.tasks.length) :
    ((f.act deed).exchange.task? k = f.exchange.task? k ∧
        (f.act deed).exchange.story k = f.exchange.story k) ∨
      k ∈ f.calls.map Presence.task ∧ k ∉ (f.act deed).calls.map Presence.task ∧
        (f.act deed).exchange.task? k = none ∧ ∀ t, f.exchange.task? k = some t →
          ∃ set l, t.Departure set l ∧
            (f.act deed).exchange.story k = f.exchange.story k ++ l :=
  untouched_act h.distinct h.bounded deed hk

lemma pending_of_mem (h : f.Sound) {c : Presence} (hc : c ∈ f.calls) :
    ∃ t, f.exchange.task? c.task = some t ∧ t.IsOpen c.task ∧ f.exchange.story c.task = [] := by
  obtain ⟨admissions, h⟩ := h
  obtain ⟨a, -, hp⟩ := Accounted.present h c hc
  obtain ⟨t, ht, hpend⟩ := hp.pending
  rw [hp.task]
  exact ⟨t, ht, hpend.isOpen, hp.silent⟩

lemma pending_of_line (h : f.Sound) (hl : f.line? p i = some l) :
    ∃ t, f.exchange.task? l.entry.task = some t ∧ t.IsOpen l.entry.task ∧
      f.exchange.story l.entry.task = [] :=
  h.pending_of_mem (mem_calls_of_line hl)

lemma gone_act (h : f.Sound) (deed : Deed) (hk : k < f.exchange.tasks.length)
    (hgone : f.exchange.task? k = none) :
    (f.act deed).exchange.task? k = none ∧
      (f.act deed).exchange.story k = f.exchange.story k := by
  rcases h.untouched deed hk with ⟨ht, hs⟩ | ⟨hin, -, -⟩
  · exact ⟨ht.trans hgone, hs⟩
  · obtain ⟨c, hc, rfl⟩ := List.mem_map.1 hin
    obtain ⟨t, ht, -⟩ := h.pending_of_mem hc
    cases ht.symm.trans hgone

lemma untouched_of_line (h : f.Sound) {deed : Deed} (hl : f.line? p i = some l)
    (hl' : (f.act deed).line? p i = some l) :
    (f.act deed).exchange.task? l.entry.task = f.exchange.task? l.entry.task ∧
      (f.act deed).exchange.story l.entry.task = f.exchange.story l.entry.task := by
  rcases h.untouched deed (h.bounded _ (mem_calls_of_line hl)) with hs | ⟨-, hout, -⟩
  · exact hs
  · exact absurd (List.mem_map_of_mem (mem_calls_of_line hl')) hout

end Sound

end Switchboard.Floor
