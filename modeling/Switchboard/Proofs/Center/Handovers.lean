import Switchboard.Proofs.Center.Updates

/-! Pools that are replaced. The new pool carries on where the old one was stopped; the operators of
the old one end the calls that they are on and take no more. -/

namespace Switchboard

structure Front where
  queue : CallQueue
  recorders : RecorderSet
  nextId : CallId

def Front.resized (front : Front) : Option UInt64 → Front
  | none => front
  | some capacity => { front with queue := front.queue.setCapacity capacity }

def Center.front? (c : Center) : Option Front :=
  c.livePool?.bind fun pool =>
    (c.floor.queueOf? pool).bind fun queue =>
      (c.floor.idSources[pool.ids]?).map fun id => ⟨queue, pool.recorders, id⟩

lemma Center.Fit.front? {c : Center} {o : Estate} {spares : List Nat} (h : c.Fit o spares) :
    c.front? = (c.floor.queue? o.queue).bind fun queue =>
      (c.floor.idSources[o.ids]?).map fun id => ⟨queue, o.recorders, id⟩ := by
  obtain ⟨pool, hp, hq, hr, hi, -⟩ := h.led.exists_pool
  rw [Center.front?, livePool?, hp, Option.bind_some, Floor.queueOf?, hq, hr, hi]
  rfl

lemma Center.Fit.isRunning {c : Center} {o : Estate} {spares : List Nat} (h : c.Fit o spares) :
    ∃ pool, c.livePool? = some pool ∧ pool.isRunning = c.dispatcher.running := by
  obtain ⟨pool, hp, -, -, -, hpaused, hopen⟩ := h.led.exists_pool
  refine ⟨pool, hp, ?_⟩
  rw [Pool.isRunning, hpaused, hopen]
  simp

namespace Bureau

variable {b : Bureau} {o : Estate} {deed : Deed} {p i : Nat} {l : Line}

def exchange (b : Bureau) : Exchange := b.center.floor.exchange

def line? (b : Bureau) (p i : Nat) : Option Line := b.center.floor.line? p i

def story (b : Bureau) (k : Nat) : Log := b.exchange.story k

def capacity? (b : Bureau) : Deed → Option UInt64
  | .apply n _ => (b.underWay[n]?).map fun _ => b.center.wanted.queueSize
  | _ => none

lemma front_of_quiet {b' : Bureau} (h : b.Fit o) (h' : b'.Fit o)
    (hq : b.center.floor.Quiet o b'.center.floor) : b'.center.front? = b.center.front? := by
  rw [Center.Fit.front? h, Center.Fit.front? h', hq.queue, hq.ids]

lemma front_setCapacity {b' : Bureau} (h : b.Fit o) (h' : b'.Fit o) (capacity : UInt64)
    (hq : (b.center.floor.setCapacity o.queue capacity).Quiet o b'.center.floor) :
    b'.center.front? = b.center.front?.map (·.resized (some capacity)) := by
  obtain ⟨-, queue, hqueue, hqueue'⟩ := h.led.setCapacity capacity
  rw [Center.Fit.front? h, Center.Fit.front? h', hq.queue, hq.ids, hqueue, hqueue',
    Floor.idSources_setCapacity]
  cases b.center.floor.idSources[o.ids]? <;> rfl

lemma front_direct (h : b.Fit o) (hd : deed.Directs) :
    (b.act deed).center.front? = b.center.front?.map (·.resized (b.capacity? deed)) := by
  have same : b.center.front?.map (·.resized none) = b.center.front? := by
    cases b.center.front? <;> rfl
  by_cases hn : ∃ n now, deed = .apply n now
  · obtain ⟨n, now, rfl⟩ := hn
    cases hn : b.underWay[n]? with
    | none =>
      rw [act_apply_of_none hn, capacity?, hn]
      exact same.symm
    | some spare =>
      obtain ⟨hfit, hquiet⟩ := quiet_apply h hn now
      rw [capacity?, hn]
      exact front_setCapacity h hfit _ hquiet
  · obtain ⟨hfit, hquiet⟩ := quiet_direct h deed hd fun n now he => hn ⟨n, now, he⟩
    have hc : b.capacity? deed = none := by
      cases deed with
      | apply n now => exact absurd ⟨n, now, rfl⟩ hn
      | _ => rfl
    rw [hc, same]
    exact front_of_quiet h hfit hquiet

lemma installs_act (h : b.Fit o) (hi : deed.Installs) :
    (b.act deed).center.dispatcher.running = b.center.dispatcher.running ∧
      ((b.act deed).center.dispatcher.pool = b.center.dispatcher.pool ∨
        (b.act deed).center.floor.Retired b.center.dispatcher.pool) := by
  cases deed with
  | replacePool size capacity now =>
    obtain ⟨-, hs, -⟩ := Center.Fit.replacePool h size capacity now
    exact ⟨hs.running, hs.replaced⟩
  | apply n now =>
    cases hn : b.underWay[n]? with
    | none =>
      rw [act_apply_of_none hn]
      exact ⟨rfl, .inl rfl⟩
    | some spare => exact (apply_frame h hn now).2.2
  | _ => exact hi.elim

lemma retired_act (h : b.Fit o) (deed : Deed) (hr : b.center.floor.Retired p) :
    (b.act deed).center.floor.Retired p := by
  rcases deed.kinds with hd | ⟨number, now, rfl⟩ | ⟨j, k, now, draw, rfl⟩
  · exact (fit_direct h hd).2.retired p hr
  · obtain ⟨queue, id, -, -, -, -, -, -, -, hterms, hlength⟩ :=
      h.led.bring b.center.dispatcher.bounds number now
    exact ⟨hlength ▸ hr.1, fun t ht => hr.2 t (hterms p ▸ ht)⟩
  · exact (Floor.sameTerms_work ..).retired hr

lemma retired_run (h : b.Fit o) (deeds : List Deed) (hr : b.center.floor.Retired p) :
    (b.run deeds).center.floor.Retired p := by
  induction deeds generalizing b with
  | nil => exact hr
  | cons deed deeds ih => exact ih (fit_act h deed) (retired_act h deed hr)

lemma ne_of_retired (h : b.Fit o) (hr : b.center.floor.Retired p) :
    p ≠ b.center.dispatcher.pool := by
  rintro rfl
  obtain ⟨size, hlive⟩ := h.led.live
  cases hr.2 _ hlive

lemma line?_submit (b : Bureau) (number : String) (now : Timestamp) (p i : Nat) :
    (b.act (.submit number now)).line? p i = b.line? p i :=
  Floor.line?_bring b.center.floor b.center.dispatcher.pool b.center.dispatcher.bounds number now
    false now p i

lemma line?_act (h : b.Fit o) (hr : b.center.floor.Retired p) (deed : Deed) (i : Nat) :
    (b.act deed).line? p i = b.line? p i ∨
      ∃ l now draw, b.line? p i = some l ∧ (b.act deed).line? p i = none ∧
        (b.act deed).exchange =
          Floor.hangUp b.exchange l.operator l.entry l.recorders l.since now draw := by
  rcases deed.kinds with hd | ⟨number, now, rfl⟩ | ⟨j, k, now, draw, rfl⟩
  · exact .inl ((fit_direct h hd).2.lines p i)
  · exact .inl (line?_submit b number now p i)
  · by_cases hk : p = j ∧ k = i
    · obtain ⟨rfl, rfl⟩ := hk
      cases (h.led.work p k now draw).1 with
      | rests before quiet => exact .inl (quiet.lines p k)
      | picksUp isLive => exact absurd isLive (ne_of_retired h hr)
      | hangsUp l before after exchange => exact .inr ⟨l, now, draw, before, after, exchange⟩
    · exact .inl (Floor.line?_work_of_ne _ _ _ _ _ hk)

lemma line?_run (h : b.Fit o) (hr : b.center.floor.Retired p) (deeds : List Deed)
    (hl : (b.run deeds).line? p i = some l) : b.line? p i = some l := by
  induction deeds generalizing b with
  | nil => exact hl
  | cons deed deeds ih =>
    have hl' := ih (fit_act h deed) (retired_act h deed hr) hl
    rcases line?_act h hr deed i with hs | ⟨_, _, _, -, hnone, -⟩
    · exact hs.symm.trans hl'
    · cases hnone.symm.trans hl'

lemma line?_work (h : b.Fit o) (hr : b.center.floor.Retired p) (i : Nat) (now : Timestamp)
    (draw : Nat) : (b.act (.work p i now draw)).line? p i = none := by
  cases (h.led.work p i now draw).1 with
  | rests before quiet => exact (quiet.lines p i).trans before
  | picksUp isLive => exact absurd isLive (ne_of_retired h hr)
  | hangsUp l before after => exact after

lemma gone_run (h : b.Fit o) (deeds : List Deed) {k : Nat} (hk : k < b.calls)
    (hgone : b.task? k = none) :
    (b.run deeds).task? k = none ∧ (b.run deeds).story k = b.story k := by
  induction deeds generalizing b with
  | nil => exact ⟨hgone, rfl⟩
  | cons deed deeds ih =>
    have hact : (b.act deed).task? k = none ∧ (b.act deed).story k = b.story k := by
      rw [task?, story, exchange]
      rcases exchange_act h deed with he | ⟨d, he⟩
      · rw [he]
        exact ⟨hgone, rfl⟩
      · rw [he]
        exact h.sound.gone_act d hk hgone
    obtain ⟨ht, hs⟩ := ih (fit_act h deed) (Nat.lt_of_lt_of_le hk (calls_act h deed)) hact.1
    exact ⟨ht, hs.trans hact.2⟩

inductive Fate (b e : Bureau) (p i : Nat) (l : Line) : Prop
  | pending (line : e.line? p i = some l) (task : e.task? l.entry.task = b.task? l.entry.task)
      (story : e.story l.entry.task = b.story l.entry.task)
  | ended (line : e.line? p i = none) (task : e.task? l.entry.task = none) (t : Task)
      (isTask : b.task? l.entry.task = some t) (now : Timestamp) (draw : Nat)
      (story : e.story l.entry.task =
        (t.service l.operator l.entry.id l.since now draw l.recorders).events)

lemma untouched_act (h : b.Fit o) (deed : Deed) (hl : b.line? p i = some l)
    (hl' : (b.act deed).line? p i = some l) :
    (b.act deed).task? l.entry.task = b.task? l.entry.task ∧
      (b.act deed).story l.entry.task = b.story l.entry.task := by
  rw [line?] at hl'
  rw [task?, story, exchange]
  rcases exchange_act h deed with he | ⟨d, he⟩
  · rw [he]
    exact ⟨rfl, rfl⟩
  · rw [he] at hl' ⊢
    exact h.sound.untouched_of_line hl hl'

lemma fate_run (h : b.Fit o) (hr : b.center.floor.Retired p) (deeds : List Deed)
    (hl : b.line? p i = some l) : b.Fate (b.run deeds) p i l := by
  induction deeds generalizing b with
  | nil => exact .pending hl rfl rfl
  | cons deed deeds ih =>
    have hfit := fit_act h deed
    have hr' := retired_act h deed hr
    rcases line?_act h hr deed i with hs | ⟨l', now, draw, hl', hnone, hx⟩
    · have hl' := hs.trans hl
      obtain ⟨htask, hstory⟩ := untouched_act h deed hl hl'
      cases ih hfit hr' hl' with
      | pending line task story => exact .pending line (task.trans htask) (story.trans hstory)
      | ended line task t isTask now draw story =>
        exact .ended line task t (htask.symm.trans isTask) now draw story
    · obtain rfl := Option.some.inj (hl.symm.trans hl')
      obtain ⟨t, ht, hopen, hsilent⟩ := h.sound.pending_of_line hl
      obtain ⟨hgone, hstory⟩ :=
        Floor.story_hangUp ht hopen hsilent l.operator l.recorders l.since now draw
      rw [exchange] at hx
      have hgone' : (b.act deed).task? l.entry.task = none := by
        rw [task?, hx]
        exact hgone
      have hstory' : (b.act deed).story l.entry.task =
          (t.service l.operator l.entry.id l.since now draw l.recorders).events := by
        rw [story, exchange, hx]
        exact hstory
      have hk := h.sound.bounded _ (Floor.mem_calls_of_line hl)
      obtain ⟨htask, hs⟩ := gone_run hfit deeds (Nat.lt_of_lt_of_le hk (calls_act h deed)) hgone'
      refine .ended ?_ htask t ht now draw (hs.trans hstory')
      cases hlast : ((b.act deed).run deeds).line? p i with
      | none => exact hlast
      | some l' => cases hnone.symm.trans (line?_run hfit hr' deeds hlast)

end Bureau

end Switchboard
