import Switchboard.Proofs.Center.Handovers
import Switchboard.Proofs.Exchange.Clocks

/-! Two runs of a call center that is stopped, side by side. The same calls come in, and in either
run pools are replaced at any time; nobody who calls can tell one run from the other. -/

namespace Switchboard

def Center.settled (c : Center) : Settings := c.readSettings.2.wanted

namespace Bureau

variable {b b₁ b' : Bureau} {o : Estate} {deed : Deed} {deeds : List Deed} {now now' : Timestamp}
  {clock : Timestamp → Timestamp}

def update (b : Bureau) (now : Timestamp) : List Deed := [.prepare, .apply b.underWay.length now]

structure InForce (b : Bureau) (s : Settings) : Prop where
  bounds : b.center.dispatcher.bounds = ⟨s.rMin, s.rMax, b.center.dispatcher.unit⟩
  capacity : b.center.liveQueue?.map (·.capacity) = some s.queueSize

inductive Unseen (b : Bureau) : List Deed → Prop
  | stop : Unseen b [.stop]
  | dismiss (p : Nat) (now : Timestamp) : Unseen b [.dismiss p now]
  | rest (p i : Nat) (now : Timestamp) (draw : Nat) (free : b.line? p i = none) :
      Unseen b [.work p i now draw]
  | replacePool (size : Nat) (capacity : UInt64) (now : Timestamp) :
      Unseen b [.replacePool size capacity now]
  | update (now : Timestamp) (inForce : b.InForce b.center.settled) : Unseen b (b.update now)

/-- Two ways to go on from `b`. The same calls come in and end, the same updates are made and fail
together, and of the settings only the number of operators differs. Moments differ as far as `clock`
does not tell. -/
inductive Parallel (clock : Timestamp → Timestamp) (b : Bureau) : List Deed → List Deed → Prop
  | start : Parallel clock b [] []
  | submit {ds ds' : List Deed} (h : Parallel clock b ds ds') (number : String)
      {now now' : Timestamp} (hn : clock now = clock now') :
      Parallel clock b (ds ++ [.submit number now]) (ds' ++ [.submit number now'])
  | work {ds ds' : List Deed} (h : Parallel clock b ds ds') (p i draw : Nat)
      {now now' : Timestamp} (hn : clock now = clock now') :
      Parallel clock b (ds ++ [.work p i now draw]) (ds' ++ [.work p i now' draw])
  | update {ds ds' : List Deed} (h : Parallel clock b ds ds') (now now' : Timestamp)
      (both : (b.run ds).center.prepare.1.isOk = (b.run ds').center.prepare.1.isOk) :
      Parallel clock b (ds ++ (b.run ds).update now) (ds' ++ (b.run ds').update now')
  | settings {ds ds' : List Deed} (h : Parallel clock b ds ds') (more more' : List Deed)
      (hm : ∀ d ∈ more ++ more', d.IsSetting)
      (same : ∃ operators, (b.run (ds' ++ more')).center.settled =
        { (b.run (ds ++ more)).center.settled with operators := operators }) :
      Parallel clock b (ds ++ more) (ds' ++ more')
  | left {ds ds' more : List Deed} (h : Parallel clock b ds ds') (hu : (b.run ds).Unseen more) :
      Parallel clock b (ds ++ more) ds'
  | right {ds ds' more : List Deed} (h : Parallel clock b ds ds') (hu : (b.run ds').Unseen more) :
      Parallel clock b ds (ds' ++ more)

structure Undisturbed (o : Estate) (b b' : Bureau) : Prop where
  fit : b'.Fit o
  replies : b'.replies = b.replies
  exchange : b'.exchange = b.exchange
  ids : b'.center.floor.idSources[o.ids]? = b.center.floor.idSources[o.ids]?
  lines : ∀ p i, b'.line? p i = b.line? p i
  unit : b'.center.dispatcher.unit = b.center.dispatcher.unit
  stopped : b.center.dispatcher.running = false → b'.center.dispatcher.running = false

structure Unchanged (o : Estate) (b b' : Bureau) : Prop extends Undisturbed o b b' where
  queue : b'.center.floor.queue? o.queue = b.center.floor.queue? o.queue
  bounds : b'.center.dispatcher.bounds = b.center.dispatcher.bounds
  settled : b'.center.settled = b.center.settled

structure Alike (clock : Timestamp → Timestamp) (o : Estate) (b b' : Bureau) : Prop where
  fit : b.Fit o
  fit' : b'.Fit o
  replies : b'.replies = b.replies
  exchange : b'.exchange.seen clock = b.exchange.seen clock
  queue : b'.center.floor.queue? o.queue = b.center.floor.queue? o.queue
  ids : b'.center.floor.idSources[o.ids]? = b.center.floor.idSources[o.ids]?
  lines : ∀ p i, b'.line? p i = b.line? p i
  tasks : ∀ p i l, b.line? p i = some l → b'.task? l.entry.task = b.task? l.entry.task
  bounds : b'.center.dispatcher.bounds = b.center.dispatcher.bounds
  unit : b'.center.dispatcher.unit = b.center.dispatcher.unit
  stopped : b.center.dispatcher.running = false
  stopped' : b'.center.dispatcher.running = false
  settled : ∃ operators, b'.center.settled = { b.center.settled with operators := operators }

lemma Alike.symm (h : Alike clock o b b') : Alike clock o b' b where
  fit := h.fit'
  fit' := h.fit
  replies := h.replies.symm
  exchange := h.exchange.symm
  queue := h.queue.symm
  ids := h.ids.symm
  lines p i := (h.lines p i).symm
  tasks p i l hl := (h.tasks p i l (h.lines p i ▸ hl)).symm
  bounds := h.bounds.symm
  unit := h.unit.symm
  stopped := h.stopped'
  stopped' := h.stopped
  settled := by
    obtain ⟨operators, hs⟩ := h.settled
    exact ⟨b.center.settled.operators, by rw [hs]⟩

lemma Alike.refl (h : b.Fit o) (hs : b.center.dispatcher.running = false) : Alike clock o b b :=
  ⟨h, h, rfl, rfl, rfl, rfl, fun _ _ => rfl, fun _ _ _ _ => rfl, rfl, rfl, hs, hs,
    ⟨b.center.settled.operators, rfl⟩⟩

lemma task?_congr (h : b'.exchange = b.exchange) (k : Nat) : b'.task? k = b.task? k :=
  congrArg (Exchange.task? · k) h

lemma Undisturbed.refl (h : b.Fit o) : Undisturbed o b b :=
  ⟨h, rfl, rfl, rfl, fun _ _ => rfl, rfl, id⟩

lemma Undisturbed.of_quiet (h : b'.Fit o) (hq : b.center.floor.Quiet o b'.center.floor)
    (hr : b'.replies = b.replies)
    (hu : b'.center.dispatcher.unit = b.center.dispatcher.unit)
    (hs : b.center.dispatcher.running = false → b'.center.dispatcher.running = false) :
    Undisturbed o b b' :=
  ⟨h, hr, hq.exchange, hq.ids, hq.lines, hu, hs⟩

lemma Undisturbed.trans (h : Undisturbed o b b₁) (h' : Undisturbed o b₁ b') :
    Undisturbed o b b' where
  fit := h'.fit
  replies := h'.replies.trans h.replies
  exchange := h'.exchange.trans h.exchange
  ids := h'.ids.trans h.ids
  lines p i := (h'.lines p i).trans (h.lines p i)
  unit := h'.unit.trans h.unit
  stopped := h'.stopped ∘ h.stopped

lemma Alike.undisturbed {b₁' : Bureau} (h : Alike clock o b b') (hu : Undisturbed o b b₁)
    (hu' : Undisturbed o b' b₁')
    (hq : b₁'.center.floor.queue? o.queue = b₁.center.floor.queue? o.queue)
    (hb : b₁'.center.dispatcher.bounds = b₁.center.dispatcher.bounds)
    (hs : ∃ operators, b₁'.center.settled = { b₁.center.settled with operators := operators }) :
    Alike clock o b₁ b₁' where
  fit := hu.fit
  fit' := hu'.fit
  replies := by rw [hu'.replies, hu.replies, h.replies]
  exchange := by rw [hu'.exchange, hu.exchange, h.exchange]
  queue := hq
  ids := by rw [hu'.ids, hu.ids, h.ids]
  lines p i := by rw [hu'.lines, hu.lines, h.lines]
  tasks p i l hl := by
    have ht := h.tasks p i l (hu.lines p i ▸ hl)
    rw [task?_congr hu'.exchange, task?_congr hu.exchange, ht]
  bounds := hb
  unit := by rw [hu'.unit, hu.unit, h.unit]
  stopped := hu.stopped h.stopped
  stopped' := hu'.stopped h.stopped'
  settled := hs

lemma Alike.unchanged (h : Alike clock o b b') (hu : Unchanged o b' b₁) : Alike clock o b b₁ := by
  refine h.undisturbed (.refl h.fit) hu.toUndisturbed ?_ ?_ ?_
  · exact hu.queue.trans h.queue
  · exact hu.bounds.trans h.bounds
  · rw [hu.settled]
    exact h.settled

lemma settled_congr {c c' : Center} (h : c'.provider? = c.provider?) : c'.settled = c.settled :=
  congrArg Prod.snd (Center.answers_congr h)

lemma wanted_prepare (h : b.Fit o) :
    (b.act .prepare).center.wanted = b.center.settled ∧
      (b.act .prepare).center.settled = b.center.settled := by
  have ha := (Center.answers_congr (provider?_prepare h)).trans b.center.answers_readSettings
  exact Prod.mk.inj ha

lemma prepare_frame (h : b.Fit o) :
    (b.act .prepare).center.dispatcher.bounds = b.center.dispatcher.bounds ∧
      (b.act .prepare).center.dispatcher.unit = b.center.dispatcher.unit ∧
      (b.act .prepare).center.dispatcher.running = b.center.dispatcher.running ∧
      (b.act .prepare).replies = b.replies ∧
      (b.act .prepare).underWay[b.underWay.length]? = b.center.prepare.1.toOption := by
  obtain ⟨hs, -⟩ := Center.Fit.prepare h
  have hbounds := hs.bounds
  have hunit := hs.unit
  have hrunning := hs.running
  rw [Center.readSettings_frame, ← prepare_center] at hbounds hunit hrunning
  refine ⟨hbounds, hunit, hrunning, ?_, ?_⟩
  · rw [act]
    split <;> rfl
  · rw [act]
    generalize b.center.prepare = r
    obtain ⟨reply, c⟩ := r
    cases reply with
    | error crash => exact List.getElem?_eq_none (Nat.le_refl _)
    | ok spare => exact List.getElem?_concat_length

lemma run_update (b : Bureau) (now : Timestamp) :
    b.run (b.update now) = (b.act .prepare).act (.apply b.underWay.length now) := rfl

lemma undisturbed_prepare (h : b.Fit o) : Undisturbed o b (b.act .prepare) := by
  obtain ⟨hfit, hquiet⟩ := quiet_direct h .prepare trivial (by simp)
  obtain ⟨-, hunit, hrunning, hreplies, -⟩ := prepare_frame h
  exact .of_quiet hfit hquiet hreplies hunit hrunning.trans

lemma undisturbed_apply (h : b.Fit o) {n : Nat} {spare : Option Nat}
    (hn : b.underWay[n]? = some spare) (now : Timestamp) :
    Undisturbed o b (b.act (.apply n now)) ∧
      (b.act (.apply n now)).center.floor.queue? o.queue =
        (b.center.floor.queue? o.queue).map (·.setCapacity b.center.wanted.queueSize) ∧
      (b.act (.apply n now)).center.dispatcher.bounds =
        ⟨b.center.wanted.rMin, b.center.wanted.rMax, b.center.dispatcher.unit⟩ ∧
      (b.act (.apply n now)).center.settled = b.center.settled := by
  obtain ⟨hfit, hquiet⟩ := quiet_apply h hn now
  obtain ⟨hbounds, hunit, hrunning, -⟩ := apply_frame h hn now
  have hstill := Floor.still_setCapacity b.center.floor o.queue b.center.wanted.queueSize
  have hprovider := Center.answers_congr (provider?_apply h hn now)
  have hreplies : (b.act (.apply n now)).replies = b.replies := by rw [act_apply hn]
  refine ⟨⟨hfit, hreplies, hquiet.exchange.trans hstill.exchange, ?_, ?_, hunit, hrunning.trans⟩,
    ?_, hbounds, congrArg Prod.snd (hprovider.trans b.center.answers_readSettings)⟩
  · rw [hquiet.ids, Floor.idSources_setCapacity]
  · intro p i
    exact (hquiet.lines p i).trans (hstill.lines p i)
  · obtain ⟨-, queue, hqueue, hqueue'⟩ := h.led.setCapacity b.center.wanted.queueSize
    rw [hquiet.queue, hqueue, hqueue']
    rfl

lemma undisturbed_update (h : b.Fit o) (now : Timestamp) :
    let e := b.run (b.update now)
    Undisturbed o b e ∧ e.center.settled = b.center.settled ∧
      e.center.floor.queue? o.queue = (if b.center.prepare.1.isOk then
        (b.center.floor.queue? o.queue).map (·.setCapacity b.center.settled.queueSize)
        else b.center.floor.queue? o.queue) ∧
      e.center.dispatcher.bounds = if b.center.prepare.1.isOk then
        ⟨b.center.settled.rMin, b.center.settled.rMax, b.center.dispatcher.unit⟩
        else b.center.dispatcher.bounds := by
  intro e
  have hprepare := undisturbed_prepare h
  have hquiet := (quiet_direct h .prepare trivial (by simp)).2
  obtain ⟨hbounds, -, -, -, hspare⟩ := prepare_frame h
  obtain ⟨hwanted, hsettled⟩ := wanted_prepare h
  cases hr : b.center.prepare.1 with
  | error crash =>
    have he : e = b.act .prepare := by
      rw [hr] at hspare
      simp only [e, run_update]
      generalize b.act .prepare = b₁ at hspare ⊢
      simp only [act, hspare, Except.toOption]
    rw [he]
    exact ⟨hprepare, hsettled, hquiet.queue, hbounds⟩
  | ok spare =>
    rw [hr] at hspare
    obtain ⟨happly, hqueue, hb, hs⟩ := undisturbed_apply hprepare.fit hspare now
    refine ⟨hprepare.trans happly, hs.trans hsettled, ?_, ?_⟩
    · refine hqueue.trans ?_
      rw [hwanted, hquiet.queue]
      rfl
    · refine hb.trans ?_
      rw [hwanted, hprepare.unit]
      rfl

lemma unchanged_unseen (h : b.Fit o) (hs : b.center.dispatcher.running = false)
    (hd : b.Unseen deeds) : Unchanged o b (b.run deeds) := by
  have of_quiet (deed : Deed) (hd : deed.Directs) (hn : ∀ n now, deed ≠ .apply n now)
      (hr : (b.act deed).replies = b.replies)
      (hb : (b.act deed).center.dispatcher.bounds = b.center.dispatcher.bounds)
      (hu : (b.act deed).center.dispatcher.unit = b.center.dispatcher.unit)
      (hstop : (b.act deed).center.dispatcher.running = false)
      (hp : (b.act deed).center.provider? = b.center.provider?) : Unchanged o b (b.act deed) := by
    obtain ⟨hfit, hquiet⟩ := quiet_direct h deed hd hn
    exact ⟨.of_quiet hfit hquiet hr hu fun _ => hstop, hquiet.queue, hb, settled_congr hp⟩
  cases hd with
  | stop => exact of_quiet .stop trivial (by simp) rfl rfl rfl rfl rfl
  | dismiss p now =>
    exact of_quiet (.dismiss p now) trivial (by simp) rfl rfl rfl hs rfl
  | rest p i now draw free =>
    have hfit := fit_work h p i now draw
    cases (h.led.work p i now draw).1 with
    | rests before quiet =>
      exact ⟨.of_quiet hfit quiet rfl rfl id, quiet.queue, rfl, settled_congr rfl⟩
    | picksUp _ isRunning => cases hs.symm.trans isRunning
    | hangsUp l before => cases free.symm.trans before
  | replacePool size capacity now =>
    obtain ⟨-, hr, -⟩ := Center.Fit.replacePool h size capacity now
    refine of_quiet (.replacePool size capacity now) trivial (by simp) rfl
      hr.bounds hr.unit (hr.running.trans hs) ?_
    rw [Center.provider?, Center.provider?]
    exact congrArg₂ (fun (ps : List Provider) (i : Nat) => ps[i]?) hr.providers hr.provider
  | update now inForce =>
    obtain ⟨hu, hsettled, hqueue, hbounds⟩ := undisturbed_update h now
    refine ⟨hu, hqueue.trans ?_, hbounds.trans ?_, hsettled⟩
    · split
      · obtain ⟨queue, hq, -⟩ := h.led.queue
        have hcapacity := inForce.capacity
        rw [Center.Fit.liveQueue? h, hq] at hcapacity
        rw [hq, Option.map_some, CallQueue.setCapacity, ← Option.some.inj hcapacity]
      · rfl
    · split
      · exact inForce.bounds.symm
      · rfl

lemma settled_submit (b : Bureau) (number : String) (now : Timestamp) :
    (b.act (.submit number now)).center.settled = b.center.settled :=
  settled_congr rfl

lemma settled_work (b : Bureau) (p i : Nat) (now : Timestamp) (draw : Nat) :
    (b.act (.work p i now draw)).center.settled = b.center.settled :=
  settled_congr rfl

lemma alike_submit (h : Alike clock o b b') (hs : o.recorders.Blind clock)
    (hn : clock now = clock now') (number : String) :
    Alike clock o (b.act (.submit number now)) (b'.act (.submit number now')) := by
  obtain ⟨queue, id, hqueue, hid, hreply, hx, hqueue₁, hid₁, -⟩ :=
    h.fit.led.bring b.center.dispatcher.bounds number now
  obtain ⟨queue', id', hqueue', hid', hreply', hx', hqueue₁', hid₁', -⟩ :=
    h.fit'.led.bring b.center.dispatcher.bounds number now'
  obtain rfl := Option.some.inj (hqueue'.symm.trans (h.queue.trans hqueue))
  obtain rfl := Option.some.inj (hid'.symm.trans (h.ids.trans hid))
  have hblind : queue'.recorders.Blind clock := by
    obtain ⟨queue, hqueue, hr⟩ := h.fit'.led.queue
    obtain rfl := Option.some.inj (hqueue'.symm.trans hqueue)
    exact hr ▸ hs
  obtain ⟨⟨hq, hr⟩, hseen, hcrash⟩ := Floor.seen_receive queue' id' b.center.dispatcher.bounds
    number hblind hn.symm h.exchange
  have hpromises : b'.exchange.promises = b.exchange.promises := (Exchange.mk.inj h.exchange).2.2.2
  have hticket : (⟨id', .of b'.exchange.promises⟩ : Ticket) = ⟨id', .of b.exchange.promises⟩ := by
    rw [hpromises]
  have hsubmit' := submit_eq b' number now'
  rw [h.bounds] at hsubmit'
  refine ⟨fit_submit h.fit number now, fit_submit h.fit' number now', ?_, ?_, ?_, ?_, ?_, ?_,
    h.bounds, h.unit, h.stopped, h.stopped', ?_⟩
  · rw [hsubmit']
    refine congrArg₂ (· ++ [·]) h.replies ?_
    exact hreply'.trans ((Floor.verdict_congr hr hcrash hticket).trans hreply.symm)
  · rw [hsubmit']
    exact (congrArg _ hx').trans (hseen.trans (congrArg _ hx.symm))
  · rw [hsubmit']
    exact hqueue₁'.trans ((congrArg some hq).trans hqueue₁.symm)
  · rw [hsubmit']
    exact hid₁'.trans hid₁.symm
  · intro p i
    rw [line?_submit, line?_submit, h.lines]
  · intro p i l hl
    have hl₀ := (line?_submit b number now p i).symm.trans hl
    have hl₀' := (h.lines p i).trans hl₀
    have hl' := (line?_submit b' number now' p i).trans hl₀'
    obtain ⟨ht, -⟩ := untouched_act h.fit (.submit number now) hl₀ hl
    obtain ⟨ht', -⟩ := untouched_act h.fit' (.submit number now') hl₀' hl'
    rw [ht, ht', h.tasks p i l hl₀]
  · rw [settled_submit, settled_submit]
    exact h.settled

lemma ends_work {p i : Nat} {l : Line} (h : b.Fit o) (hl : b.line? p i = some l) (now : Timestamp)
    (draw : Nat) :
    let e := b.act (.work p i now draw)
    e.line? p i = none ∧
      e.exchange = Floor.hangUp b.exchange l.operator l.entry l.recorders l.since now draw ∧
      e.center.floor.queue? o.queue = b.center.floor.queue? o.queue ∧
      e.center.floor.idSources = b.center.floor.idSources := by
  have hids := (Floor.sameTerms_work b.center.floor p i now draw).ids
  cases (h.led.work p i now draw).1 with
  | rests before => cases hl.symm.trans before
  | picksUp _ _ before => cases hl.symm.trans before
  | hangsUp l' before after exchange queues =>
    obtain rfl := Option.some.inj (hl.symm.trans before)
    refine ⟨after, exchange, ?_, hids⟩
    exact congrArg (fun qs : List (Option CallQueue) => qs[o.queue]?.join) queues

lemma alike_work (h : Alike clock o b b') (hs : o.recorders.Blind clock)
    (hn : clock now = clock now') (p i draw : Nat) :
    Alike clock o (b.act (.work p i now draw)) (b'.act (.work p i now' draw)) := by
  have hunseen (b : Bureau) (now : Timestamp) (hf : b.Fit o)
      (hstop : b.center.dispatcher.running = false) (hl : b.line? p i = none) :
      Unchanged o b (b.act (.work p i now draw)) :=
    unchanged_unseen hf hstop (.rest p i now draw hl)
  cases hl : b.line? p i with
  | none =>
    have hl' := (h.lines p i).trans hl
    have hleft := hunseen b now h.fit h.stopped hl
    have hright := hunseen b' now' h.fit' h.stopped' hl'
    exact ((h.symm.unchanged hleft).symm).unchanged hright
  | some l =>
    have hl' := (h.lines p i).trans hl
    have hblind : l.recorders.Blind clock := h.fit.led.lines p i l hl ▸ hs
    obtain ⟨hnone, hx, hq, hids⟩ := ends_work h.fit hl now draw
    obtain ⟨hnone', hx', hq', hids'⟩ := ends_work h.fit' hl' now' draw
    have hline (q k : Nat) (hk : ¬(q = p ∧ k = i)) :
        (b.act (.work p i now draw)).line? q k = b.line? q k ∧
          (b'.act (.work p i now' draw)).line? q k = b'.line? q k := by
      have hk' : ¬(q = p ∧ i = k) := fun he => hk ⟨he.1, he.2.symm⟩
      exact ⟨Floor.line?_work_of_ne _ p i now draw hk', Floor.line?_work_of_ne _ p i now' draw hk'⟩
    refine ⟨fit_work h.fit p i now draw, fit_work h.fit' p i now' draw, h.replies, ?_, ?_, ?_, ?_,
      ?_, h.bounds, h.unit, h.stopped, h.stopped', ?_⟩
    · rw [hx, hx']
      exact Floor.seen_hangUp l.operator l.entry l.since draw hblind hn.symm h.exchange
        (h.tasks p i l hl)
    · rw [hq, hq', h.queue]
    · rw [hids, hids', h.ids]
    · intro q k
      by_cases hk : q = p ∧ k = i
      · obtain ⟨rfl, rfl⟩ := hk
        rw [hnone, hnone']
      · rw [(hline q k hk).1, (hline q k hk).2, h.lines]
    · intro q k m hm
      by_cases hk : q = p ∧ k = i
      · obtain ⟨rfl, rfl⟩ := hk
        cases hnone.symm.trans hm
      · have hm₀ := (hline q k hk).1.symm.trans hm
        have hm₀' := (h.lines q k).trans hm₀
        obtain ⟨ht, -⟩ := untouched_act h.fit (.work p i now draw) hm₀ hm
        obtain ⟨ht', -⟩ := untouched_act h.fit' (.work p i now' draw) hm₀'
          ((hline q k hk).2.trans hm₀')
        rw [ht, ht', h.tasks q k m hm₀]
    · rw [settled_work, settled_work]
      exact h.settled

lemma alike_update (h : Alike clock o b b')
    (both : b.center.prepare.1.isOk = b'.center.prepare.1.isOk) (now now' : Timestamp) :
    Alike clock o (b.run (b.update now)) (b'.run (b'.update now')) := by
  obtain ⟨hu, hsettled, hqueue, hbounds⟩ := undisturbed_update h.fit now
  obtain ⟨hu', hsettled', hqueue', hbounds'⟩ := undisturbed_update h.fit' now'
  obtain ⟨operators, hs⟩ := h.settled
  refine h.undisturbed hu hu' ?_ ?_ ⟨operators, by rw [hsettled', hsettled, hs]⟩
  · rw [hqueue, hqueue', both, h.queue, hs]
  · rw [hbounds, hbounds', both, h.bounds, h.unit, hs]

lemma settings_run (h : b.Fit o) (hd : ∀ d ∈ deeds, d.IsSetting) :
    Undisturbed o b (b.run deeds) ∧
      (b.run deeds).center.floor.queue? o.queue = b.center.floor.queue? o.queue ∧
      (b.run deeds).center.dispatcher.bounds = b.center.dispatcher.bounds := by
  induction deeds generalizing b with
  | nil => exact ⟨.refl h, rfl, rfl⟩
  | cons deed deeds ih =>
    obtain ⟨hfloor, hdispatcher, -, hreplies⟩ := b.setting_frame (hd deed (List.mem_cons_self ..))
    have hfit := fit_act h deed
    have hu : Undisturbed o b (b.act deed) := by
      refine .of_quiet hfit (hfloor ▸ .refl o _) hreplies ?_ ?_
      · rw [hdispatcher]
      · rw [hdispatcher]
        exact id
    obtain ⟨hu', hqueue, hbounds⟩ := ih hfit fun d hm => hd d (List.mem_cons_of_mem _ hm)
    refine ⟨hu.trans hu', hqueue.trans ?_, hbounds.trans ?_⟩
    · rw [hfloor]
    · rw [hdispatcher]

lemma alike_parallel {ds ds' : List Deed} (h : b.Fit o)
    (hstop : b.center.dispatcher.running = false) (hs : o.recorders.Blind clock)
    (hp : Parallel clock b ds ds') : Alike clock o (b.run ds) (b.run ds') := by
  induction hp with
  | start => exact .refl h hstop
  | submit _ number hn ih =>
    rw [run_append, run_append]
    exact alike_submit ih hs hn number
  | work _ p i draw hn ih =>
    rw [run_append, run_append]
    exact alike_work ih hs hn p i draw
  | update _ now now' both ih =>
    rw [run_append, run_append]
    exact alike_update ih both now now'
  | settings _ more more' hm same ih =>
    rw [run_append, run_append] at same ⊢
    obtain ⟨hu, hq, hb⟩ := settings_run ih.fit fun d hd => hm d (List.mem_append_left _ hd)
    obtain ⟨hu', hq', hb'⟩ := settings_run ih.fit' fun d hd => hm d (List.mem_append_right _ hd)
    refine ih.undisturbed hu hu' ?_ ?_ same
    · rw [hq, hq', ih.queue]
    · rw [hb, hb', ih.bounds]
  | left _ hu ih =>
    rw [run_append]
    exact (ih.symm.unchanged (unchanged_unseen ih.fit ih.stopped hu)).symm
  | right _ hu ih =>
    rw [run_append]
    exact ih.unchanged (unchanged_unseen ih.fit' ih.stopped' hu)

lemma Alike.front? (h : Alike clock o b b') : b'.center.front? = b.center.front? := by
  rw [Center.Fit.front? h.fit, Center.Fit.front? h.fit', h.queue, h.ids]

lemma recorders_of_front (h : b.Fit o) :
    ∃ front, b.center.front? = some front ∧ front.recorders = o.recorders := by
  obtain ⟨queue, hqueue, -⟩ := h.led.queue
  obtain ⟨id, hid⟩ := h.led.ids
  exact ⟨⟨queue, o.recorders, id⟩, by rw [Center.Fit.front? h, hqueue, hid]; rfl, rfl⟩

end Bureau

/-- Those who direct leave what the calls have come to and what a new call meets, but for the
capacity that an update asks for. A pool that is installed runs if the dispatcher does; an operator
of the pool that it replaces takes no call any more, and ends the one that it is on as its own.
While the center is stopped, it makes no difference to callers when pools are replaced, and how
often. -/
theorem replaced_pools_go_unnoticed {c : Center} (hc : c.Opens) (deeds : List Bureau.Deed) :
    let b := (Bureau.of c).run deeds
    (∀ deed, deed.Directs →
      let b' := b.act deed
      b'.exchange = b.exchange ∧ (∀ p i, b'.line? p i = b.line? p i) ∧
      ∃ front, b.center.front? = some front ∧
        b'.center.front? = some (front.resized (b.capacity? deed))) ∧
    (∀ deed, deed.Installs →
      let b' := b.act deed
      let old := b.center.dispatcher.pool
      b'.center.dispatcher.running = b.center.dispatcher.running ∧
      (∃ pool, b'.center.livePool? = some pool ∧
        pool.isRunning = b.center.dispatcher.running) ∧
      (b'.center.dispatcher.pool ≠ old → ∀ later,
        let e := b'.run later
        (∀ i l, e.line? old i = some l → b'.line? old i = some l) ∧
        (∀ i l, b'.line? old i = some l → b'.Fate e old i l) ∧
        ∀ i now draw, (e.act (.work old i now draw)).line? old i = none)) ∧
    (b.center.dispatcher.running = false → ∀ clock,
      (∀ front, b.center.front? = some front → front.recorders.Blind clock) →
      ∀ ds ds', b.Parallel clock ds ds' →
        (b.run ds').replies = (b.run ds).replies ∧
        (b.run ds').exchange.seen clock = (b.run ds).exchange.seen clock ∧
        (b.run ds').center.front? = (b.run ds).center.front?) := by
  intro b
  obtain ⟨o, hopen⟩ := Bureau.fit_of_opens hc
  have h : b.Fit o := Bureau.fit_run hopen deeds
  obtain ⟨front, hfront, hrecorders⟩ := Bureau.recorders_of_front h
  refine ⟨?_, ?_, ?_⟩
  · intro deed hd b'
    obtain ⟨-, hstill⟩ := Bureau.fit_direct h hd
    have hfront' := Bureau.front_direct h hd
    rw [hfront] at hfront'
    exact ⟨hstill.exchange, hstill.lines, front, hfront, hfront'⟩
  · intro deed hi b' old
    obtain ⟨hrunning, hreplaced⟩ := Bureau.installs_act h hi
    have hfit : b'.Fit o := Bureau.fit_act h deed
    obtain ⟨pool, hpool, hruns⟩ := Center.Fit.isRunning hfit
    refine ⟨hrunning, ⟨pool, hpool, hruns.trans hrunning⟩, ?_⟩
    intro hne later e
    have hretired : b'.center.floor.Retired old := hreplaced.resolve_left hne
    have hlater : e.Fit o := Bureau.fit_run hfit later
    refine ⟨?_, ?_, ?_⟩
    · intro i l hl
      exact Bureau.line?_run hfit hretired later hl
    · intro i l hl
      exact Bureau.fate_run hfit hretired later hl
    · intro i now draw
      exact Bureau.line?_work hlater (Bureau.retired_run hfit later hretired) i now draw
  · intro hstop clock hblind ds ds' hp
    have hs : o.recorders.Blind clock := hrecorders ▸ hblind front hfront
    have ha := Bureau.alike_parallel h hstop hs hp
    exact ⟨ha.replies, ha.exchange, ha.front?⟩

namespace Bureau

def interrupted : List Deed :=
  [.start, .submit "555-0100" noon, .work 0 0 noon 0, .submit "555-0199" noon, .stop]

def enlargement : List Deed := [.stage 0 ⟨1, 20, 5, 4⟩, .reload 0]

end Bureau

theorem replaced_pools_go_unnoticed_when_interrupted :
    let b := (Bureau.of Bureau.smallCenter).run Bureau.interrupted
    let b' := b.act (.replacePool 2 9 Bureau.noon)
    let e := b'.run [.submit "555-0142" Bureau.noon, .work 0 0 Bureau.noon 3]
    let ds : List Bureau.Deed := [.submit "555-0142" Bureau.noon]
    let ds' := Bureau.enlargement ++ (b.run Bureau.enlargement).update Bureau.noon ++
      [.submit "555-0142" (.ofPosition 0)]
    b'.exchange = b.exchange ∧ (∃ l, b'.line? 0 0 = some l ∧ l.entry.task = 0 ∧ b'.Fate e 0 0 l) ∧
      (b.run ds').center.dispatcher.pool ≠ (b.run ds).center.dispatcher.pool ∧
      (b.run ds').replies = (b.run ds).replies := by
  intro b b' e ds ds'
  have hf : Floor.furnished 1 (some 4) [] 1 = .ok Bureau.small := rfl
  have hc : Bureau.smallCenter.Opens := .around hf ..
  obtain ⟨hcalls, hswap, hruns⟩ := replaced_pools_go_unnoticed hc Bureau.interrupted
  obtain ⟨hexchange, -⟩ := hcalls (.replacePool 2 9 Bureau.noon) trivial
  obtain ⟨-, -, hfate⟩ := hswap (.replacePool 2 9 Bureau.noon) trivial
  have hne : b'.center.dispatcher.pool ≠ b.center.dispatcher.pool := by decide
  obtain ⟨-, hline, -⟩ := hfate hne [.submit "555-0142" Bureau.noon, .work 0 0 Bureau.noon 3]
  have hl : ∃ l, b'.line? 0 0 = some l ∧ l.entry.task = 0 := ⟨_, rfl, rfl⟩
  obtain ⟨l, hl, htask⟩ := hl
  let clock : Timestamp → Timestamp := fun _ => Bureau.noon
  have hblind : ∀ front, b.center.front? = some front → front.recorders.Blind clock := by
    intro front hfront r r' _
    have hnone : b.center.front?.map (·.recorders.members) = some [] := rfl
    rw [hfront] at hnone
    have hmembers : front.recorders.members = [] := Option.some.inj hnone
    rw [RecorderSet.crash?, RecorderSet.crash?, hmembers]
    rfl
  have hsettings : ∀ d ∈ [] ++ Bureau.enlargement, d.IsSetting := by
    intro d hd
    rcases List.mem_cons.1 hd with rfl | hd
    · trivial
    · obtain rfl := List.mem_singleton.1 hd
      trivial
  have hforce : (b.run Bureau.enlargement).InForce ⟨1, 20, 5, 4⟩ := ⟨rfl, rfl⟩
  have hsettled : b.center.settled = ⟨1, 20, 1, 4⟩ := rfl
  have hsettled' : (b.run Bureau.enlargement).center.settled = ⟨1, 20, 5, 4⟩ := rfl
  have hsame : ∃ operators, (b.run Bureau.enlargement).center.settled =
      { b.center.settled with operators := operators } := ⟨5, by rw [hsettled, hsettled']⟩
  have hparallel : b.Parallel clock ds ds' :=
    .submit (.right (.settings .start [] Bureau.enlargement hsettings hsame)
      (.update Bureau.noon (hsettled' ▸ hforce))) "555-0142" rfl
  obtain ⟨hreplies, -⟩ := hruns rfl clock hblind ds ds' hparallel
  exact ⟨hexchange, ⟨l, hl, htask, hline 0 l hl⟩, by decide, hreplies⟩

end Switchboard
