import Switchboard.Proofs.Center.Bureau

/-! Updates whose halves are mixed with other deeds. -/

namespace Switchboard

namespace Center

structure Follows (c : Center) (s : Settings) : Prop where
  bounds : c.dispatcher.bounds = ⟨s.rMin, s.rMax, c.dispatcher.unit⟩
  capacity : c.liveQueue?.map (·.capacity) = some s.queueSize
  size : c.size = s.operators.toNat

variable {c c' : Center} {o : Estate} {spares : List Nat} {s : Settings} {spare : Option Nat}
  {now : Timestamp}

lemma Follows.of_same (h : c.Follows s) (hb : c'.dispatcher.bounds = c.dispatcher.bounds)
    (hu : c'.dispatcher.unit = c.dispatcher.unit)
    (hq : c'.liveQueue?.map (·.capacity) = c.liveQueue?.map (·.capacity))
    (hs : c'.size = c.size) : c'.Follows s :=
  ⟨by rw [hb, hu, h.bounds], hq.trans h.capacity, hs.trans h.size⟩

def provider? (c : Center) : Option Provider := c.providers[c.dispatcher.provider]?

def answers (c : Center) : Settings × Settings := (c.wanted, c.readSettings.2.wanted)

lemma wanted_eq (c : Center) :
    c.wanted = (c.provider?.map fun p => p.settings.1).getD .initial := by
  rw [wanted, Center.readSettings, provider?]
  cases c.providers[c.dispatcher.provider]? <;> rfl

lemma provider?_readSettings (c : Center) :
    c.readSettings.2.provider? = c.provider?.map fun p => p.settings.2 := by
  rw [provider?, provider?, Center.readSettings]
  cases hp : c.providers[c.dispatcher.provider]? with
  | none => exact hp
  | some p => exact List.getElem?_set_self (List.getElem?_eq_some_iff.1 hp).1

lemma answers_eq (c : Center) :
    c.answers = (c.provider?.map fun p => (p.settings.1, p.settings.2.settings.1)).getD
      (.initial, .initial) := by
  rw [answers, wanted_eq, wanted_eq, provider?_readSettings]
  cases c.provider? <;> rfl

lemma answers_congr (h : c'.provider? = c.provider?) : c'.answers = c.answers := by
  rw [answers_eq, answers_eq, h]

lemma answers_readSettings (c : Center) :
    c.readSettings.2.answers = (c.readSettings.2.wanted, c.readSettings.2.wanted) := by
  have hasked (p : Provider) : p.settings.2.settings.2 = p.settings.2 := by cases p <;> rfl
  rw [answers_eq, wanted_eq, provider?_readSettings]
  cases c.provider? with
  | none => rfl
  | some p =>
    show (p.settings.2.settings.1, p.settings.2.settings.2.settings.1) = _
    rw [hasked]
    rfl

lemma provider_of_fixed? {i : Nat} {f : FixedConfig} (hf : c.fixed? i = some f) :
    c.providers[i]? = some (.fixed f) := by
  rw [fixed?] at hf
  split at hf
  · obtain rfl := Option.some.inj hf
    assumption
  · cases hf

end Center

namespace Bureau

variable {b b' : Bureau} {o : Estate} {deed : Deed} {deeds : List Deed} {s : Settings}

def Deed.Installs : Deed → Prop
  | .apply .. | .replacePool .. => True
  | _ => False

lemma size_of_terms (h : b.Fit o)
    (ht : ∀ n, b.center.floor.terms? b.center.dispatcher.pool =
        some ⟨some o.queue, o.recorders, o.ids, !b.center.dispatcher.running, false, n⟩ →
      ∃ t, b'.center.floor.terms? b'.center.dispatcher.pool = some t ∧ t.size = n) :
    b'.center.size = b.center.size := by
  obtain ⟨n, hn⟩ := h.led.live
  obtain ⟨t, ht, rfl⟩ := ht n hn
  rw [Center.size_eq, Center.size_eq, ht, hn]
  rfl

lemma follows_submit (h : b.Fit o) (hf : b.center.Follows s) (number : String) (now : Timestamp) :
    (b.act (.submit number now)).center.Follows s := by
  have hact := fit_submit h number now
  obtain ⟨queue, id, hqueue, -, -, -, hqueue', -, -, hterms, -⟩ :=
    h.led.bring b.center.dispatcher.bounds number now
  refine hf.of_same rfl rfl ?_ (size_of_terms h fun n hn => ⟨_, (hterms _).trans hn, rfl⟩)
  rw [hact.liveQueue?, h.liveQueue?, hqueue]
  refine (congrArg (Option.map CallQueue.capacity) hqueue').trans ?_
  exact congrArg some (queue.push_frame ..).1

lemma follows_work (h : b.Fit o) (hf : b.center.Follows s) (p i : Nat) (now : Timestamp)
    (draw : Nat) : (b.act (.work p i now draw)).center.Follows s := by
  have hact := fit_work h p i now draw
  have hterms := (Floor.sameTerms_work b.center.floor p i now draw).terms
  refine hf.of_same rfl rfl ?_ (size_of_terms h fun n hn => ⟨_, (hterms _).trans hn, rfl⟩)
  rw [hact.liveQueue?, h.liveQueue?]
  show ((b.center.floor.work p i now draw).queue? o.queue).map _ = _
  cases (h.led.work p i now draw).1 with
  | rests before quiet => rw [quiet.queue]
  | picksUp _ _ _ queue e es isQueue _ after => rw [after, isQueue]; rfl
  | hangsUp l before after exchange queues => rw [Floor.queue?, queues, Floor.queue?]

lemma follows_act (h : b.Fit o) (hd : ¬ deed.Installs) (hf : b.center.Follows s) :
    (b.act deed).center.Follows s := by
  have hact := fit_act h deed
  have of_quiet (hb : (b.act deed).center.dispatcher.bounds = b.center.dispatcher.bounds)
      (hu : (b.act deed).center.dispatcher.unit = b.center.dispatcher.unit)
      (hq : b.center.floor.Quiet o (b.act deed).center.floor)
      (hs : (b.act deed).center.size = b.center.size) : (b.act deed).center.Follows s :=
    hf.of_same hb hu (by rw [hact.liveQueue?, h.liveQueue?, hq.queue]) hs
  have of_setting (hs : deed.IsSetting) : (b.act deed).center.Follows s := by
    obtain ⟨hfloor, hdis, -⟩ := b.setting_frame hs
    refine of_quiet (by rw [hdis]) (by rw [hdis]) (hfloor ▸ .refl o _) ?_
    rw [Center.size_eq, Center.size_eq, hfloor, hdis]
  cases deed with
  | apply | replacePool => exact absurd trivial hd
  | submit number now => exact follows_submit h hf number now
  | work p i now draw => exact follows_work h hf p i now draw
  | useProvider | stage | reload | writeConfig | deleteConfig => exact of_setting trivial
  | dismiss p now =>
    obtain ⟨hquiet, -, hterms⟩ := h.led.dismiss p now
    exact of_quiet rfl rfl hquiet (size_of_terms h fun n hn => ⟨_, hterms _ _ hn rfl, rfl⟩)
  | start =>
    obtain ⟨-, hquiet, hsize⟩ := Center.Fit.start h
    exact of_quiet rfl rfl hquiet hsize
  | stop =>
    obtain ⟨-, hquiet, hsize⟩ := Center.Fit.stop h
    exact of_quiet rfl rfl hquiet hsize
  | prepare =>
    obtain ⟨hs, hsize, -⟩ := Center.Fit.prepare h
    have he := prepare_center b
    have hq := hs.quiet
    have hbounds := hs.bounds
    have hunit := hs.unit
    rw [Center.readSettings_frame, ← he] at hq hbounds hunit
    exact of_quiet hbounds hunit hq (he ▸ hsize)

lemma follows_run (h : b.Fit o) (hd : ∀ d ∈ deeds, ¬ d.Installs) (hf : b.center.Follows s) :
    (b.run deeds).center.Follows s := by
  induction deeds generalizing b with
  | nil => exact hf
  | cons deed deeds ih =>
    refine ih (fit_act h deed) (fun d hm => hd d (List.mem_cons_of_mem _ hm)) ?_
    exact follows_act h (hd deed (List.mem_cons_self ..)) hf

lemma provider?_prepare (h : b.Fit o) :
    (b.act .prepare).center.provider? = b.center.readSettings.2.provider? := by
  obtain ⟨hs, -⟩ := Center.Fit.prepare h
  rw [prepare_center, Center.provider?, hs.providers, hs.provider, Center.provider?]

lemma provider?_apply {n : Nat} {spare : Option Nat} (h : b.Fit o)
    (hn : b.underWay[n]? = some spare) (now : Timestamp) :
    (b.act (.apply n now)).center.provider? = b.center.readSettings.2.provider? := by
  have hf := of_underWay h hn
  obtain ⟨-, hs, -⟩ := hf.apply now
  obtain ⟨ha, -⟩ := hf.readSettings.adopt b.center.wanted
  rw [act_apply hn, Center.provider?, hs.providers, hs.provider, ha, Center.provider?]

def task? (b : Bureau) (k : Nat) : Option Task := b.center.floor.exchange.task? k

def calls (b : Bureau) : Nat := b.center.floor.exchange.tasks.length

lemma exchange_act (h : b.Fit o) (deed : Deed) :
    (b.act deed).center.floor.exchange = b.center.floor.exchange ∨
      ∃ d : Floor.Deed, (b.act deed).center.floor = b.center.floor.act d := by
  rcases deed.kinds with hd | ⟨number, now, rfl⟩ | ⟨p, i, now, draw, rfl⟩
  · exact .inl (fit_direct h hd).2.exchange
  · let d := b.center.dispatcher
    exact .inr ⟨.bring d.pool d.bounds number now false now, rfl⟩
  · exact .inr ⟨.work p i now draw, rfl⟩

lemma calls_act (h : b.Fit o) (deed : Deed) : b.calls ≤ (b.act deed).calls := by
  rw [calls, calls]
  rcases exchange_act h deed with he | ⟨d, he⟩
  · exact Nat.le_of_eq (by rw [he])
  · rw [he]
    exact Floor.length_tasks_act h.sound.distinct d

end Bureau

namespace Bureau

def noon : Timestamp := .ofPosition 43200000000000

def small : Floor := (Floor.furnished 1 (some 4) [] 1).toOption.getD .empty

def smallCenter : Center := .around small (.fixed (.of ⟨1, 20, 1, 4⟩ false)) .zero ⟨.absent, 0⟩

end Bureau

end Switchboard
