import Switchboard.Proofs.Provider.Lookout

/-! A watch whose configuration may be dropped at any moment, also in the middle of a poll. -/

namespace Switchboard

lemma Listeners.getElem?_of_drop {ls : Listeners} {i j n : ℕ}
    (h : (ls.drop i)[j]? = some (some n)) : ls[j]? = some (some n) := by
  rw [drop, List.getElem?_set] at h
  split at h
  · split at h <;> cases h
  · exact h

namespace Lookout

variable {l l' : Lookout} {last : Option Int} {m : Move} {ms : List Move}
  {seen : List (WithBot Int)}

structure Keeps (l : Lookout) (seen : List (WithBot Int)) : Prop where
  held : l.watch.provider = none ↔ l.holders = 0 ∧ l.stance.holds = false
  latest : ∀ last, l.watch.monitor = some ⟨last, true⟩ →
    IsGreatest {m | m ∈ seen} (l.stance.latest last)

lemma keeps_start (c : FileConfig) (file : WatchedFile) (listeners : Listeners) (others : ℕ) :
    (start c file listeners others).Keeps [file.moment] := by
  constructor
  · simp [start, Watch.watch]
  · intro last hm
    simp only [start, Watch.watch, Watch.fileConfig?, Option.bind_some, Monitor.start?] at hm
    split at hm
    · cases hm
      exact ⟨List.mem_singleton_self _, fun m hm => (List.mem_singleton.1 hm).le⟩
    · cases hm

lemma looks_of_stance (hs : l.stance ≠ .resting) (m : Move) : l.looks m = [] := by
  cases m with
  | dismiss | share | letGo | deal => rfl
  | step =>
    rw [looks]
    cases h : l.stance with
    | resting => exact absurd h hs
    | alerted | holding | telling | parting => rfl

lemma looks_of_dismissed (hd : l.dismissed = true) (m : Move) : l.looks m = [] := by
  cases m with
  | dismiss | share | letGo | deal => rfl
  | step =>
    rw [looks, hd, Bool.not_true, Bool.and_false]
    split <;> rfl

lemma looks_of_resting (hm : l.watch.monitor = some ⟨last, true⟩) (hs : l.stance = .resting)
    (hd : l.dismissed = false) : l.looks .step = [l.watch.file.moment] := by
  simp [looks, hs, isRunning_of_monitor hm, hd]

lemma Keeps.goOn (h : l.Keeps seen) (hm : l.watch.monitor = some ⟨last, true⟩) :
    (l.goOn last).Keeps (seen ++ l.looks .step) := by
  have hheld := h.held
  have hlatest := h.latest last hm
  have hstrides := l.strides_goOn last
  generalize l.goOn last = l' at hstrides
  cases hstrides with
  | leaves haway hleaves =>
    have hlooks : l.looks .step = [] :=
      hleaves.elim (looks_of_dismissed · _) (looks_of_stance ·.1 _)
    rw [hlooks, List.append_nil]
    rw [haway] at hheld
    exact ⟨hheld, fun last' hm' => absurd hm' (monitor_leave l last last')⟩
  | passes hs hd hle =>
    have hgreatest := isGreatest_concat hlatest l.watch.file.moment
    rw [hs, Stance.latest, max_eq_right hle] at hgreatest
    rw [looks_of_resting hm hs hd]
    refine ⟨hheld, fun last' hm' => ?_⟩
    obtain rfl : last = last' := by
      rw [hm] at hm'
      cases hm'
      rfl
    rwa [hs]
  | comesUpon hs hd hlt =>
    have hgreatest := isGreatest_concat hlatest l.watch.file.moment
    rw [hs, Stance.latest, max_eq_left hlt.le] at hgreatest
    rw [looks_of_resting hm hs hd]
    rw [hs] at hheld
    exact ⟨hheld, fun _ _ => hgreatest⟩
  | advances w stance hs hheld' hholds hstance hmonitor hp =>
    have hsome : l.watch.provider ≠ none := hheld'.elim id fun hholds' hnone => by
      rw [(hheld.1 hnone).2] at hholds'
      cases hholds'
    rw [looks_of_stance hs, List.append_nil]
    constructor
    · exact iff_of_false (hp.not.2 hsome) fun haway => by
        rw [hholds] at haway
        cases haway.2
    · intro last' hm'
      obtain rfl : last = last' := by
        rw [hmonitor, hm] at hm'
        cases hm'
        rfl
      rwa [hstance]
  | returns moment hs =>
    rw [hs] at hheld hlatest
    rw [looks_of_stance (by simp [hs]), List.append_nil]
    constructor
    · simp [settle_provider, hheld, Stance.holds]
    · intro last' hm'
      rw [settle_monitor] at hm'
      rw [settle_stance]
      cases hm'
      exact hlatest

lemma deal_of_isOpenTo {d : Watch.Dealing} {n : ℕ} (hd : d.isOpenTo n = true) (w : Watch) :
    (w.deal d).monitor = w.monitor ∧ ((w.deal d).provider = none ↔ w.provider = none) := by
  cases d with
  | stage s =>
    rw [Watch.deal, Watch.stage]
    split
    · rename_i hp
      simp [hp]
    · exact ⟨rfl, Iff.rfl⟩
  | subscribeAgain i =>
    rw [Watch.deal, Watch.subscribeAgain]
    split
    · exact ⟨rfl, Option.map_eq_none_iff⟩
    · exact ⟨rfl, Iff.rfl⟩
  | deed d =>
    rw [Watch.deal]
    cases d with
    | watch | unwatch | tick => cases hd
    | setFile | dropListener => exact ⟨rfl, Iff.rfl⟩
    | reload | takeUpdated | subscribe =>
      cases hp : w.provider <;>
        simp [Watch.act, hp, Watch.reload, Watch.takeUpdated, Watch.subscribe]
    | request =>
      cases hp : w.provider with
      | none => simp [Watch.act, hp]
      | some p =>
        simp only [Watch.act, hp, Option.elim, Watch.request]
        split <;> simp

lemma Keeps.act (h : l.Keeps seen) (m : Move) : (l.act m).Keeps (seen ++ l.looks m) := by
  cases m with
  | step =>
    cases hr : l.isRunning with
    | false => rwa [Lookout.act, step_of_not_running hr, looks_of_not_running hr, List.append_nil]
    | true =>
      obtain ⟨last, hm⟩ := exists_of_isRunning hr
      rw [Lookout.act, step_of_running hm]
      exact h.goOn hm
  | dismiss =>
    rw [looks, List.append_nil]
    exact ⟨h.held, h.latest⟩
  | share =>
    rw [looks, List.append_nil, Lookout.act]
    split
    · have hp : l.watch.provider ≠ none := Option.isSome_iff_ne_none.1 ‹_›
      exact ⟨by simp [hp], h.latest⟩
    · exact h
  | letGo =>
    rw [looks, List.append_nil, Lookout.act]
    constructor
    · rw [settle_provider, settle_holders, settle_stance, h.held]
      exact or_iff_right_of_imp fun haway => ⟨by rw [haway.1], haway.2⟩
    · rw [settle_monitor, settle_stance]
      exact h.latest
  | deal d =>
    rw [looks, List.append_nil, Lookout.act]
    split
    · obtain ⟨hmonitor, hprovider⟩ := deal_of_isOpenTo ‹_› l.watch
      exact ⟨hprovider.trans h.held, by rw [hmonitor]; exact h.latest⟩
    · exact h

lemma Keeps.run (h : l.Keeps seen) (ms : List Move) :
    (l.run ms).Keeps (seen ++ l.along looks ms) := by
  induction ms generalizing l seen with
  | nil => rwa [along, List.append_nil]
  | cons m ms ih =>
    rw [along, ← List.append_assoc]
    exact ih (h.act m)

lemma isRunning_act (hr : l.isRunning = true) (hd : l.dismissed = false)
    (hp : l.watch.provider ≠ none) (m : Move) : (l.act m).isRunning = true := by
  cases m with
  | dismiss => exact hr
  | letGo => rwa [act, isRunning, settle_monitor]
  | share =>
    rw [act]
    split <;> exact hr
  | deal d =>
    rw [act]
    split
    · rwa [isRunning, (deal_of_isOpenTo ‹_› l.watch).1]
    · exact hr
  | step =>
    obtain ⟨last, hm⟩ := exists_of_isRunning hr
    rw [act, step_of_running hm]
    have hstrides := l.strides_goOn last
    generalize l.goOn last = l' at hstrides
    cases hstrides with
    | leaves haway hleaves =>
      exact hleaves.elim (absurd · (ne_true_of_eq_false hd)) fun hleaves => absurd hleaves.2 hp
    | passes | comesUpon => exact hr
    | advances w stance hs hheld hholds hstance hmonitor => rwa [isRunning, hmonitor]
    | returns => rw [isRunning, settle_monitor]; rfl

structure Deserted (l : Lookout) : Prop where
  provider : l.watch.provider = none
  holders : l.holders = 0
  away : l.stance.holds = false

lemma Keeps.deserted (h : l.Keeps seen) (hp : l.watch.provider = none) : l.Deserted :=
  ⟨hp, (h.held.1 hp).1, (h.held.1 hp).2⟩

structure Rests (l : Lookout) (last : Option Int) : Prop where
  monitor : l.watch.monitor = some ⟨last, true⟩
  stance : l.stance = .resting

inductive Fares (l : Lookout) : Move → Lookout → Prop
  | aside {m : Move} (file : WatchedFile) (listeners : Listeners) (dismissed : Bool)
      (hm : m ≠ .step)
      (hn : ∀ i n : ℕ, listeners[i]? = some (some n) → l.watch.listeners[i]? = some (some n)) :
      Fares l m { l with
        watch := { l.watch with file := file, listeners := listeners }
        dismissed := dismissed }
  | ended (h : l.isRunning = false) : Fares l .step l
  | leaves (last : Option Int) (h : l.dismissed = true ∨ l.stance ≠ .resting) :
      Fares l .step (l.leave last)
  | comesUpon (last : Option Int) (h : l.Rests last) (hd : l.dismissed = false)
      (hlt : momentOf last < l.watch.file.moment) :
      Fares l .step { l with stance := .alerted l.watch.file.changed? }
  | passes (last : Option Int) (h : l.Rests last) (hd : l.dismissed = false)
      (hle : l.watch.file.moment ≤ momentOf last) : Fares l .step l

lemma Deserted.fares_step (h : l.Deserted) : l.Fares .step l.step := by
  cases hr : l.isRunning with
  | false =>
    rw [step_of_not_running hr]
    exact .ended hr
  | true =>
    obtain ⟨last, hm⟩ := exists_of_isRunning hr
    have haway := h.away
    have hstrides := l.strides_goOn last
    rw [step_of_running hm]
    generalize l.goOn last = l' at hstrides
    cases hstrides with
    | leaves _ hleaves => exact .leaves last (hleaves.imp_right And.left)
    | passes hs hd hle => exact .passes last ⟨hm, hs⟩ hd hle
    | comesUpon hs hd hlt => exact .comesUpon last ⟨hm, hs⟩ hd hlt
    | advances w stance hs hheld =>
      exact absurd hheld (not_or.2 ⟨not_not.2 h.provider, ne_true_of_eq_false haway⟩)
    | returns moment hs =>
      rw [hs] at haway
      cases haway

lemma Deserted.fares (h : l.Deserted) (m : Move) : l.Fares m (l.act m) := by
  have hidle (hm : m ≠ .step) : l.Fares m l :=
    .aside l.watch.file l.watch.listeners l.dismissed hm fun _ _ => id
  cases m with
  | step => exact h.fares_step
  | dismiss => exact .aside l.watch.file l.watch.listeners true (by simp) fun _ _ => id
  | share =>
    rw [act, h.provider, Option.isSome_none, if_neg Bool.false_ne_true]
    exact hidle (by simp)
  | letGo =>
    have hact : l.act .letGo = l := by
      obtain ⟨⟨provider, listeners, file, monitor⟩, holders, stance, dismissed⟩ := l
      obtain ⟨rfl, rfl, haway⟩ := h
      simp [act, settle, Watch.dropProvider]
    rw [hact]
    exact hidle (by simp)
  | deal d =>
    rw [act]
    split
    · rename_i hd
      rw [h.holders] at hd
      cases d with
      | stage | subscribeAgain => cases hd
      | deed d =>
        cases d with
        | setFile file =>
          exact .aside file l.watch.listeners l.dismissed (by simp) fun _ _ => id
        | dropListener i =>
          refine .aside l.watch.file (l.watch.listeners.drop i) l.dismissed (by simp) ?_
          exact fun j n => Listeners.getElem?_of_drop
        | reload | request | takeUpdated | subscribe | watch | unwatch | tick => cases hd
    · exact hidle (by simp)

lemma Deserted.act (h : l.Deserted) (m : Move) : (l.act m).Deserted := by
  have hfares := h.fares m
  generalize l.act m = l' at hfares
  cases hfares with
  | aside => exact ⟨h.provider, h.holders, h.away⟩
  | ended | passes => exact h
  | leaves | comesUpon => exact ⟨h.provider, h.holders, rfl⟩

lemma Deserted.works (h : l.Deserted) (m : Move) : l.works m = [] := by
  have haway := h.away
  cases m with
  | dismiss | share | letGo | deal => rfl
  | step =>
    rw [Lookout.works]
    cases hs : l.stance with
    | resting | alerted | parting => rfl
    | holding | telling =>
      rw [hs] at haway
      cases haway

lemma Deserted.listeners (h : l.Deserted) (m : Move) {i n : ℕ}
    (hn : (l.act m).watch.listeners[i]? = some (some n)) :
    l.watch.listeners[i]? = some (some n) := by
  have hfares := h.fares m
  generalize l.act m = l' at hfares hn
  cases hfares with
  | aside file listeners dismissed hm hlisteners => exact hlisteners i n hn
  | ended | leaves | comesUpon | passes => exact hn

lemma Keeps.greatest (h : l.Keeps seen) (hrests : l.Rests last) :
    IsGreatest {m | m ∈ seen} (momentOf last) := by
  have hlatest := h.latest last hrests.monitor
  rwa [hrests.stance] at hlatest

lemma Rests.unique {last' : Option Int} (h : l.Rests last) (h' : l.Rests last') : last = last' := by
  have hm := h.monitor.symm.trans h'.monitor
  cases hm
  rfl

lemma looks_of_ne (hm : m ≠ .step) (l : Lookout) : l.looks m = [] := by
  cases m with
  | step => exact absurd rfl hm
  | dismiss | share | letGo | deal => rfl

lemma Deserted.rests_act (h : l.Deserted) (hd : (l.act m).dismissed = false) :
    (l.act m).Rests last ↔ l.Rests last ∧ ∀ moment ∈ l.looks m, moment ≤ momentOf last := by
  have hfares := h.fares m
  generalize l.act m = l' at hfares hd
  cases hfares with
  | aside file listeners dismissed hm =>
    rw [looks_of_ne hm]
    exact ⟨fun hrests => ⟨⟨hrests.monitor, hrests.stance⟩, nofun⟩,
      fun ⟨hrests, _⟩ => ⟨hrests.monitor, hrests.stance⟩⟩
  | ended hr =>
    rw [looks_of_not_running hr]
    exact ⟨fun hrests => ⟨hrests, nofun⟩, And.left⟩
  | leaves last' hleaves =>
    have hs : l.stance ≠ .resting := hleaves.resolve_left (ne_true_of_eq_false hd)
    exact iff_of_false (fun hrests => monitor_leave l last' last hrests.monitor)
      fun hrests => hs hrests.1.stance
  | comesUpon last' hrests hd hlt =>
    rw [looks_of_resting hrests.monitor hrests.stance hd, List.forall_mem_singleton]
    refine iff_of_false (fun hrests' => Stance.noConfusion hrests'.stance) ?_
    rintro ⟨hrests', hle⟩
    obtain rfl := hrests.unique hrests'
    exact absurd hle (not_le.2 hlt)
  | passes last' hrests hd hle =>
    rw [looks_of_resting hrests.monitor hrests.stance hd, List.forall_mem_singleton]
    refine ⟨fun hrests' => ⟨hrests', ?_⟩, And.left⟩
    rwa [← hrests.unique hrests']

lemma Deserted.isRunning_step (h : l.Deserted) :
    (l.act .step).isRunning = true ↔ l.dismissed = false ∧ ∃ last, l.Rests last := by
  have hfares := h.fares .step
  generalize l.act .step = l' at hfares
  cases hfares with
  | aside file listeners dismissed hm => exact absurd rfl hm
  | ended hr =>
    refine iff_of_false (ne_true_of_eq_false hr) fun ⟨_, last, hrests⟩ => ?_
    exact ne_true_of_eq_false hr (isRunning_of_monitor hrests.monitor)
  | leaves last hleaves =>
    refine iff_of_false Bool.false_ne_true fun ⟨hd, last', hrests⟩ => ?_
    exact hleaves.elim (ne_true_of_eq_false hd) (absurd hrests.stance)
  | comesUpon last hrests hd | passes last hrests hd =>
    exact iff_of_true (isRunning_of_monitor hrests.monitor) ⟨hd, last, hrests⟩

lemma dismissed_run (hd : (l.run ms).dismissed = false) : l.dismissed = false := by
  induction ms generalizing l with
  | nil => exact hd
  | cons m ms ih => exact dismissed_act (ih hd)

lemma Deserted.run (h : l.Deserted) (ms : List Move) : (l.run ms).Deserted := by
  induction ms generalizing l with
  | nil => exact h
  | cons m ms ih => exact ih (h.act m)

lemma Keeps.isRunning_run (h : l.Keeps seen) (hr : l.isRunning = true)
    (hd : (l.run ms).dismissed = false) (hp : (l.run ms).watch.provider ≠ none) :
    (l.run ms).isRunning = true := by
  induction ms generalizing l seen with
  | nil => exact hr
  | cons m ms ih =>
    have hsome : l.watch.provider ≠ none := fun hnone =>
      hp ((h.deserted hnone).run (m :: ms)).provider
    exact ih (h.act m) (isRunning_act hr (dismissed_run hd) hsome m) hd hp

lemma Deserted.along_works (h : l.Deserted) (ms : List Move) : l.along Lookout.works ms = [] := by
  induction ms generalizing l with
  | nil => rfl
  | cons m ms ih => rw [along, h.works m, ih (h.act m), List.append_nil]

lemma Deserted.listeners_run (h : l.Deserted) (ms : List Move) {i n : ℕ}
    (hn : (l.run ms).watch.listeners[i]? = some (some n)) :
    l.watch.listeners[i]? = some (some n) := by
  induction ms generalizing l with
  | nil => exact hn
  | cons m ms ih => exact h.listeners m (ih (h.act m) hn)

lemma Deserted.rests_run (h : l.Deserted) (hd : (l.run ms).dismissed = false) :
    (l.run ms).Rests last ↔
      l.Rests last ∧ ∀ moment ∈ l.along Lookout.looks ms, moment ≤ momentOf last := by
  induction ms generalizing l with
  | nil => exact ⟨fun hrests => ⟨hrests, nofun⟩, And.left⟩
  | cons m ms ih =>
    change ((l.act m).run ms).Rests last ↔ _
    rw [ih (h.act m) hd, h.rests_act (dismissed_run hd), along, List.forall_mem_append, and_assoc]

end Lookout

/-- As long as somebody holds the configuration, only an order ends the watch over it. Once it is
gone, the watch reads nothing and tells nobody, but it goes on polling until it is told to end or a
poll comes upon a file that is newer than all that it has come upon before. -/
theorem deserted_watch_waits_for_news (c : FileConfig) (file : WatchedFile) (listeners : Listeners)
    (others : ℕ) (before after : List Lookout.Move) :
    let first := Lookout.start c file listeners others
    let l := first.run before
    let l' := l.run after
    let seen := file.moment :: first.along Lookout.looks before
    (c.updatesEnabled = true → l.watch.provider ≠ none → l.dismissed = false →
      ∀ m, (l.act m).isRunning = true) ∧
    (l.watch.provider = none →
      l'.watch.provider = none ∧ l.along Lookout.works after = [] ∧
      (∀ i n : ℕ, l'.watch.listeners[i]? = some (some n) →
        l.watch.listeners[i]? = some (some n)) ∧
      ((l'.act .step).isRunning = true ↔ l'.dismissed = false ∧
        l.isRunning = true ∧ l.stance = .resting ∧
        ∀ moment ∈ l.along Lookout.looks after, ∃ m ∈ seen, moment ≤ m)) := by
  intro first l l' seen
  have hfirst := Lookout.keeps_start c file listeners others
  have hkeeps : l.Keeps seen := hfirst.run before
  constructor
  · intro hc hp hd m
    have hr : first.isRunning = true := by
      simp [first, Lookout.start, Lookout.isRunning, Watch.watch, Watch.fileConfig?,
        Monitor.start?, hc]
    exact Lookout.isRunning_act (hfirst.isRunning_run hr hd hp) hd hp m
  · intro hp
    have hl := hkeeps.deserted hp
    have hl' := hl.run after
    refine ⟨hl'.provider, hl.along_works after, fun i n => hl.listeners_run after, ?_⟩
    rw [hl'.isRunning_step]
    refine and_congr_right fun hd => ?_
    constructor
    · rintro ⟨last, hrests⟩
      obtain ⟨hrests, hold⟩ := (hl.rests_run hd).1 hrests
      have hmem := (hkeeps.greatest hrests).1
      exact ⟨Lookout.isRunning_of_monitor hrests.monitor, hrests.stance,
        fun moment hm => ⟨_, hmem, hold moment hm⟩⟩
    · rintro ⟨hr, hs, hold⟩
      obtain ⟨last, hm⟩ := Lookout.exists_of_isRunning hr
      have hgreatest := hkeeps.greatest ⟨hm, hs⟩
      refine ⟨last, (hl.rests_run hd).2 ⟨⟨hm, hs⟩, fun moment hmoment => ?_⟩⟩
      obtain ⟨m, hmem, hle⟩ := hold moment hmoment
      exact hle.trans (hgreatest.2 hmem)

theorem deserted_watch_waits_for_news_after_its_poll :
    let first := Lookout.start ⟨"base.json", .initial, false, true, some 0⟩ ⟨.absent, 0⟩ [some 0] 0
    let found : List Lookout.Move :=
      [.deal (.deed (.setFile ⟨.ofText "[4,5,2,15]", 3⟩)), .step, .step]
    let gone : List Lookout.Move := found ++ [.letGo, .step, .step, .step]
    let old : List Lookout.Move := [.deal (.deed (.setFile ⟨.ofText "[6,9,3,20]", 3⟩)), .step]
    let new : List Lookout.Move := old ++ [.deal (.deed (.setFile ⟨.folder, 4⟩)), .step]
    ((first.run found).act .letGo).isRunning = true ∧
      (first.run gone).watch.provider = none ∧ (first.run gone).watch.listeners = [some 1] ∧
      (first.run gone).along Lookout.works new = [] ∧
      (((first.run gone).run old).act .step).isRunning = true ∧
      (((first.run gone).run new).act .step).isRunning = false := by
  intro first found gone old new
  have hheld : (first.run found).watch.provider ≠ none :=
    Option.isSome_iff_ne_none.1 (by decide +kernel)
  have hgone : (first.run gone).watch.provider = none :=
    Option.isNone_iff_eq_none.1 (by decide +kernel)
  dsimp only [first, found, gone, old, new] at hheld hgone ⊢
  have hdeserted (after : List Lookout.Move) :=
    (deserted_watch_waits_for_news _ _ _ _ _ after).2 hgone
  refine ⟨(deserted_watch_waits_for_news _ _ _ _ _ []).1 rfl hheld (by decide +kernel) .letGo,
    hgone, by decide +kernel, (hdeserted _).2.1, ?_, ?_⟩
  · rw [(hdeserted _).2.2.2]
    decide +kernel
  · rw [← Bool.not_eq_true, (hdeserted _).2.2.2]
    decide +kernel

theorem watch_outlives_its_configuration :
    let file : WatchedFile := ⟨.ofText "[10,20,4,50]", 0⟩
    let first := Lookout.start (.load "base.json" file.state) file [] 0
    ¬ ∀ before, (first.run before).watch.provider = none →
      (first.run before).stance = .resting →
      (first.run before).watch.tick.monitor.any (·.running) = false := by
  intro file first h
  exact Bool.noConfusion (h [.letGo] rfl rfl)

end Switchboard
