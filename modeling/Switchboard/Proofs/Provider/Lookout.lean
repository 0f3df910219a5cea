import Switchboard.Proofs.Provider.Vigil

/-! The watch over a configuration file in its single steps, while others hold the configuration,
use it and let go of it at any moment. -/

namespace Switchboard

inductive Lookout.Stance
  | resting
  | alerted (moment : Option Int)
  | holding (moment : Option Int)
  | telling (moment : Option Int)
  | parting (moment : Option Int)
deriving DecidableEq

def Lookout.Stance.holds : Stance → Bool
  | resting | alerted _ => false
  | holding _ | telling _ | parting _ => true

structure Lookout where
  watch : Watch
  /-- How many others hold the configuration. -/
  holders : ℕ
  stance : Lookout.Stance
  /-- The watch is told to end. -/
  dismissed : Bool

def Watch.Dealing.isOpenTo (holders : ℕ) : Dealing → Bool
  | stage _ | subscribeAgain _ => 0 < holders
  | deed d =>
    match d with
    | .setFile _ | .dropListener _ => true
    | .reload | .request | .takeUpdated | .subscribe => 0 < holders
    | .watch | .unwatch | .tick => false

namespace Lookout

inductive Move
  | step
  | dismiss
  | share
  | letGo
  | deal (d : Watch.Dealing)

def start (c : FileConfig) (file : WatchedFile) (listeners : Listeners) (others : ℕ) : Lookout :=
  ⟨Watch.watch ⟨some (.file c), listeners, file, none⟩, others + 1, .resting, false⟩

def isRunning (l : Lookout) : Bool := l.watch.monitor.any (·.running)

def settle (l : Lookout) : Lookout :=
  if l.holders = 0 && !l.stance.holds then { l with watch := l.watch.dropProvider } else l

def leave (l : Lookout) (last : Option Int) : Lookout :=
  { l with watch := { l.watch with monitor := some ⟨last, false⟩ }, stance := .resting }

def goOn (l : Lookout) (last : Option Int) : Lookout :=
  match l.stance with
  | .resting =>
    if l.dismissed then l.leave last
    else if Monitor.isLater l.watch.file.changed? last then
      { l with stance := .alerted l.watch.file.changed? }
    else l
  | .alerted moment =>
    if l.watch.provider.isSome then { l with stance := .holding moment } else l.leave last
  | .holding moment =>
    match l.watch.provider with
    | none => l
    | some p =>
      let (r, w) := l.watch.reload p
      { l with watch := w, stance := if r.isOk then .telling moment else .parting moment }
  | .telling moment =>
    let listener := l.watch.provider.bind (·.listener)
    { l with
      watch := { l.watch with listeners := l.watch.listeners.tellSome listener }
      stance := .parting moment }
  | .parting moment =>
    settle { l with
      watch := { l.watch with monitor := some ⟨moment, true⟩ }
      stance := .resting }

def step (l : Lookout) : Lookout :=
  match l.watch.monitor with
  | some ⟨last, true⟩ => l.goOn last
  | _ => l

def act (l : Lookout) : Move → Lookout
  | .step => l.step
  | .dismiss => { l with dismissed := true }
  | .share => if l.watch.provider.isSome then { l with holders := l.holders + 1 } else l
  | .letGo => settle { l with holders := l.holders - 1 }
  | .deal d => if d.isOpenTo l.holders then { l with watch := l.watch.deal d } else l

def run (l : Lookout) (moves : List Move) : Lookout := moves.foldl act l

def along {α : Type} (f : Lookout → Move → List α) (l : Lookout) : List Move → List α
  | [] => []
  | m :: ms => f l m ++ (l.act m).along f ms

def looks (l : Lookout) : Move → List (WithBot Int)
  | .step =>
    match l.stance with
    | .resting => if l.isRunning && !l.dismissed then [l.watch.file.moment] else []
    | _ => []
  | .dismiss | .share | .letGo | .deal _ => []

inductive Work
  | reload
  | tell

def works (l : Lookout) : Move → List Work
  | .step =>
    match l.stance with
    | .holding _ => if l.isRunning then [.reload] else []
    | .telling _ => if l.isRunning then [.tell] else []
    | _ => []
  | .dismiss | .share | .letGo | .deal _ => []

def momentOf (changed : Option Int) : WithBot Int := changed

variable {l : Lookout} {last : Option Int} {m : Move} {ms : List Move} {seen : List (WithBot Int)}

@[simp] lemma settle_holders (l : Lookout) : l.settle.holders = l.holders := by
  rw [settle]
  split <;> rfl

@[simp] lemma settle_stance (l : Lookout) : l.settle.stance = l.stance := by
  rw [settle]
  split <;> rfl

@[simp] lemma settle_dismissed (l : Lookout) : l.settle.dismissed = l.dismissed := by
  rw [settle]
  split <;> rfl

@[simp] lemma settle_monitor (l : Lookout) : l.settle.watch.monitor = l.watch.monitor := by
  rw [settle]
  split <;> rfl

lemma settle_provider (l : Lookout) : l.settle.watch.provider = none ↔
    l.watch.provider = none ∨ l.holders = 0 ∧ l.stance.holds = false := by
  rw [settle]
  split
  · rename_i h
    rw [Bool.and_eq_true, decide_eq_true_eq, Bool.not_eq_true'] at h
    exact iff_of_true rfl (.inr h)
  · rename_i h
    rw [Bool.and_eq_true, decide_eq_true_eq, Bool.not_eq_true'] at h
    exact (or_iff_left h).symm

lemma step_of_running (hm : l.watch.monitor = some ⟨last, true⟩) : l.step = l.goOn last := by
  rw [step, hm]

lemma isRunning_of_monitor (hm : l.watch.monitor = some ⟨last, true⟩) : l.isRunning = true := by
  rw [isRunning, hm]
  rfl

lemma exists_of_isRunning (h : l.isRunning = true) :
    ∃ last, l.watch.monitor = some ⟨last, true⟩ := by
  rw [isRunning] at h
  cases hm : l.watch.monitor with
  | none => simp [hm] at h
  | some m =>
    obtain ⟨last, running⟩ := m
    obtain rfl : running = true := by simpa [hm] using h
    exact ⟨last, rfl⟩

lemma step_of_not_running (h : l.isRunning = false) : l.step = l := by
  rw [step]
  split
  · rw [isRunning_of_monitor ‹_›] at h
    cases h
  · rfl

lemma looks_of_not_running (h : l.isRunning = false) (m : Move) : l.looks m = [] := by
  cases m with
  | step =>
    rw [looks, h]
    split <;> rfl
  | dismiss | share | letGo | deal => rfl

lemma isLater_iff (file : WatchedFile) (last : Option Int) :
    Monitor.isLater file.changed? last = true ↔ momentOf last < file.moment :=
  Monitor.isLater_iff file.changed? last

lemma monitor_leave (l : Lookout) (last last' : Option Int) :
    (l.leave last).watch.monitor ≠ some ⟨last', true⟩ := by
  simp [leave]

def Stance.latest (last : Option Int) : Stance → WithBot Int
  | resting => momentOf last
  | alerted moment | holding moment | telling moment | parting moment => momentOf moment

inductive Strides (l : Lookout) (last : Option Int) : Lookout → Prop
  | leaves (haway : l.stance.holds = false)
      (h : l.dismissed = true ∨ l.stance ≠ .resting ∧ l.watch.provider = none) :
      Strides l last (l.leave last)
  | passes (hs : l.stance = .resting) (hd : l.dismissed = false)
      (hle : l.watch.file.moment ≤ momentOf last) : Strides l last l
  | comesUpon (hs : l.stance = .resting) (hd : l.dismissed = false)
      (hlt : momentOf last < l.watch.file.moment) :
      Strides l last { l with stance := .alerted l.watch.file.changed? }
  | advances (w : Watch) (stance : Stance) (hs : l.stance ≠ .resting)
      (hheld : l.watch.provider ≠ none ∨ l.stance.holds = true) (hholds : stance.holds = true)
      (hlatest : stance.latest last = l.stance.latest last) (hm : w.monitor = l.watch.monitor)
      (hp : w.provider = none ↔ l.watch.provider = none) :
      Strides l last { l with watch := w, stance := stance }
  | returns (moment : Option Int) (hs : l.stance = .parting moment) :
      Strides l last (settle { l with
        watch := { l.watch with monitor := some ⟨moment, true⟩ }
        stance := .resting })

lemma strides_goOn (l : Lookout) (last : Option Int) : l.Strides last (l.goOn last) := by
  rw [goOn.eq_def]
  cases hs : l.stance with
  | resting =>
    dsimp only
    split
    · exact .leaves (by rw [hs]; rfl) (.inl ‹_›)
    · have hd := Bool.eq_false_iff.2 ‹_›
      split
      · exact .comesUpon hs hd ((isLater_iff _ _).1 ‹_›)
      · exact .passes hs hd (not_lt.1 ((isLater_iff _ _).not.1 ‹_›))
  | alerted moment =>
    have hne : l.stance ≠ .resting := by simp [hs]
    dsimp only
    split
    · exact .advances l.watch _ hne (.inl (Option.isSome_iff_ne_none.1 ‹_›)) rfl (by rw [hs]; rfl)
        rfl Iff.rfl
    · exact .leaves (by rw [hs]; rfl) (.inr ⟨hne, Option.not_isSome_iff_eq_none.1 ‹_›⟩)
  | holding moment =>
    have hne : l.stance ≠ .resting := by simp [hs]
    have hholds : l.stance.holds = true := by rw [hs]; rfl
    dsimp only
    split
    · exact .advances l.watch l.stance hne (.inr hholds) hholds rfl rfl Iff.rfl
    · rename_i p hp
      refine .advances (l.watch.reload p).2 _ hne (.inr hholds) ?_ ?_ rfl ?_
      · split <;> rfl
      · rw [hs]
        split <;> rfl
      · rw [hp]
        exact iff_of_false (Option.some_ne_none _) (Option.some_ne_none p)
  | telling moment =>
    have hne : l.stance ≠ .resting := by simp [hs]
    exact .advances _ (.parting moment) hne (.inr (by rw [hs]; rfl)) rfl (by rw [hs]; rfl) rfl
      Iff.rfl
  | parting moment => exact .returns moment hs

lemma dismissed_act (h : (l.act m).dismissed = false) : l.dismissed = false := by
  cases m with
  | dismiss => cases h
  | letGo => rwa [act, settle_dismissed] at h
  | share | deal =>
    rw [act] at h
    split at h <;> exact h
  | step =>
    cases hr : l.isRunning with
    | false => rwa [act, step_of_not_running hr] at h
    | true =>
      obtain ⟨last, hm⟩ := exists_of_isRunning hr
      rw [act, step_of_running hm] at h
      have hstrides := l.strides_goOn last
      generalize l.goOn last = l' at h hstrides
      cases hstrides with
      | leaves | passes | comesUpon | advances => exact h
      | returns => rwa [settle_dismissed] at h

lemma run_of_idle (h : l.step = l) (n : ℕ) : l.run (List.replicate n .step) = l := by
  induction n with
  | zero => rfl
  | succ n ih =>
    rw [List.replicate_succ, run, List.foldl_cons, act, h]
    exact ih

lemma tick_of_none (hp : l.watch.provider = none) (hasks : l.watch.asks .tick = false) :
    l.watch.tick = l.watch := by
  cases hm : l.watch.monitor with
  | none => simp only [Watch.tick, hm]
  | some m =>
    rw [Watch.asks_tick hm] at hasks
    simp only [Watch.tick, hm, Monitor.poll, ← Bool.not_and, hasks, Bool.not_false, if_true,
      Watch.fileConfig?, hp, Option.map_none]
    rw [← hp, ← hm]

lemma step_of_asks (hs : l.stance = .resting) (hd : l.dismissed = false)
    (hasks : l.watch.asks .tick = true) : (∃ last, l.watch.monitor = some ⟨last, true⟩) ∧
    l.step = { l with stance := .alerted l.watch.file.changed? } := by
  cases hm : l.watch.monitor with
  | none => simp [Watch.asks, hm] at hasks
  | some m =>
    obtain ⟨last, running⟩ := m
    rw [Watch.asks_tick hm, Bool.and_eq_true] at hasks
    obtain ⟨rfl, hlater⟩ := hasks
    refine ⟨⟨last, rfl⟩, ?_⟩
    simp only [step, hm, goOn, hs, hd, hlater, Bool.false_eq_true, if_false, if_true]

lemma step_of_not_asks (hs : l.stance = .resting) (hd : l.dismissed = false)
    (hasks : l.watch.asks .tick = false) : l.step = l := by
  cases hr : l.isRunning with
  | false => exact step_of_not_running hr
  | true =>
    obtain ⟨last, hm⟩ := exists_of_isRunning hr
    rw [Watch.asks_tick hm, Bool.true_and] at hasks
    simp only [step, hm, goOn, hs, hd, hasks, Bool.false_eq_true, if_false]

lemma run_alerted (hm : l.watch.monitor = some ⟨last, true⟩) (hd : l.dismissed = false)
    (hh : l.holders ≠ 0) {p : Provider} (hp : l.watch.provider = some p) :
    let moment := l.watch.file.changed?
    (run { l with stance := .alerted moment } [.step, .step, .step, .step]).watch =
      { (l.watch.request p).2 with monitor := some ⟨moment, true⟩ } := by
  intro moment
  obtain ⟨⟨provider, listeners, file, monitor⟩, holders, stance, dismissed⟩ := l
  dsimp only at hm hd hh hp
  subst hm hd hp
  have hlater : Monitor.isLater file.changed? file.changed? = false :=
    Bool.eq_false_iff.2 fun h => lt_irrefl _ ((isLater_iff file file.changed?).1 h)
  generalize hr : p.reload file.state = reply
  obtain ⟨r, p'⟩ := reply
  -- A reading that fails takes one step less, and then the file is looked at once more.
  cases r with
  | ok u =>
    simp [run, act, step, goOn, Watch.reload, Watch.request, Provider.request, hr, settle, hh,
      Except.isOk, Except.toBool, Except.map, moment]
  | error e =>
    simp [run, act, step, goOn, Watch.reload, Watch.request, Provider.request, hr, settle, hh,
      Except.isOk, Except.toBool, Except.map, hlater, moment]

theorem run_alone (hs : l.stance = .resting) (hd : l.dismissed = false)
    (hp : l.watch.provider = none ∨ l.holders ≠ 0 ∧ ∃ c, l.watch.provider = some (.file c)) :
    (l.run (List.replicate 5 .step)).watch = l.watch.tick := by
  cases hasks : l.watch.asks .tick with
  | false =>
    rw [run_of_idle (step_of_not_asks hs hd hasks)]
    obtain hp | ⟨-, c, hp⟩ := hp
    · exact (tick_of_none hp hasks).symm
    · exact (Watch.tick_eq_self hp hasks).symm
  | true =>
    obtain ⟨⟨last, hm⟩, hstep⟩ := step_of_asks hs hd hasks
    change (l.step.run [.step, .step, .step, .step]).watch = l.watch.tick
    rw [hstep]
    obtain hp | ⟨hh, c, hp⟩ := hp
    · rw [Watch.asks_tick hm, Bool.true_and] at hasks
      simp [run, act, step, goOn, hm, hp, leave, Watch.tick, Monitor.poll, Watch.fileConfig?, hasks]
    · rw [Watch.tick_of_asks hp hasks]
      exact run_alerted hm hd hh hp

end Lookout

end Switchboard
