import Mathlib
import Switchboard.Proofs.Provider.Protocol

/-! The watch over a configuration file, while nobody else reads the file again. -/

namespace Switchboard

def WatchedFile.moment (f : WatchedFile) : WithBot Int := f.changed?

lemma Monitor.isLater_iff (a b : Option Int) :
    isLater a b = true ↔ (show WithBot Int from b) < (show WithBot Int from a) := by
  cases a with
  | none => exact ⟨nofun, fun h => absurd h not_lt_bot⟩
  | some a =>
    cases b with
    | none => exact ⟨fun _ => WithBot.bot_lt_coe a, fun _ => rfl⟩
    | some b => exact decide_eq_true_iff.trans WithBot.coe_lt_coe.symm

lemma isGreatest_concat {seen : List (WithBot Int)} {last : WithBot Int}
    (h : IsGreatest {m | m ∈ seen} last) (m : WithBot Int) :
    IsGreatest {x | x ∈ seen ++ [m]} (max m last) := by
  have hseen : {x | x ∈ seen ++ [m]} = insert m {x | x ∈ seen} := by
    ext x
    simp [or_comm]
  rw [hseen]
  exact h.insert m

namespace Watch

structure Sighting where
  file : WatchedFile
  listener : Option Nat

namespace Dealing

def isAside : Dealing → Bool
  | stage _ | subscribeAgain _ => true
  | deed d =>
    match d with
    | .setFile _ | .takeUpdated | .subscribe | .dropListener _ | .tick => true
    | .reload | .request | .watch | .unwatch => false

end Dealing

def sighting (w : Watch) : Sighting :=
  ⟨w.file, (w.fileConfig?.bind (·.listener)).filter (w.listeners.isAlive ·)⟩

def sighted (w : Watch) : Dealing → List Sighting
  | .deed .tick => [w.sighting]
  | _ => []

def sightings (w : Watch) : List Dealing → List Sighting
  | [] => []
  | d :: ds => w.sighted d ++ (w.deal d).sightings ds

def news (seen : List (WithBot Int)) : List Sighting → List Sighting
  | [] => []
  | s :: later =>
    (if ∀ m ∈ seen, m < s.file.moment then [s] else []) ++ news (seen ++ [s.file.moment]) later

def lastRead (s : Settings) (sightings : List Sighting) : Settings :=
  ((sightings.filterMap (·.file.state.held?)).getLast?.map (·.normalized)).getD s

structure Vigil (w : Watch) (c : FileConfig) (seen : List (WithBot Int)) : Prop where
  provider : w.provider = some (.file c)
  enabled : c.updatesEnabled = true
  monitor : ∃ last, w.monitor = some ⟨last, true⟩ ∧ IsGreatest {m | m ∈ seen} last

variable {w : Watch} {c : FileConfig} {seen : List (WithBot Int)} {d : Dealing} {ds : List Dealing}

lemma sighted_of_ne (h : d ≠ .deed .tick) (w : Watch) : w.sighted d = [] := by
  rw [sighted]
  exact h

lemma news_append (seen : List (WithBot Int)) (earlier later : List Sighting) :
    news seen (earlier ++ later) =
      news seen earlier ++ news (seen ++ earlier.map (·.file.moment)) later := by
  induction earlier generalizing seen with
  | nil => rw [List.map_nil, List.append_nil]; rfl
  | cons s earlier ih => simp [news, ih]

lemma news_of_new {s : Sighting} (h : ∀ m ∈ seen, m < s.file.moment) : news seen [s] = [s] := by
  rw [news, news, if_pos h, List.append_nil]

lemma news_of_not_new {s : Sighting} (h : ¬ ∀ m ∈ seen, m < s.file.moment) :
    news seen [s] = [] := by
  rw [news, news, if_neg h, List.append_nil]

lemma lastRead_append (s : Settings) (earlier later : List Sighting) :
    lastRead s (earlier ++ later) = lastRead (lastRead s earlier) later := by
  rw [lastRead, lastRead, lastRead, List.filterMap_append, List.getLast?_append]
  cases (later.filterMap (·.file.state.held?)).getLast? <;> rfl

lemma vigil_watch (h : w.provider = some (.file c)) (hc : c.updatesEnabled = true) :
    w.watch.Vigil c [w.file.moment] := by
  refine ⟨h, hc, w.file.changed?, ?_, ?_⟩
  · simp only [watch, fileConfig?_of_provider h, Option.bind_some, Monitor.start?, hc, if_true]
  · exact ⟨List.mem_singleton_self _, fun m hm => (List.mem_singleton.1 hm).le⟩

lemma Vigil.serves (h : w.Vigil c seen) : w.Serves (.file c) := ⟨h.provider, rfl, nofun⟩

lemma Vigil.reads (h : w.Vigil c seen) : c.reads? w.file.state = w.file.state.held? := by
  rw [FileConfig.reads?, if_pos h.enabled]

lemma Vigil.asks_iff (h : w.Vigil c seen) :
    w.asks .tick = true ↔ ∀ m ∈ seen, m < w.file.moment := by
  obtain ⟨last, hm, hlast⟩ := h.monitor
  rw [asks_tick hm, Bool.true_and, Monitor.isLater_iff]
  exact hlast.lt_iff

lemma tick_of_asks (h : w.provider = some (.file c)) (hasks : w.asks .tick = true) :
    w.tick = { (w.request (.file c)).2 with monitor := some ⟨w.file.changed?, true⟩ } := by
  cases hm : w.monitor with
  | none => simp [asks, hm] at hasks
  | some m =>
    rw [asks_tick hm, Bool.and_eq_true] at hasks
    obtain ⟨hrunning, hlater⟩ := hasks
    simp only [tick, hm, Monitor.poll, hrunning, hlater, fileConfig?_of_provider h,
      FileConfig.request, request, Provider.request, Provider.reload]
    generalize c.reload w.file.state = reply
    obtain ⟨reply, c'⟩ := reply
    cases reply <;> rfl

lemma tick_eq_self (h : w.provider = some (.file c)) (hasks : w.asks .tick = false) :
    w.tick = w := by
  cases hm : w.monitor with
  | none => simp only [tick, hm]
  | some m =>
    rw [asks_tick hm] at hasks
    simp only [tick, hm, Monitor.poll, ← Bool.not_and, hasks, fileConfig?_of_provider h,
      Bool.not_false, if_true, Option.map_some]
    rw [← h, ← hm]

lemma deal_aside (h : w.provider = some (.file c)) (hd : d.isAside = true)
    (hpoll : d ≠ .deed .tick) :
    (w.deal d).monitor = w.monitor ∧ ∃ updated listener,
      (w.deal d).provider = some (.file { c with updated := updated, listener := listener }) := by
  cases d with
  | stage s => simp only [deal, stage, h]; exact ⟨trivial, _, _, rfl⟩
  | subscribeAgain i =>
    rw [deal, subscribeAgain]
    split
    · exact ⟨rfl, _, _, by rw [h]; rfl⟩
    · exact ⟨rfl, _, _, h⟩
  | deed deed =>
    have hasks : w.asks deed = false := by
      cases deed with
      | tick => exact absurd rfl hpoll
      | reload | request => cases hd
      | _ => rfl
    obtain ⟨updated, listener, -, hprovider⟩ := provider_of_not_asks h hasks
    refine ⟨?_, updated, listener, hprovider⟩
    cases deed with
    | setFile | dropListener => rfl
    | takeUpdated | subscribe => simp only [deal, act, h]; rfl
    | tick => exact absurd rfl hpoll
    | reload | request | watch | unwatch => cases hd

def Goes (w : Watch) (c : FileConfig) (seen : List (WithBot Int)) (d : Dealing) : Prop :=
  ∃ c', (w.deal d).Vigil c' (seen ++ (w.sighted d).map (·.file.moment)) ∧
    c'.settings = lastRead c.settings (news seen (w.sighted d))

lemma Vigil.goes_aside (h : w.Vigil c seen) (hd : d.isAside = true) (hpoll : d ≠ .deed .tick) :
    w.Goes c seen d := by
  obtain ⟨hmonitor, updated, listener, hprovider⟩ := deal_aside h.provider hd hpoll
  rw [Goes, sighted_of_ne hpoll, List.map_nil, List.append_nil]
  exact ⟨_, ⟨hprovider, h.enabled, hmonitor ▸ h.monitor⟩, rfl⟩

lemma Vigil.goes_tick (h : w.Vigil c seen) : w.Goes c seen (.deed .tick) := by
  obtain ⟨last, hm, hlast⟩ := h.monitor
  have hgreatest := isGreatest_concat hlast w.file.moment
  rw [Goes, deal, act, sighted, List.map_singleton]
  cases hasks : w.asks .tick with
  | false =>
    have hold : ¬ ∀ m ∈ seen, m < w.file.moment := by
      rw [← h.asks_iff, hasks]
      exact Bool.false_ne_true
    rw [max_eq_right (not_lt.1 (hlast.lt_iff.not.2 hold))] at hgreatest
    rw [tick_eq_self h.provider hasks, news_of_not_new hold]
    exact ⟨c, ⟨h.provider, h.enabled, last, hm, hgreatest⟩, rfl⟩
  | true =>
    have hnew := h.asks_iff.1 hasks
    rw [max_eq_left (hlast.lt_iff.2 hnew).le] at hgreatest
    have hmonitor : ∃ last, w.tick.monitor = some ⟨last, true⟩ ∧
        IsGreatest {m | m ∈ seen ++ [w.file.moment]} last :=
      ⟨w.file.changed?, by rw [tick_of_asks h.provider hasks], hgreatest⟩
    rw [news_of_new hnew]
    cases hread : w.file.state.held? with
    | none =>
      obtain ⟨hprovider, -⟩ := unchanged_of_not_read h.provider hasks (h.reads.trans hread)
      refine ⟨c, ⟨hprovider.trans h.provider, h.enabled, hmonitor⟩, ?_⟩
      simp [lastRead, sighting, hread]
    | some s =>
      have hprovider := provider_of_read h.provider hasks (h.reads.trans hread)
      refine ⟨_, ⟨hprovider, h.enabled, hmonitor⟩, ?_⟩
      simp [lastRead, sighting, hread]

lemma Vigil.goes (h : w.Vigil c seen) (hd : d.isAside = true) : w.Goes c seen d := by
  by_cases hpoll : d = .deed .tick
  · exact hpoll ▸ h.goes_tick
  · exact h.goes_aside hd hpoll

lemma Vigil.run (h : w.Vigil c seen) (hds : ∀ d ∈ ds, d.isAside = true) :
    ∃ c', (w.dealAll ds).Vigil c' (seen ++ (w.sightings ds).map (·.file.moment)) ∧
      c'.settings = lastRead c.settings (news seen (w.sightings ds)) := by
  induction ds generalizing w c seen with
  | nil =>
    rw [sightings, List.map_nil, List.append_nil]
    exact ⟨c, h, rfl⟩
  | cons d ds ih =>
    obtain ⟨hd, hrest⟩ := List.forall_mem_cons.1 hds
    obtain ⟨c₁, h₁, hsettings₁⟩ := h.goes hd
    obtain ⟨c₂, h₂, hsettings₂⟩ := ih h₁ hrest
    rw [sightings, List.map_append, ← List.append_assoc, news_append, lastRead_append,
      ← hsettings₁]
    exact ⟨c₂, h₂, hsettings₂⟩

def tellings (i : Nat) (sightings : List Sighting) : Nat :=
  sightings.countP fun s => s.file.state.held?.isSome && s.listener == some i

lemma tellings_append (i : Nat) (earlier later : List Sighting) :
    tellings i (earlier ++ later) = tellings i earlier + tellings i later :=
  List.countP_append

lemma Vigil.succeeds_tick (h : w.Vigil c seen) :
    w.succeeds (.deed .tick) = (w.asks .tick && w.file.state.held?.isSome) := by
  rw [succeeds, fileConfig?_of_provider h.provider, Option.any_some, ← h.reads]
  cases hread : c.reads? w.file.state with
  | none =>
    obtain ⟨e, hreload⟩ := FileConfig.reload_of_not_reads? hread
    rw [hreload]
    rfl
  | some s =>
    rw [FileConfig.reload_of_reads? hread]
    rfl

lemma sighting_listener (h : w.provider = some (.file c)) (i : Nat) :
    (w.sighting.listener == some i) = (c.listener == some i && w.listeners.isAlive i) := by
  rw [sighting, fileConfig?_of_provider h, Option.bind_some]
  cases c.listener with
  | none => rfl
  | some j =>
    by_cases hj : j = i
    · subst hj
      cases halive : w.listeners.isAlive j <;> simp [Option.filter, halive]
    · cases halive : w.listeners.isAlive j <;> simp [Option.filter, halive, hj]

lemma Vigil.hears (h : w.Vigil c seen) (hd : d.isAside = true) (i : Nat) :
    (w.hears c.listener i d).toNat = tellings i (news seen (w.sighted d)) := by
  by_cases hpoll : d = .deed .tick
  · subst hpoll
    rw [Watch.hears, h.succeeds_tick, sighted]
    cases hasks : w.asks .tick with
    | false =>
      have hold := h.asks_iff.not.1 (by rw [hasks]; exact Bool.false_ne_true)
      rw [news_of_not_new hold]
      rfl
    | true =>
      rw [news_of_new (h.asks_iff.1 hasks), tellings, List.countP_singleton,
        sighting_listener h.provider]
      simp only [Dealing.isRequest, Bool.true_and, Bool.and_assoc, Bool.toNat, cond_eq_ite]
      rfl
  · have hquiet : d.isRequest = false := by
      cases d with
      | stage | subscribeAgain => rfl
      | deed deed =>
        cases deed with
        | tick => exact absurd rfl hpoll
        | request => cases hd
        | _ => rfl
    rw [Watch.hears, hquiet, sighted_of_ne hpoll]
    rfl

lemma Vigil.calls (h : w.Vigil c seen) (hds : ∀ d ∈ ds, d.isAside = true) (i : Nat) :
    (w.dealAll ds).listeners[i]? = some none ∨
      (w.dealAll ds).listeners.calls i =
        w.listeners.calls i + tellings i (news seen (w.sightings ds)) := by
  induction ds generalizing w c seen with
  | nil => exact .inr rfl
  | cons d ds ih =>
    obtain ⟨hd, hrest⟩ := List.forall_mem_cons.1 hds
    obtain ⟨c₁, h₁, -⟩ := h.goes hd
    obtain ⟨p', hdealt⟩ := h.serves.dealt d
    obtain hdropped | hcalls := hdealt.calls i
    · exact .inl (h₁.serves.dropped ds hdropped)
    · refine (ih h₁ hrest).imp_right fun hlater => hlater.trans ?_
      rw [hcalls, sightings, news_append, tellings_append, ← h.hears hd i, Nat.add_assoc]
      rfl

lemma Vigil.tick_of_old (h : w.Vigil c seen) {m : WithBot Int} (hm : m ∈ seen)
    (hold : w.file.moment ≤ m) : w.tick = w := by
  refine tick_eq_self h.provider (Bool.eq_false_iff.2 fun hasks => ?_)
  exact absurd (h.asks_iff.1 hasks m hm) (not_lt.2 hold)

lemma sightings_append (w : Watch) (earlier later : List Dealing) :
    w.sightings (earlier ++ later) =
      w.sightings earlier ++ (w.dealAll earlier).sightings later := by
  induction earlier generalizing w with
  | nil => rfl
  | cons d earlier ih => rw [List.cons_append, sightings, sightings, ih, List.append_assoc]; rfl

lemma unwatched (h : w.provider = some (.file c)) (hm : w.monitor = none)
    (hds : ∀ d ∈ ds, d.isAside = true) : (w.dealAll ds).tick = w.dealAll ds := by
  induction ds generalizing w c with
  | nil => simp only [dealAll, List.foldl_nil, tick, hm]
  | cons d ds ih =>
    obtain ⟨hd, hrest⟩ := List.forall_mem_cons.1 hds
    by_cases hpoll : d = .deed .tick
    · have hidle : w.deal d = w := by simp only [hpoll, deal, act, tick, hm]
      rw [← hidle] at h hm
      exact ih h hm hrest
    · obtain ⟨hmonitor, updated, listener, hprovider⟩ := deal_aside h hd hpoll
      exact ih hprovider (hmonitor.trans hm) hrest

end Watch

open Watch in
theorem watch_heeds_newer_files {w : Watch} {c : FileConfig} (h : w.provider = some (.file c))
    {ds : List Dealing} (hds : ∀ d ∈ ds, d.isAside = true) :
    let w' := w.watch.dealAll ds
    let polls := w.watch.sightings ds
    let news := Watch.news [w.file.moment] polls
    (c.updatesEnabled = false → w.watch.monitor = none ∧ w'.tick = w') ∧
    (c.updatesEnabled = true → ∃ c', w'.provider = some (.file c') ∧
      (w'.asks .tick = true ↔
        ∀ m ∈ w.file.moment :: polls.map (·.file.moment), m < w'.file.moment) ∧
      (w'.asks .tick = true → w'.tick =
        { (w'.request (.file c')).2 with monitor := some ⟨w'.file.changed?, true⟩ }) ∧
      (w'.asks .tick = false → w'.tick = w') ∧
      c'.settings = ((news.filterMap (·.file.state.held?)).getLast?.map (·.normalized)).getD
        c.settings ∧
      (∀ i n, w'.listeners[i]? = some (some n) → n = w.listeners.calls i +
        news.countP fun s => s.file.state.held?.isSome && s.listener == some i) ∧
      ∀ before after, ds = before ++ .deed .tick :: after →
        w'.file.moment ≤ (w.watch.dealAll before).file.moment → w'.tick = w') := by
  intro w' polls news
  refine ⟨fun hc => ?_, fun hc => ?_⟩
  · have hm : w.watch.monitor = none := by
      simp [watch, fileConfig?_of_provider h, Monitor.start?, hc]
    exact ⟨hm, unwatched h hm hds⟩
  · have hfirst := vigil_watch h hc
    obtain ⟨c', hlast, hsettings⟩ := hfirst.run hds
    refine ⟨c', hlast.provider, hlast.asks_iff, tick_of_asks hlast.provider,
      tick_eq_self hlast.provider, hsettings, ?_, ?_⟩
    · intro i n hi
      obtain hdropped | hcalls := hfirst.calls hds i
      · cases hi.symm.trans hdropped
      · rw [Listeners.calls, hi] at hcalls
        exact hcalls
    · rintro before after rfl hold
      refine hlast.tick_of_old ?_ hold
      rw [sightings_append, sightings, sighted]
      simp [sighting]

theorem watch_heeds_newer_files_unless_as_old :
    let w : Watch := ⟨some (.file ⟨"base.json", .initial, false, true, some 0⟩), [some 0],
      ⟨.absent, 0⟩, none⟩
    let ds : List Watch.Dealing :=
      [.deed (.setFile ⟨.ofText "[4,5,2,15]", 5⟩), .deed .tick, .deed (.setFile ⟨.folder, 7⟩),
        .deed .tick, .deed (.setFile ⟨.ofText "[6,9,3,20]", 7⟩)]
    let w' := w.watch.dealAll ds
    (∀ d ∈ ds, d.isAside = true) ∧ w'.listeners = [some 1] ∧ w'.tick = w' ∧
      ∃ c, w'.provider = some (.file c) ∧ c.settings = ⟨4, 5, 2, 15⟩ := by
  intro w ds w'
  have hds : ∀ d ∈ ds, d.isAside = true := by simp [ds, Watch.Dealing.isAside]
  obtain ⟨-, hwatched⟩ := watch_heeds_newer_files (w := w) rfl hds
  obtain ⟨c, hprovider, -, -, -, hsettings, -, hold⟩ := hwatched rfl
  refine ⟨hds, rfl, ?_, c, hprovider, hsettings.trans rfl⟩
  exact hold (ds.take 3) (ds.drop 4) rfl (le_refl ((7 : Int) : WithBot Int))

end Switchboard
