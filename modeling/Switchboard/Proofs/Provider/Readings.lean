import Switchboard.Provider.Watch
import Switchboard.Proofs.Settings.Normal

/-! The settings of a file over any history of the file. They follow the document that was read
last, and a file that could not be used at the beginning is never looked at again. -/

namespace Switchboard

namespace FileState

variable {f : FileState} {s : Settings}

def held? : FileState → Option Settings
  | content bytes =>
    (String.fromUTF8? bytes).bind fun text => (Settings.ofDocument text.toList).toOption
  | _ => none

lemma readSettings_of_held? (h : f.held? = some s) : f.readSettings = .ok s.normalized := by
  cases f with
  | absent | folder => cases h
  | content bytes =>
    obtain ⟨text, htext, hs⟩ := Option.bind_eq_some_iff.1 h
    have hread : (content bytes).readText = .ok text := by simp only [readText, htext]
    have hdocument : Settings.ofDocument text.toList = .ok s := by
      cases hof : Settings.ofDocument text.toList with
      | error e =>
        rw [hof] at hs
        cases hs
      | ok s' =>
        rw [hof] at hs
        cases hs
        rfl
    simp only [readSettings, hread, hdocument]

lemma readSettings_of_not_held? (h : f.held? = none) : ∃ e, f.readSettings = .error e := by
  cases f with
  | absent | folder => exact ⟨_, rfl⟩
  | content bytes =>
    rw [readSettings, readText]
    cases htext : String.fromUTF8? bytes with
    | none => exact ⟨_, rfl⟩
    | some text =>
      dsimp only
      rw [held?, htext] at h
      cases hof : Settings.ofDocument text.toList with
      | error e => exact ⟨_, rfl⟩
      | ok s =>
        rw [Option.bind_some, hof] at h
        cases h

end FileState

namespace FileConfig

variable {c : FileConfig} {f : FileState} {s : Settings}

def reads? (c : FileConfig) (f : FileState) : Option Settings :=
  if c.updatesEnabled then f.held? else none

lemma reload_of_reads? (h : c.reads? f = some s) :
    c.reload f = (.ok (), { c with settings := s.normalized, updated := true }) := by
  rw [reads?] at h
  split at h
  · rw [reload, if_pos ‹_›, FileState.readSettings_of_held? h]
  · cases h

lemma reload_of_not_reads? (h : c.reads? f = none) : ∃ e, c.reload f = (.error e, c) := by
  rw [reads?] at h
  split at h
  · obtain ⟨e, he⟩ := FileState.readSettings_of_not_held? h
    exact ⟨e, by rw [reload, if_pos ‹_›, he]⟩
  · exact ⟨_, by rw [reload, if_neg ‹_›]⟩

lemma settings_load (path : String) (f : FileState) :
    (load path f).settings = (f.held?.map (·.normalized)).getD .initial := by
  rw [load]
  cases h : f.held? with
  | none =>
    obtain ⟨e, he⟩ := FileState.readSettings_of_not_held? h
    rw [he]
    rfl
  | some s =>
    rw [FileState.readSettings_of_held? h]
    rfl

lemma load_of_not_held? (path : String) (h : f.held? = none) :
    load path f = ⟨path, .initial, false, false, none⟩ := by
  obtain ⟨e, he⟩ := FileState.readSettings_of_not_held? h
  rw [load, he]

end FileConfig

namespace Watch

inductive Deed
  | setFile (file : WatchedFile)
  | reload
  | request
  | takeUpdated
  | subscribe
  | dropListener (i : Nat)
  | watch
  | unwatch
  | tick

def act (w : Watch) : Deed → Watch
  | .setFile file => w.setFile file
  | .reload => w.provider.elim w fun p => (w.reload p).2
  | .request => w.provider.elim w fun p => (w.request p).2
  | .takeUpdated => w.provider.elim w fun p => (w.takeUpdated p).2
  | .subscribe => w.provider.elim w fun p => (w.subscribe p).2
  | .dropListener i => w.dropListener i
  | .watch => w.watch
  | .unwatch => w.unwatch
  | .tick => w.tick

def run (w : Watch) (deeds : List Deed) : Watch := deeds.foldl act w

def reply? (w : Watch) : Deed → Option (Except DispatchError Unit)
  | .reload => w.provider.map fun p => (w.reload p).1
  | .request => w.provider.map fun p => (w.request p).1
  | _ => none

def asks (w : Watch) : Deed → Bool
  | .reload | .request => true
  | .tick => w.monitor.any fun m => m.running && Monitor.isLater w.file.changed? m.lastChange
  | _ => false

def reading? (w : Watch) (deed : Deed) : Option Settings :=
  if w.asks deed then w.fileConfig?.bind (·.reads? w.file.state) else none

def readings (w : Watch) : List Deed → List Settings
  | [] => []
  | deed :: deeds => (w.reading? deed).toList ++ (w.act deed).readings deeds

variable {w : Watch} {c : FileConfig} {deed : Deed} {s : Settings}

lemma fileConfig?_of_provider (h : w.provider = some (.file c)) : w.fileConfig? = some c := by
  rw [fileConfig?, h]

lemma reading?_of_asks (h : w.provider = some (.file c)) (hasks : w.asks deed = true) :
    w.reading? deed = c.reads? w.file.state := by
  rw [reading?, if_pos hasks, fileConfig?_of_provider h, Option.bind_some]

lemma reading?_of_not_asks (hasks : w.asks deed = false) : w.reading? deed = none := by
  rw [reading?, hasks]
  rfl

lemma asks_tick {m : Monitor} (hm : w.monitor = some m) :
    w.asks .tick = (m.running && Monitor.isLater w.file.changed? m.lastChange) := by
  rw [asks, hm]
  rfl

lemma tick_of_not_asks (h : w.provider = some (.file c)) (hasks : w.asks .tick = false) :
    w.tick.provider = w.provider ∧ w.tick.listeners = w.listeners := by
  cases hm : w.monitor with
  | none => simp only [tick, hm, and_self]
  | some m =>
    rw [asks_tick hm] at hasks
    simp only [tick, hm, Monitor.poll, fileConfig?_of_provider h, ← Bool.not_and, hasks, h]
    exact ⟨rfl, rfl⟩

lemma provider_of_read (h : w.provider = some (.file c)) (hasks : w.asks deed = true)
    (hread : c.reads? w.file.state = some s) :
    (w.act deed).provider = some (.file { c with settings := s.normalized, updated := true }) := by
  have hreload := FileConfig.reload_of_reads? hread
  cases deed with
  | reload => simp only [act, h, Option.elim, reload, Provider.reload, hreload]
  | request =>
    simp only [act, h, Option.elim, request, Provider.request, Provider.reload, hreload]
    rfl
  | tick =>
    cases hm : w.monitor with
    | none => simp [asks, hm] at hasks
    | some m =>
      rw [asks_tick hm, Bool.and_eq_true] at hasks
      simp only [act, tick, hm, Monitor.poll, fileConfig?_of_provider h, FileConfig.request,
        hreload, hasks]
      rfl
  | setFile | takeUpdated | subscribe | dropListener | watch | unwatch => cases hasks

lemma unchanged_of_not_read (h : w.provider = some (.file c)) (hasks : w.asks deed = true)
    (hread : c.reads? w.file.state = none) :
    (w.act deed).provider = w.provider ∧ (w.act deed).listeners = w.listeners := by
  obtain ⟨e, hreload⟩ := FileConfig.reload_of_not_reads? hread
  cases deed with
  | reload => simp only [act, h, Option.elim, reload, Provider.reload, hreload, and_self]
  | request =>
    simp only [act, h, Option.elim, request, Provider.request, Provider.reload, hreload]
    exact ⟨rfl, rfl⟩
  | tick =>
    cases hm : w.monitor with
    | none => simp [asks, hm] at hasks
    | some m =>
      rw [asks_tick hm, Bool.and_eq_true] at hasks
      simp only [act, tick, hm, Monitor.poll, fileConfig?_of_provider h, FileConfig.request,
        hreload, hasks, h]
      exact ⟨rfl, rfl⟩
  | setFile | takeUpdated | subscribe | dropListener | watch | unwatch => cases hasks

lemma provider_of_not_asks (h : w.provider = some (.file c)) (hasks : w.asks deed = false) :
    ∃ updated listener, (updated = true → c.updated = true) ∧
      (w.act deed).provider = some (.file { c with updated := updated, listener := listener }) := by
  cases deed with
  | reload | request => cases hasks
  | setFile | dropListener | watch | unwatch => exact ⟨c.updated, c.listener, id, h⟩
  | takeUpdated =>
    refine ⟨false, c.listener, nofun, ?_⟩
    simp only [act, h]
    rfl
  | subscribe =>
    refine ⟨c.updated, some w.listeners.length, id, ?_⟩
    simp only [act, h]
    rfl
  | tick => exact ⟨c.updated, c.listener, id, (tick_of_not_asks h hasks).1.trans h⟩

lemma mem_listeners_of_not_asks (h : w.provider = some (.file c)) (hasks : w.asks deed = false)
    {n : Nat} (hn : some n ∈ (w.act deed).listeners) : some n ∈ w.listeners ∨ n = 0 := by
  cases deed with
  | reload | request => cases hasks
  | setFile | watch | unwatch => exact .inl hn
  | takeUpdated =>
    simp only [act, h] at hn
    exact .inl hn
  | subscribe =>
    simp only [act, h, Option.elim, subscribe, Listeners.add, List.mem_append,
      List.mem_singleton, Option.some.injEq] at hn
    exact hn
  | dropListener i =>
    simp only [act, dropListener, Listeners.drop] at hn
    exact .inl ((List.mem_or_eq_of_mem_set hn).resolve_right nofun)
  | tick => exact .inl ((tick_of_not_asks h hasks).2 ▸ hn)

lemma settings_act (h : w.provider = some (.file c)) (deed : Deed) :
    ∃ c', (w.act deed).provider = some (.file c') ∧
      c'.settings = ((w.reading? deed).map (·.normalized)).getD c.settings := by
  cases hasks : w.asks deed with
  | false =>
    obtain ⟨updated, listener, -, hprovider⟩ := provider_of_not_asks h hasks
    exact ⟨_, hprovider, by rw [reading?_of_not_asks hasks]; rfl⟩
  | true =>
    rw [reading?_of_asks h hasks]
    cases hread : c.reads? w.file.state with
    | none => exact ⟨c, (unchanged_of_not_read h hasks hread).1.trans h, rfl⟩
    | some s => exact ⟨_, provider_of_read h hasks hread, rfl⟩

lemma settings_run (h : w.provider = some (.file c)) (deeds : List Deed) :
    ∃ c', (w.run deeds).provider = some (.file c') ∧
      c'.settings = ((w.readings deeds).getLast?.map (·.normalized)).getD c.settings := by
  induction deeds generalizing w c with
  | nil => exact ⟨c, h, rfl⟩
  | cons deed deeds ih =>
    obtain ⟨c₁, hprovider₁, hsettings₁⟩ := settings_act h deed
    obtain ⟨c₂, hprovider₂, hsettings₂⟩ := ih hprovider₁
    refine ⟨c₂, hprovider₂, ?_⟩
    rw [hsettings₂, hsettings₁, readings, List.getLast?_append]
    cases (w.act deed).readings deeds |>.getLast? with
    | some s => rfl
    | none => cases w.reading? deed <;> rfl

lemma reply_eq (h : w.provider = some (.file c)) {r : Except DispatchError Unit}
    (hr : w.reply? deed = some r) : w.asks deed = true ∧ r = (c.reload w.file.state).1 := by
  cases deed with
  | reload =>
    simp only [reply?, h, Option.map_some, Option.some.injEq] at hr
    exact ⟨rfl, hr.symm⟩
  | request =>
    simp only [reply?, h, Option.map_some, Option.some.injEq, request, Provider.request,
      Provider.reload] at hr
    refine ⟨rfl, hr.symm.trans ?_⟩
    cases (c.reload w.file.state).1 <;> rfl
  | setFile | takeUpdated | subscribe | dropListener | watch | unwatch | tick => cases hr

lemma reply_iff (h : w.provider = some (.file c)) {r : Except DispatchError Unit}
    (hr : w.reply? deed = some r) : r = .ok () ↔ (w.reading? deed).isSome := by
  obtain ⟨hasks, rfl⟩ := reply_eq h hr
  rw [reading?_of_asks h hasks]
  cases hread : c.reads? w.file.state with
  | none =>
    obtain ⟨e, hreload⟩ := FileConfig.reload_of_not_reads? hread
    rw [hreload]
    exact ⟨nofun, nofun⟩
  | some s =>
    rw [FileConfig.reload_of_reads? hread]
    exact ⟨fun _ => rfl, fun _ => rfl⟩

structure Closed (path : String) (w : Watch) : Prop where
  provider : ∃ listener, w.provider = some (.file ⟨path, .initial, false, false, listener⟩)
  listeners : ∀ n, some n ∈ w.listeners → n = 0

variable {path : String}

lemma Closed.act (h : w.Closed path) (deed : Deed) : (w.act deed).Closed path := by
  obtain ⟨⟨listener, hprovider⟩, hlisteners⟩ := h
  cases hasks : w.asks deed with
  | true =>
    obtain ⟨hprovider', hlisteners'⟩ := unchanged_of_not_read hprovider hasks rfl
    exact ⟨⟨listener, hprovider'.trans hprovider⟩, hlisteners' ▸ hlisteners⟩
  | false =>
    obtain ⟨updated, listener', hupdated, hprovider'⟩ := provider_of_not_asks hprovider hasks
    have hdown : updated = false := Bool.not_eq_true _ ▸ fun hup => nomatch hupdated hup
    subst hdown
    refine ⟨⟨listener', hprovider'⟩, fun n hn => ?_⟩
    exact (mem_listeners_of_not_asks hprovider hasks hn).elim (hlisteners n) id

lemma Closed.run (h : w.Closed path) (deeds : List Deed) : (w.run deeds).Closed path := by
  induction deeds generalizing w with
  | nil => exact h
  | cons deed deeds ih => exact ih (h.act deed)

lemma Closed.reply (h : w.Closed path) {r : Except DispatchError Unit}
    (hr : w.reply? deed = some r) :
    r = .error (.config s!"updates disabled: {path} was unreadable at startup") := by
  obtain ⟨listener, hprovider⟩ := h.provider
  exact (reply_eq hprovider hr).2

lemma closed_ofFile {file : WatchedFile} (path : String) (h : file.state.held? = none) :
    (ofFile (.load path file.state) file).Closed path := by
  rw [FileConfig.load_of_not_held? path h]
  exact ⟨⟨none, rfl⟩, nofun⟩

end Watch

theorem settings_follow_the_last_reading (path : String) (file : WatchedFile)
    (deeds : List Watch.Deed) :
    let first := Watch.ofFile (.load path file.state) file
    let w := first.run deeds
    ∃ c, w.provider = some (.file c) ∧ c.settings.InRange ∧
      c.settings = ((file.state.held?.toList ++ first.readings deeds).getLast?.map
        (·.normalized)).getD .initial ∧
      (∀ deed, w.asks deed = true → w.reading? deed = none →
        (w.act deed).provider = w.provider ∧ (w.act deed).listeners = w.listeners) ∧
      (∀ deed r, w.reply? deed = some r → (r = .ok () ↔ (w.reading? deed).isSome)) ∧
      (file.state.held? = none →
        c.settings = .initial ∧ c.updated = false ∧ (∀ n, some n ∈ w.listeners → n = 0) ∧
        ∀ deed r, w.reply? deed = some r →
          r = .error (.config s!"updates disabled: {path} was unreadable at startup")) := by
  intro first w
  obtain ⟨c, hprovider, hsettings⟩ := Watch.settings_run (w := first) rfl deeds
  have hlast : c.settings = ((file.state.held?.toList ++ first.readings deeds).getLast?.map
      (·.normalized)).getD .initial := by
    rw [hsettings, FileConfig.settings_load, List.getLast?_append]
    cases (first.readings deeds).getLast? with
    | some s => rfl
    | none => cases file.state.held? <;> rfl
  refine ⟨c, hprovider, ?_, hlast, ?_, fun deed r hr => Watch.reply_iff hprovider hr, ?_⟩
  · rw [hlast]
    cases (file.state.held?.toList ++ first.readings deeds).getLast? with
    | none => exact Settings.inRange_initial
    | some s => exact Settings.inRange_normalized s
  · intro deed hasks hread
    rw [Watch.reading?_of_asks hprovider hasks] at hread
    exact Watch.unchanged_of_not_read hprovider hasks hread
  · intro hfirst
    have hclosed : w.Closed path := (Watch.closed_ofFile path hfirst).run deeds
    obtain ⟨listener, hprovider'⟩ := hclosed.provider
    obtain rfl : c = ⟨path, .initial, false, false, listener⟩ := by
      cases hprovider.symm.trans hprovider'
      rfl
    exact ⟨rfl, rfl, hclosed.listeners, fun deed r hr => hclosed.reply hr⟩

end Switchboard
