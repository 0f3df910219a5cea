import Mathlib.Data.List.Induction
import Switchboard.Proofs.Provider.Readings

/-! What providers of settings have in common, from memory or from a file. The mark, the settings in
force and the numbers that listeners were told are each a function of the history. -/

namespace Switchboard

namespace Listeners

def calls (ls : Listeners) (i : Nat) : Nat := (ls[i]?.join).getD 0

def isAlive (ls : Listeners) (i : Nat) : Bool := (ls[i]?.join).isSome

lemma calls_tellSome (ls : Listeners) (told : Option Nat) (i : Nat) :
    (ls.tellSome told).calls i = ls.calls i + (told == some i && ls.isAlive i).toNat := by
  cases told with
  | none => rfl
  | some j =>
    rw [calls, calls, isAlive, tellSome, tell, List.getElem?_modify]
    by_cases hj : j = i
    · subst hj
      cases ls[j]? with
      | none => simp
      | some o => cases o <;> simp
    · cases ls[i]? <;> simp [hj]

lemma length_tellSome (ls : Listeners) (told : Option Nat) :
    List.length (ls.tellSome told) = List.length ls := by
  cases told with
  | none => rfl
  | some j => exact List.length_modify _ _ _

lemma tellSome_eq_none (ls : Listeners) (told : Option Nat) (i : Nat) :
    (ls.tellSome told)[i]? = some none ↔ ls[i]? = some none := by
  cases told with
  | none => exact Iff.rfl
  | some j =>
    rw [tellSome, tell, List.getElem?_modify]
    by_cases hj : j = i <;> cases ls[i]? <;> simp [hj]

lemma drop_eq_none (ls : Listeners) (j i : Nat) :
    (ls.drop j)[i]? = some none ↔ ls[i]? = some none ∨ j = i ∧ i < ls.length := by
  rw [drop, List.getElem?_set]
  by_cases hj : j = i
  · subst hj
    by_cases hlt : j < ls.length
    · simp [hlt]
    · simp [hlt]
  · simp [hj]

lemma add_eq_none (ls : Listeners) (i : Nat) :
    (ls ++ [some 0])[i]? = some none ↔ ls[i]? = some none := by
  obtain hlt | rfl | hgt := Nat.lt_trichotomy i ls.length
  · rw [List.getElem?_append_left hlt]
  · simp
  · rw [List.getElem?_eq_none (by simp; omega), List.getElem?_eq_none (Nat.le_of_lt hgt)]

lemma calls_add (ls : Listeners) (i : Nat) : Listeners.calls (ls ++ [some 0]) i = ls.calls i := by
  rw [calls, calls]
  obtain hlt | rfl | hgt := Nat.lt_trichotomy i ls.length
  · rw [List.getElem?_append_left hlt]
  · simp
  · rw [List.getElem?_eq_none (by simp; omega), List.getElem?_eq_none (Nat.le_of_lt hgt)]

lemma drop_cases (ls : Listeners) (i j : Nat) :
    (ls.drop j)[i]? = some none ∨ (ls.drop j).calls i = ls.calls i := by
  rw [calls, calls, drop, List.getElem?_set]
  by_cases hj : j = i
  · subst hj
    by_cases hlt : j < ls.length
    · simp [hlt]
    · simp [hlt]
  · simp [hj]

end Listeners

namespace Provider

def updated : Provider → Bool
  | fixed c => c.updated
  | file c => c.updated
  | shifting .. => true

def next? : Provider → FileState → Option Settings
  | fixed c, _ => some c.staged
  | file _, f => f.held?.map (·.normalized)
  | shifting .., _ => none

def plan? : Provider → Option (Settings × Bool)
  | fixed c => some (c.staged, c.readOnly)
  | _ => none

def isFixed (p : Provider) : Bool := p.plan?.isSome

def isFile : Provider → Bool
  | file _ => true
  | _ => false

structure Becomes (p p' : Provider) (staged : Option Settings) (mark : Bool)
    (listener : Option Nat) : Prop where
  isFile : p'.isFile = p.isFile
  plan : p'.plan? = p.plan?.map fun (s, readOnly) => (staged.getD s, readOnly)
  updated : p'.updated = mark
  listener : p'.listener = listener

variable {p : Provider}

lemma becomes_self (p : Provider) : p.Becomes p none p.updated p.listener :=
  ⟨rfl, Option.map_id'.symm, rfl, rfl⟩

lemma next?_of_reads? {c : FileConfig} {f : FileState} {s : Settings} (h : c.reads? f = some s) :
    (file c).next? f = some s.normalized := by
  rw [FileConfig.reads?] at h
  split at h
  · rw [next?, h, Option.map_some]
  · cases h

lemma reload_cases (hp : p.isFixed || p.isFile) (f : FileState) :
    (∃ p', p.reload f = (.ok (), p') ∧ p.Becomes p' none true p.listener ∧
      p.next? f = some p'.settings.1) ∨
    ∃ e, p.reload f = (.error e, p) := by
  cases p with
  | shifting => cases hp
  | fixed c =>
    by_cases hc : c.readOnly = true
    · exact .inr ⟨.config "updates disabled", by simp only [reload, FixedConfig.reload, if_pos hc]⟩
    · refine .inl ⟨.fixed { c with settings := c.staged, updated := true }, ?_,
        ⟨rfl, rfl, rfl, rfl⟩, rfl⟩
      simp only [reload, FixedConfig.reload, if_neg hc]
  | file c =>
    cases hread : c.reads? f with
    | none =>
      obtain ⟨e, he⟩ := FileConfig.reload_of_not_reads? hread
      exact .inr ⟨e, by simp only [reload, he]⟩
    | some s =>
      refine .inl ⟨.file { c with settings := s.normalized, updated := true }, ?_,
        ⟨rfl, rfl, rfl, rfl⟩, ?_⟩
      · simp only [reload, FileConfig.reload_of_reads? hread]
      · exact next?_of_reads? hread

lemma takeUpdated_spec (hp : p.isFixed || p.isFile) :
    p.takeUpdated.1 = p.updated ∧ p.Becomes p.takeUpdated.2 none false p.listener ∧
      p.takeUpdated.2.settings.1 = p.settings.1 := by
  cases p with
  | shifting => cases hp
  | fixed | file => exact ⟨rfl, ⟨rfl, rfl, rfl, rfl⟩, rfl⟩

lemma subscribe_spec (hp : p.isFixed || p.isFile) (i : Nat) :
    p.Becomes (p.subscribe i) none p.updated (some i) ∧
      (p.subscribe i).settings.1 = p.settings.1 := by
  cases p with
  | shifting => cases hp
  | fixed | file => exact ⟨⟨rfl, rfl, rfl, rfl⟩, rfl⟩

end Provider

namespace Watch

inductive Dealing
  | stage (s : Settings)
  | subscribeAgain (i : Nat)
  | deed (d : Deed)

def subscribeAgain (w : Watch) (i : Nat) : Watch :=
  if i < w.listeners.length then { w with provider := w.provider.map (·.subscribe i) } else w

def deal (w : Watch) : Dealing → Watch
  | .stage s => w.stage s
  | .subscribeAgain i => w.subscribeAgain i
  | .deed d => w.act d

def dealAll (w : Watch) (ds : List Dealing) : Watch := ds.foldl deal w

def succeeds (w : Watch) : Dealing → Bool
  | .deed .tick => w.asks .tick && w.fileConfig?.any fun c => (c.reload w.file.state).1.isOk
  | .deed d => (w.reply? d).any (·.isOk)
  | _ => false

namespace Dealing

def takesMark : Dealing → Bool
  | deed .takeUpdated => true
  | _ => false

def isRequest : Dealing → Bool
  | deed .request | deed .tick => true
  | _ => false

def isSubscription : Dealing → Bool
  | deed .subscribe => true
  | _ => false

def staged? : Dealing → Option Settings
  | stage s => some s
  | _ => none

def latest? (n : Nat) (latest : Option Nat) : Dealing → Option Nat
  | deed .subscribe => some n
  | subscribeAgain i => if i < n then some i else latest
  | _ => latest

end Dealing

def hears (w : Watch) (latest : Option Nat) (i : Nat) (d : Dealing) : Bool :=
  d.isRequest && w.succeeds d && latest == some i && w.listeners.isAlive i

def hearings (i : Nat) : Watch → Option Nat → List Dealing → Nat
  | _, _, [] => 0
  | w, latest, d :: ds =>
    (w.hears latest i d).toNat +
      hearings i (w.deal d) (d.latest? w.listeners.length latest) ds

structure Serves (w : Watch) (p : Provider) : Prop where
  provider : w.provider = some p
  kind : p.isFixed || p.isFile
  monitor : p.isFixed → w.monitor = none

def Dealing.onListeners (told : Option Nat) (ls : Listeners) : Dealing → Listeners
  | deed .subscribe => ls ++ [some 0]
  | deed (.dropListener i) => ls.drop i
  | _ => ls.tellSome told

structure Dealt (w : Watch) (d : Dealing) (p p' : Provider) : Prop where
  provider : (w.deal d).provider = some p'
  becomes : p.Becomes p' d.staged? (w.succeeds d || (p.updated && !d.takesMark))
    (d.latest? w.listeners.length p.listener)
  monitor : p.isFixed → (w.deal d).monitor = none
  listeners : (w.deal d).listeners =
    d.onListeners (if d.isRequest && w.succeeds d then p.listener else none) w.listeners
  reloaded : w.succeeds d = true → p.next? w.file.state = some p'.settings.1
  settled : w.succeeds d = false → p'.settings.1 = p.settings.1

variable {w : Watch} {d : Dealing} {p p' : Provider}

lemma dealt_of_success (hs : w.succeeds d = true) (hprovider : (w.deal d).provider = some p')
    (hbecomes : p.Becomes p' d.staged? true (d.latest? w.listeners.length p.listener))
    (hmonitor : p.isFixed → (w.deal d).monitor = none)
    (hlisteners : (w.deal d).listeners =
      d.onListeners (if d.isRequest then p.listener else none) w.listeners)
    (hnext : p.next? w.file.state = some p'.settings.1) : w.Dealt d p p' where
  provider := hprovider
  becomes := by rwa [hs, Bool.true_or]
  monitor := hmonitor
  listeners := by rwa [hs, Bool.and_true]
  reloaded _ := hnext
  settled hs' := by rw [hs] at hs'; cases hs'

lemma dealt_of_failure (hs : w.succeeds d = false) (hprovider : (w.deal d).provider = some p')
    (hbecomes : p.Becomes p' d.staged? (p.updated && !d.takesMark)
      (d.latest? w.listeners.length p.listener))
    (hmonitor : p.isFixed → (w.deal d).monitor = none)
    (hlisteners : (w.deal d).listeners = d.onListeners none w.listeners)
    (hsettings : p'.settings.1 = p.settings.1) : w.Dealt d p p' where
  provider := hprovider
  becomes := by rwa [hs, Bool.false_or]
  monitor := hmonitor
  listeners := by rwa [hs, Bool.and_false]
  reloaded hs' := by rw [hs] at hs'; cases hs'
  settled _ := hsettings

lemma Serves.succeeded {ls : Listeners} (h : w.Serves p) (hs : w.succeeds d = true)
    (hdeal : w.deal d = { w with provider := some p', listeners := ls })
    (hbecomes : p.Becomes p' d.staged? true (d.latest? w.listeners.length p.listener))
    (hlisteners : ls = d.onListeners (if d.isRequest then p.listener else none) w.listeners)
    (hnext : p.next? w.file.state = some p'.settings.1) : w.Dealt d p p' :=
  dealt_of_success hs (by rw [hdeal]) hbecomes (by rw [hdeal]; exact h.monitor)
    (by rw [hdeal]; exact hlisteners) hnext

lemma Serves.failed {ls : Listeners} (h : w.Serves p) (hs : w.succeeds d = false)
    (hdeal : w.deal d = { w with provider := some p', listeners := ls })
    (hbecomes : p.Becomes p' d.staged? (p.updated && !d.takesMark)
      (d.latest? w.listeners.length p.listener))
    (hlisteners : ls = d.onListeners none w.listeners)
    (hsettings : p'.settings.1 = p.settings.1) : w.Dealt d p p' :=
  dealt_of_failure hs (by rw [hdeal]) hbecomes (by rw [hdeal]; exact h.monitor)
    (by rw [hdeal]; exact hlisteners) hsettings

lemma becomes_updated (p : Provider) : p.Becomes p none (p.updated && true) p.listener := by
  rw [Bool.and_true]
  exact p.becomes_self

lemma Serves.reload (h : w.Serves p) : ∃ p', w.Dealt (.deed .reload) p p' := by
  have hdeal : w.deal (.deed .reload) = (w.reload p).2 := by
    simp only [deal, act, h.provider, Option.elim]
  have hsucceeds : w.succeeds (.deed .reload) = (p.reload w.file.state).1.isOk := by
    simp only [succeeds, reply?, h.provider, Option.map_some, Option.any_some, Watch.reload]
  obtain ⟨p', hreload, hbecomes, hnext⟩ | ⟨e, hreload⟩ := p.reload_cases h.kind w.file.state
  all_goals rw [hreload] at hsucceeds
  all_goals simp only [Watch.reload, hreload] at hdeal
  · exact ⟨p', h.succeeded hsucceeds hdeal hbecomes rfl hnext⟩
  · exact ⟨p, h.failed hsucceeds hdeal (becomes_updated p) rfl rfl⟩

lemma Serves.request (h : w.Serves p) : ∃ p', w.Dealt (.deed .request) p p' := by
  have hdeal : w.deal (.deed .request) = (w.request p).2 := by
    simp only [deal, act, h.provider, Option.elim]
  have hsucceeds : w.succeeds (.deed .request) = (w.request p).1.isOk := by
    simp only [succeeds, reply?, h.provider, Option.map_some, Option.any_some]
  obtain ⟨p', hreload, hbecomes, hnext⟩ | ⟨e, hreload⟩ := p.reload_cases h.kind w.file.state
  all_goals simp only [Watch.request, Provider.request, hreload, Except.map] at hdeal hsucceeds
  · refine ⟨p', h.succeeded hsucceeds hdeal hbecomes ?_ hnext⟩
    rw [hbecomes.listener]
    rfl
  · exact ⟨p, h.failed hsucceeds hdeal (becomes_updated p) rfl rfl⟩

lemma Serves.tick_idle (h : w.Serves p) (hasks : w.asks .tick = false)
    (htick : w.tick.provider = w.provider ∧ w.tick.listeners = w.listeners) :
    ∃ p', w.Dealt (.deed .tick) p p' := by
  have hmonitor : p.isFixed → w.tick.monitor = none := by
    intro hp
    simp only [tick, h.monitor hp]
  exact ⟨p, dealt_of_failure (by rw [succeeds, hasks, Bool.false_and])
    (htick.1.trans h.provider) (becomes_updated p) hmonitor htick.2 rfl⟩

lemma Serves.tick (h : w.Serves p) : ∃ p', w.Dealt (.deed .tick) p p' := by
  obtain ⟨hprovider, hkind, hmonitor⟩ := id h
  cases p with
  | shifting => cases hkind
  | fixed c =>
    have hm := hmonitor rfl
    exact h.tick_idle (by rw [asks, hm]; rfl) (by simp only [tick, hm, and_self])
  | file c =>
    cases hasks : w.asks .tick with
    | false => exact h.tick_idle hasks (tick_of_not_asks hprovider hasks)
    | true =>
      have hsucceeds : w.succeeds (.deed .tick) = (c.reload w.file.state).1.isOk := by
        rw [succeeds, hasks, Bool.true_and, fileConfig?_of_provider hprovider, Option.any_some]
      cases hm : w.monitor with
      | none => simp [asks, hm] at hasks
      | some m =>
        have hpoll := hasks
        rw [asks_tick hm, Bool.and_eq_true] at hpoll
        cases hread : c.reads? w.file.state with
        | none =>
          obtain ⟨e, he⟩ := FileConfig.reload_of_not_reads? hread
          obtain ⟨htick, hlisteners⟩ := unchanged_of_not_read hprovider hasks hread
          rw [he] at hsucceeds
          refine ⟨_, dealt_of_failure hsucceeds (htick.trans hprovider) (becomes_updated _) ?_
            hlisteners rfl⟩
          intro hfixed
          cases hfixed
        | some s =>
          have hreload := FileConfig.reload_of_reads? hread
          rw [hreload] at hsucceeds
          refine ⟨_, dealt_of_success hsucceeds (provider_of_read hprovider hasks hread)
            ⟨rfl, rfl, rfl, rfl⟩ ?_ ?_ ?_⟩
          · intro hfixed
            cases hfixed
          · simp only [deal, act, Watch.tick, hm, Monitor.poll, fileConfig?_of_provider hprovider,
              FileConfig.request, hreload, hpoll]
            rfl
          · exact Provider.next?_of_reads? hread

lemma Serves.stage (h : w.Serves p) (s : Settings) : ∃ p', w.Dealt (.stage s) p p' := by
  have hprovider := h.provider
  cases p with
  | shifting => cases h.kind
  | fixed c =>
    have hdeal : w.deal (.stage s) = { w with provider := some (.fixed (c.stage s)) } := by
      simp only [deal, Watch.stage, hprovider]
    refine ⟨.fixed (c.stage s), h.failed rfl hdeal ⟨rfl, rfl, ?_, rfl⟩ rfl rfl⟩
    exact (Bool.and_true _).symm
  | file c =>
    have hdeal : w.deal (.stage s) = { w with provider := some (.file c) } := by
      simp only [deal, Watch.stage, hprovider]
      rw [← hprovider]
    refine ⟨.file c, h.failed rfl hdeal ⟨rfl, rfl, ?_, rfl⟩ rfl rfl⟩
    exact (Bool.and_true _).symm

lemma Serves.subscribeAgain (h : w.Serves p) (i : Nat) :
    ∃ p', w.Dealt (.subscribeAgain i) p p' := by
  by_cases hi : i < w.listeners.length
  · have hdeal : w.deal (.subscribeAgain i) = { w with provider := some (p.subscribe i) } := by
      rw [deal, Watch.subscribeAgain, if_pos hi, h.provider, Option.map_some]
    obtain ⟨hbecomes, hsettings⟩ := Provider.subscribe_spec h.kind i
    refine ⟨p.subscribe i, h.failed rfl hdeal ?_ rfl hsettings⟩
    rwa [Dealing.latest?, if_pos hi, Dealing.takesMark, Bool.not_false, Bool.and_true]
    all_goals intro hmark; cases hmark
  · have hdeal : w.deal (.subscribeAgain i) = { w with provider := some p } := by
      rw [deal, Watch.subscribeAgain, if_neg hi, ← h.provider]
    refine ⟨p, h.failed rfl hdeal ?_ rfl rfl⟩
    rw [Dealing.latest?, if_neg hi]
    exact becomes_updated p

lemma Serves.dealt (h : w.Serves p) (d : Dealing) : ∃ p', w.Dealt d p p' := by
  cases d with
  | stage s => exact h.stage s
  | subscribeAgain i => exact h.subscribeAgain i
  | deed d =>
    cases d with
    | reload => exact h.reload
    | request => exact h.request
    | tick => exact h.tick
    | setFile | dropListener =>
      exact ⟨p, dealt_of_failure rfl h.provider (becomes_updated p) h.monitor rfl rfl⟩
    | takeUpdated =>
      obtain ⟨-, hbecomes, hsettings⟩ := Provider.takeUpdated_spec h.kind
      have hdeal : w.deal (.deed .takeUpdated) = (w.takeUpdated p).2 := by
        simp only [deal, act, h.provider, Option.elim]
      refine ⟨p.takeUpdated.2, h.failed rfl hdeal ?_ rfl hsettings⟩
      rwa [Dealing.takesMark, Bool.not_true, Bool.and_false]
    | subscribe =>
      obtain ⟨hbecomes, hsettings⟩ := Provider.subscribe_spec h.kind w.listeners.length
      have hdeal : w.deal (.deed .subscribe) = (w.subscribe p).2 := by
        simp only [deal, act, h.provider, Option.elim]
      refine ⟨p.subscribe w.listeners.length, h.failed rfl hdeal ?_ rfl hsettings⟩
      rw [Dealing.takesMark, Bool.not_false, Bool.and_true]
      · exact hbecomes
      · intro hmark
        cases hmark
    | watch =>
      refine ⟨p, dealt_of_failure rfl h.provider (becomes_updated p) (fun hp => ?_) rfl rfl⟩
      have hfile : w.fileConfig? = none := by
        cases p with
        | fixed c => rw [fileConfig?, h.provider]
        | file | shifting => cases hp
      simp only [deal, act, watch, hfile, Option.bind_none]
    | unwatch =>
      exact ⟨p, dealt_of_failure rfl h.provider (becomes_updated p) (fun _ => rfl) rfl rfl⟩

lemma Dealt.serves (hd : w.Dealt d p p') (h : w.Serves p) : (w.deal d).Serves p' where
  provider := hd.provider
  kind := by
    rw [Provider.isFixed, hd.becomes.plan, Option.isSome_map, hd.becomes.isFile]
    exact h.kind
  monitor hp := by
    rw [Provider.isFixed, hd.becomes.plan, Option.isSome_map] at hp
    exact hd.monitor hp

lemma dealAll_concat (w : Watch) (ds : List Dealing) (d : Dealing) :
    w.dealAll (ds ++ [d]) = (w.dealAll ds).deal d := by
  rw [dealAll, List.foldl_append]
  rfl

lemma last_or_earlier {ds before after : List Dealing} {d e : Dealing}
    (h : ds ++ [d] = before ++ e :: after) :
    ds = before ∧ d = e ∨ ∃ earlier, after = earlier ++ [d] ∧ ds = before ++ e :: earlier := by
  obtain rfl | ⟨earlier, d', rfl⟩ := List.eq_nil_or_concat after
  · obtain ⟨hds, hd⟩ := List.append_inj' h rfl
    exact .inl ⟨hds, List.singleton_inj.1 hd⟩
  · rw [List.concat_eq_append, ← List.cons_append, ← List.append_assoc] at h
    obtain ⟨hds, hd⟩ := List.append_inj' h rfl
    obtain rfl := List.singleton_inj.1 hd
    exact .inr ⟨earlier, List.concat_eq_append, hds⟩

def Marked (w : Watch) (ds : List Dealing) : Prop :=
  ∃ before d after, ds = before ++ d :: after ∧ (w.dealAll before).succeeds d = true ∧
    ∀ e ∈ after, e.takesMark = false

lemma marked_concat (w : Watch) (ds : List Dealing) (d : Dealing) :
    w.Marked (ds ++ [d]) ↔
      (w.dealAll ds).succeeds d = true ∨ (w.Marked ds ∧ d.takesMark = false) := by
  constructor
  · rintro ⟨before, e, after, heq, hsucceeds, hafter⟩
    obtain ⟨rfl, rfl⟩ | ⟨after, rfl, rfl⟩ := last_or_earlier heq
    · exact .inl hsucceeds
    · rw [List.forall_mem_append, List.forall_mem_singleton] at hafter
      exact .inr ⟨⟨before, e, after, rfl, hsucceeds, hafter.1⟩, hafter.2⟩
  · rintro (hsucceeds | ⟨⟨before, e, after, rfl, hsucceeds, hafter⟩, hd⟩)
    · exact ⟨ds, d, [], rfl, hsucceeds, nofun⟩
    · refine ⟨before, e, after ++ [d], by simp, hsucceeds, ?_⟩
      rw [List.forall_mem_append, List.forall_mem_singleton]
      exact ⟨hafter, hd⟩

def lastStaged (s : Settings) (ds : List Dealing) : Settings :=
  (ds.filterMap Dealing.staged?).getLast?.getD s

lemma lastStaged_concat (s : Settings) (ds : List Dealing) (d : Dealing) :
    lastStaged s (ds ++ [d]) = d.staged?.getD (lastStaged s ds) := by
  cases h : d.staged? <;> simp [lastStaged, h]

structure Kept (first : Watch) (start : Provider) (ds : List Dealing) (p : Provider) : Prop where
  serves : (first.dealAll ds).Serves p
  isFile : p.isFile = start.isFile
  plan : p.plan? = start.plan?.map fun (s, readOnly) => (lastStaged s ds, readOnly)
  updated : p.updated = true ↔ first.Marked ds

variable {first : Watch} {start : Provider}

lemma Serves.kept (h : first.Serves start) (hmark : start.updated = false) (ds : List Dealing) :
    ∃ p, Kept first start ds p := by
  -- The mark and the staged settings look back from the end, and there the history grows.
  induction ds using List.reverseRecOn with
  | nil =>
    refine ⟨start, h, rfl, Option.map_id'.symm, ?_⟩
    rw [hmark]
    exact ⟨nofun, fun ⟨_, _, _, heq, _⟩ => absurd heq (by simp)⟩
  | append_singleton ds d ih =>
    obtain ⟨p, hserves, hfile, hplan, hupdated⟩ := ih
    obtain ⟨p', hd⟩ := hserves.dealt d
    have hbecomes := hd.becomes
    refine ⟨p', ?_, hbecomes.isFile.trans hfile, ?_, ?_⟩
    · rw [dealAll_concat]
      exact hd.serves hserves
    · simp only [hbecomes.plan, hplan, Option.map_map, Function.comp_def, lastStaged_concat]
    · rw [hbecomes.updated, marked_concat, Bool.or_eq_true, Bool.and_eq_true, hupdated,
        Bool.not_eq_true']

variable {i : Nat}

lemma Dealt.length (hd : w.Dealt d p p') :
    (w.deal d).listeners.length = w.listeners.length + d.isSubscription.toNat := by
  rw [hd.listeners]
  cases d with
  | stage | subscribeAgain =>
    simp [Dealing.onListeners, Dealing.isSubscription, Listeners.length_tellSome]
  | deed d =>
    cases d with
    | subscribe => exact List.length_append
    | dropListener => exact List.length_set
    | _ => simp [Dealing.onListeners, Dealing.isSubscription, Listeners.length_tellSome]

lemma Dealt.dropped_iff (hd : w.Dealt d p p') (i : Nat) : (w.deal d).listeners[i]? = some none ↔
    w.listeners[i]? = some none ∨ d = .deed (.dropListener i) ∧ i < w.listeners.length := by
  rw [hd.listeners]
  cases d with
  | stage | subscribeAgain => simp [Dealing.onListeners, Listeners.tellSome_eq_none]
  | deed d =>
    cases d with
    | subscribe => simp [Dealing.onListeners, Listeners.add_eq_none]
    | dropListener j => simpa [Dealing.onListeners] using Listeners.drop_eq_none w.listeners j i
    | _ => simp [Dealing.onListeners, Listeners.tellSome_eq_none]

lemma Dealt.calls (hd : w.Dealt d p p') (i : Nat) : (w.deal d).listeners[i]? = some none ∨
    (w.deal d).listeners.calls i =
      w.listeners.calls i + (w.hears p.listener i d).toNat := by
  rw [hd.listeners]
  cases d with
  | stage | subscribeAgain => exact .inr rfl
  | deed d =>
    cases d with
    | setFile | reload | takeUpdated | watch | unwatch => exact .inr rfl
    | request | tick =>
      refine .inr ((Listeners.calls_tellSome _ _ i).trans ?_)
      rw [hears, Dealing.isRequest, Bool.true_and]
      cases w.succeeds _ <;> rfl
    | subscribe => exact .inr (Listeners.calls_add _ i)
    | dropListener j => exact Listeners.drop_cases _ i j

lemma Serves.dropped (h : w.Serves p) (ds : List Dealing) (hi : w.listeners[i]? = some none) :
    (w.dealAll ds).listeners[i]? = some none := by
  induction ds generalizing w p with
  | nil => exact hi
  | cons d ds ih =>
    obtain ⟨p', hd⟩ := h.dealt d
    exact ih (hd.serves h) ((hd.dropped_iff i).2 (.inl hi))

lemma Serves.calls (h : w.Serves p) (ds : List Dealing) (i : Nat) :
    (w.dealAll ds).listeners[i]? = some none ∨
      (w.dealAll ds).listeners.calls i = w.listeners.calls i + hearings i w p.listener ds := by
  induction ds generalizing w p with
  | nil => exact .inr rfl
  | cons d ds ih =>
    obtain ⟨p', hd⟩ := h.dealt d
    obtain hdropped | hcalls := hd.calls i
    · exact .inl ((hd.serves h).dropped ds hdropped)
    · obtain hdropped | hrest := ih (hd.serves h)
      · exact .inl hdropped
      · refine .inr (hrest.trans ?_)
        rw [hcalls, hearings, hd.becomes.listener, Nat.add_assoc]

def Dropped (ds : List Dealing) (i : Nat) : Prop :=
  ∃ before after, ds = before ++ .deed (.dropListener i) :: after ∧
    i < before.countP Dealing.isSubscription

lemma dropped_concat (ds : List Dealing) (d : Dealing) (i : Nat) : Dropped (ds ++ [d]) i ↔
    Dropped ds i ∨ d = .deed (.dropListener i) ∧ i < ds.countP Dealing.isSubscription := by
  constructor
  · rintro ⟨before, after, heq, hi⟩
    obtain ⟨rfl, rfl⟩ | ⟨after, -, rfl⟩ := last_or_earlier heq
    · exact .inr ⟨rfl, hi⟩
    · exact .inl ⟨before, after, rfl, hi⟩
  · rintro (⟨before, after, rfl, hi⟩ | ⟨rfl, hi⟩)
    · exact ⟨before, after ++ [d], by simp, hi⟩
    · exact ⟨ds, [], rfl, hi⟩

lemma Serves.listeners (h : first.Serves start) (hnone : first.listeners = [])
    (hmark : start.updated = false) (ds : List Dealing) :
    (first.dealAll ds).listeners.length = ds.countP Dealing.isSubscription ∧
      ∀ i : Nat, (first.dealAll ds).listeners[i]? = some none ↔ Dropped ds i := by
  induction ds using List.reverseRecOn with
  | nil =>
    refine ⟨congrArg List.length hnone, fun i => ?_⟩
    have hempty : (first.dealAll []).listeners = [] := hnone
    rw [hempty]
    exact iff_of_false nofun fun ⟨_, _, heq, _⟩ => absurd heq (by simp)
  | append_singleton ds d ih =>
    obtain ⟨hlength, hdropped⟩ := ih
    obtain ⟨p, hkept⟩ := h.kept hmark ds
    obtain ⟨p', hd⟩ := hkept.serves.dealt d
    rw [dealAll_concat]
    constructor
    · rw [hd.length, hlength, List.countP_append, List.countP_singleton]
      cases d.isSubscription <;> rfl
    · intro i
      rw [hd.dropped_iff, hdropped, dropped_concat, hlength]

inductive Fresh : Watch → Provider → Prop
  | fixed (s : Settings) (readOnly : Bool) :
      Fresh (ofFixed (.of s readOnly)) (.fixed (.of s readOnly))
  | file (path : String) (file : WatchedFile) :
      Fresh (ofFile (.load path file.state) file) (.file (.load path file.state))

lemma Fresh.serves (h : Fresh first start) : first.Serves start := by
  cases h with
  | fixed => exact ⟨rfl, rfl, fun _ => rfl⟩
  | file => exact ⟨rfl, rfl, nofun⟩

lemma Fresh.unused (h : Fresh first start) :
    start.updated = false ∧ start.listener = none ∧ first.listeners = [] := by
  cases h with
  | fixed => exact ⟨rfl, rfl, rfl⟩
  | file path file =>
    rw [FileConfig.load]
    cases file.state.readSettings <;> exact ⟨rfl, rfl, rfl⟩

end Watch

open Watch in
theorem provider_protocol {first : Watch} {start : Provider} (h : Fresh first start)
    (ds : List Dealing) :
    let w := first.dealAll ds
    ∃ p, w.provider = some p ∧
      ((w.takeUpdated p).1 = true ↔ first.Marked ds) ∧
      (∀ d, w.succeeds d = false → (w.deal d).settings? = w.settings?) ∧
      (∀ s readOnly, start = .fixed (.of s readOnly) → ∀ d, w.succeeds d = true →
        (w.deal d).settings? = some (lastStaged s ds)) ∧
      (start.isFile = true → ∀ d, w.succeeds d = true →
        (w.deal d).settings? = w.file.state.held?.map (·.normalized)) ∧
      (∀ i n : Nat, w.listeners[i]? = some (some n) → n = hearings i first none ds) ∧
      (∀ i : Nat, w.listeners[i]? = some none →
        ∀ more, (w.dealAll more).listeners[i]? = some none) ∧
      w.listeners.length = ds.countP Dealing.isSubscription ∧
      ∀ i : Nat, w.listeners[i]? = some none ↔ Dropped ds i := by
  intro w
  obtain ⟨hmark, hlistener, hlisteners⟩ := h.unused
  obtain ⟨p, hserves, hfile, hplan, hupdated⟩ := h.serves.kept hmark ds
  have hsettings (d : Dealing) :
      ∃ p', w.Dealt d p p' ∧ (w.deal d).settings? = some p'.settings.1 := by
    obtain ⟨p', hd⟩ := hserves.dealt d
    exact ⟨p', hd, by rw [settings?, hd.provider, Option.map_some]⟩
  refine ⟨p, hserves.provider, ?_, ?_, ?_, ?_, ?_, fun i hi more => hserves.dropped more hi,
    h.serves.listeners hlisteners hmark ds⟩
  · rw [← hupdated, takeUpdated, (Provider.takeUpdated_spec hserves.kind).1]
  · intro d hd
    obtain ⟨p', hdealt, heq⟩ := hsettings d
    rw [heq, hdealt.settled hd, settings?, hserves.provider, Option.map_some]
  · rintro s readOnly rfl d hd
    obtain ⟨p', hdealt, heq⟩ := hsettings d
    rw [heq, ← hdealt.reloaded hd]
    cases p with
    | fixed c => exact congrArg (Option.map Prod.fst) hplan
    | file | shifting => cases hplan
  · intro hstart d hd
    obtain ⟨p', hdealt, heq⟩ := hsettings d
    rw [heq, ← hdealt.reloaded hd]
    cases p with
    | file c => rfl
    | fixed | shifting => rw [hstart] at hfile; cases hfile
  · intro i n hi
    obtain hdropped | hcalls := h.serves.calls ds i
    · rw [hi] at hdropped
      cases hdropped
    · rw [hlisteners, hlistener, Listeners.calls, hi] at hcalls
      simpa [Listeners.calls] using hcalls

open Watch in
theorem provider_protocol_dropped_listener :
    Fresh (ofFixed (.of .initial false)) (.fixed (.of .initial false)) ∧
      1 = hearings 0 (ofFixed (.of .initial false)) none
        [.deed .subscribe, .deed .subscribe, .stage ⟨4, 5, 2, 15⟩, .deed .request,
          .deed (.dropListener 1), .deed .request, .subscribeAgain 0, .deed .request] := by
  have h := Fresh.fixed .initial false
  obtain ⟨-, -, -, -, -, -, hcalls, -⟩ := provider_protocol h
    [.deed .subscribe, .deed .subscribe, .stage ⟨4, 5, 2, 15⟩, .deed .request,
      .deed (.dropListener 1), .deed .request, .subscribeAgain 0, .deed .request]
  exact ⟨h, hcalls 0 1 rfl⟩

end Switchboard
