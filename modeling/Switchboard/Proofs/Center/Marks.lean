import Switchboard.Proofs.Center.Updates

/-! The marks of the providers of settings. The mark of a provider goes up with each reload that
succeeds and comes down as soon as anybody asks for it, and no update has to do with it. -/

namespace Switchboard

structure Mark where
  up : Bool
  /-- It comes down when somebody asks for it. -/
  falls : Bool

namespace Provider

def mark : Provider → Mark
  | fixed c => ⟨c.updated, true⟩
  | file c => ⟨c.updated, true⟩
  | shifting .. => ⟨true, false⟩

lemma mark_settings (p : Provider) : p.settings.2.mark = p.mark := by
  cases p <;> rfl

lemma mark_reload (p : Provider) (f : FileState) :
    (p.reload f).2.mark =
      if (p.reload f).1.isOk then { p.mark with up := true } else p.mark := by
  cases p with
  | fixed c =>
    rw [reload, FixedConfig.reload]
    cases c.readOnly <;> rfl
  | file c =>
    rw [reload, FileConfig.reload]
    cases c.updatesEnabled with
    | false => rfl
    | true => cases f.readSettings <;> rfl
  | shifting => rfl

lemma takeUpdated_mark (p : Provider) :
    p.takeUpdated.1 = p.mark.up ∧
      p.takeUpdated.2.mark = { p.mark with up := p.mark.up && !p.mark.falls } := by
  have down (up : Bool) : (⟨false, true⟩ : Mark) = ⟨up && !true, true⟩ := by cases up <;> rfl
  cases p with
  | fixed c | file c => exact ⟨rfl, down c.updated⟩
  | shifting => exact ⟨rfl, rfl⟩

end Provider

namespace Center

variable {c c' : Center} {i j : Nat} {p : Provider}

def mark? (c : Center) (i : Nat) : Option Mark := c.providers[i]?.map Provider.mark

def renews (c : Center) (i : Nat) : Bool :=
  c.providers[i]?.any fun p => (p.reload c.configFile).1.isOk

def takes (c : Center) (i : Nat) : Option Nat := ((c.mark? i).filter (·.falls)).map fun _ => i

lemma mark?_setProvider (hp : c.providers[j]? = some p) (p' : Provider) (i : Nat) :
    (c.setProvider j p').mark? i = if i = j then some p'.mark else c.mark? i := by
  rw [mark?, setProvider]
  dsimp only
  split
  · subst i
    rw [List.getElem?_set_self (List.getElem?_eq_some_iff.1 hp).1]
    rfl
  · rw [List.getElem?_set_ne (Ne.symm ‹_›)]
    rfl

lemma mark?_setProvider_of_mark (hp : c.providers[j]? = some p) {p' : Provider}
    (h : p'.mark = p.mark) : (c.setProvider j p').mark? = c.mark? := by
  funext i
  rw [mark?_setProvider hp]
  split
  · rw [‹i = j›, mark?, hp, h]
    rfl
  · rfl

lemma mark?_of_providers (h : c'.providers = c.providers) : c'.mark? = c.mark? := by
  funext i
  rw [mark?, mark?, h]

lemma mark?_readSettings (c : Center) : c.readSettings.2.mark? = c.mark? := by
  rw [Center.readSettings]
  split
  · rfl
  · exact mark?_setProvider_of_mark ‹_› (Provider.mark_settings _)

lemma providers_build {size : Nat} {capacity : UInt64} {n : Nat}
    (h : c.build size capacity = .ok (n, c')) : c'.providers = c.providers := by
  obtain ⟨f, -, rfl⟩ := build_cases h
  rfl

lemma providers_replacePool (c : Center) (size : Nat) (capacity : UInt64) (now : Timestamp) :
    (c.replacePool size capacity now).2.providers = c.providers := by
  rw [replacePool]
  cases hb : c.build size capacity with
  | error crash => rfl
  | ok r => exact (r.2.swapIn_frame r.1 now).2.trans (providers_build hb)

lemma providers_adopt (c : Center) (s : Settings) : (c.adopt s).providers = c.providers := by
  rw [adopt]
  dsimp only
  split <;> rfl

lemma mark?_prepare (c : Center) : c.prepare.2.mark? = c.mark? := by
  rw [← mark?_readSettings c, prepare_eq]
  apply mark?_of_providers
  split
  · rfl
  · cases hb : c.readSettings.2.build c.wanted.operators.toNat c.wanted.queueSize with
    | error crash => rfl
    | ok r => exact providers_build hb

lemma mark?_apply (c : Center) (spare : Option Nat) (now : Timestamp) :
    (c.apply spare now).2.mark? = c.mark? := by
  have ha := providers_adopt c.readSettings.2 c.wanted
  rw [← mark?_readSettings c, apply_eq]
  apply mark?_of_providers
  dsimp only
  generalize c.readSettings.2.adopt c.wanted = c' at ha ⊢
  have hd : (c'.discard spare).providers = c'.providers := by cases spare <;> rfl
  split
  · exact hd.trans ha
  · cases c'.suits c.wanted spare with
    | some p => exact (c'.swapIn_frame p now).2.trans ha
    | none => exact ((c'.discard spare).providers_replacePool ..).trans (hd.trans ha)

lemma mark?_update (c : Center) (now : Timestamp) : (c.update now).2.mark? = c.mark? := by
  have hp := mark?_prepare c
  rw [update]
  generalize c.prepare = r at hp ⊢
  obtain ⟨reply, c'⟩ := r
  cases reply with
  | error crash => exact hp
  | ok spare => exact (mark?_apply c' spare now).trans hp

lemma mark?_reload (h : c.renews i = false) : (c.reload i).2.mark? = c.mark? := by
  rw [reload]
  cases hp : c.providers[i]? with
  | none => rfl
  | some p =>
    rw [renews, hp, Option.any_some] at h
    apply mark?_setProvider_of_mark hp
    rw [Provider.mark_reload, h, if_neg Bool.false_ne_true]

lemma mark?_renew (h : c.renews i = true) :
    ∃ m, c.mark? i = some m ∧
      ∀ j, (c.reload i).2.mark? j = if j = i then some { m with up := true } else c.mark? j := by
  rw [renews] at h
  cases hp : c.providers[i]? with
  | none =>
    rw [hp] at h
    cases h
  | some p =>
    rw [hp, Option.any_some] at h
    refine ⟨p.mark, by rw [mark?, hp]; rfl, ?_⟩
    intro j
    rw [reload, hp]
    refine (mark?_setProvider hp _ j).trans ?_
    rw [Provider.mark_reload, h, if_pos rfl]

lemma mark?_takeUpdated {m : Mark} (h : c.mark? i = some m) :
    (c.takeUpdated i).1 = m.up ∧ c.takes i = (if m.falls then some i else none) ∧
      ∀ j, (c.takeUpdated i).2.mark? j =
        if j = i then some { m with up := m.up && !m.falls } else c.mark? j := by
  obtain ⟨p, hp, rfl⟩ := Option.map_eq_some_iff.1 h
  obtain ⟨hup, hmark⟩ := p.takeUpdated_mark
  refine ⟨?_, ?_, ?_⟩
  · rw [takeUpdated, hp]
    exact hup
  · rw [takes, h, Option.filter_some]
    split <;> rfl
  · intro j
    rw [takeUpdated, hp]
    refine (mark?_setProvider hp _ j).trans ?_
    rw [hmark]

def polls (c : Center) : Bool :=
  c.monitor.any fun m =>
    m.running && Monitor.isLater c.file.changed? m.lastChange && c.dispatcher.provider == 0

lemma mark?_request (c : Center) (i : Nat) (now : Timestamp) :
    (c.request i now).2.mark? = (c.reload i).2.mark? := by
  rw [request, reload]
  cases c.providers[i]? with
  | none => rfl
  | some p =>
    have hp : (p.request c.configFile).2 = (p.reload c.configFile).2 := rfl
    dsimp only
    rw [← hp]
    generalize c.setProvider i (p.request c.configFile).2 = c'
    cases (p.request c.configFile).1 with
    | error e => rfl
    | ok l =>
      cases l with
      | none => rfl
      | some l =>
        dsimp only
        split
        · rfl
        · have hu := mark?_update c' now
          generalize c'.update now = r at hu ⊢
          obtain ⟨reply, c''⟩ := r
          cases reply <;> exact hu

lemma mark?_poll (c : Center) (now : Timestamp) :
    (c.poll now).mark? = if c.polls then (c.reload 0).2.mark? else c.mark? := by
  rw [poll, polls]
  cases c.monitor with
  | none => rfl
  | some m =>
    have hr := mark?_request c 0 now
    rw [Option.any_some]
    cases hlater : m.running && Monitor.isLater c.file.changed? m.lastChange with
    | false => simp [hlater]
    | true =>
      by_cases hd : c.dispatcher.provider = 0
      · simp only [hlater, hd, if_true, Bool.true_and, beq_self_eq_true]
        generalize c.request 0 now = r at hr ⊢
        obtain ⟨reply, c'⟩ := r
        cases reply <;> exact hr
      · simp only [hlater, hd, if_true, if_false, Bool.true_and, beq_iff_eq]
        rfl

lemma mark?_stage {f : FixedConfig} (h : c.fixed? i = some f) (s : Settings) :
    (c.setProvider i (.fixed (f.stage s))).mark? = c.mark? :=
  mark?_setProvider_of_mark (provider_of_fixed? h) rfl

lemma mark?_useProvider {m : Mark} (h : c.mark? i = some m) (p : Provider) :
    (c.useProvider p).mark? i = some m := by
  obtain ⟨q, hq, rfl⟩ := Option.map_eq_some_iff.1 h
  rw [mark?, useProvider, List.getElem?_append_left (List.getElem?_eq_some_iff.1 hq).1, hq]
  rfl

end Center

lemma Bureau.mark?_act {b : Bureau} {deed : Deed} (hd : ∀ i, deed ≠ .reload i) {i : Nat} {m : Mark}
    (h : b.center.mark? i = some m) : (b.act deed).center.mark? i = some m := by
  cases deed with
  | submit | work | dismiss | start | stop | writeConfig | deleteConfig => exact h
  | reload i => exact absurd rfl (hd i)
  | replacePool size capacity now =>
    exact (congrFun (Center.mark?_of_providers (b.center.providers_replacePool ..)) i).trans h
  | prepare => rw [prepare_center, Center.mark?_prepare, h]
  | apply n now =>
    cases hn : b.underWay[n]? with
    | none => rw [act_apply_of_none hn, h]
    | some spare => rw [act_apply hn, Center.mark?_apply, h]
  | useProvider p => exact Center.mark?_useProvider h p
  | stage j s =>
    rw [act]
    split
    · exact h
    · exact (congrFun (Center.mark?_stage ‹_› s) i).trans h

end Switchboard
