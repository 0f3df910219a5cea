import Switchboard.Proofs.Center.Succession

/-! A call center in the hands of many. Those who call, those who work and those who direct act in
any order, and an update consists of two deeds between which anything else may happen. -/

namespace Switchboard

namespace Center

def around (f : Floor) (p : Provider) (unit : Duration) (file : WatchedFile) : Center where
  floor := f
  dispatcher := ⟨⟨p.settings.1.rMin, p.settings.1.rMax, unit⟩, unit, 0, 0, false⟩
  providers := [p.settings.2.subscribe listener]
  file := file
  monitor := none
  book := none
  shared := false
  orders := []
  closed := false

inductive Opens : Center → Prop
  | planned {plan : Plan} {file : WatchedFile} {c : Center} (h : ofPlan plan file = .ok (.ok c)) :
      Opens c
  | around {size : Nat} {capacity : UInt64} {members : List Recorder} {first : CallId} {f : Floor}
      (h : Floor.furnished size (some capacity) members first = .ok f) (p : Provider)
      (unit : Duration) (file : WatchedFile) : Opens (around f p unit file)

end Center

structure Bureau where
  center : Center
  /-- The pool, if any, that was built in the first half of each update that is under way. -/
  underWay : List (Option Nat)
  replies : List (Except Crash (Except DispatchError Ticket))

namespace Bureau

inductive Deed
  | submit (number : String) (now : Timestamp)
  | work (p i : Nat) (now : Timestamp) (draw : Nat)
  | dismiss (p : Nat) (now : Timestamp)
  | start
  | stop
  | replacePool (size : Nat) (capacity : UInt64) (now : Timestamp)
  | prepare
  | apply (n : Nat) (now : Timestamp)
  | useProvider (p : Provider)
  | stage (i : Nat) (s : Settings)
  | reload (i : Nat)
  | writeConfig (text : String)
  | deleteConfig

def act (b : Bureau) : Deed → Bureau
  | .submit number now =>
    let (r, c) := b.center.submit number now
    { b with center := c, replies := b.replies ++ [r] }
  | .work p i now draw =>
    { b with center := { b.center with floor := b.center.floor.work p i now draw } }
  | .dismiss p now =>
    { b with center := { b.center with floor := (b.center.floor.dismiss p now).1 } }
  | .start => { b with center := b.center.start }
  | .stop => { b with center := b.center.stop }
  | .replacePool size capacity now =>
    { b with center := (b.center.replacePool size capacity now).2 }
  | .prepare =>
    match b.center.prepare with
    | (.ok spare, c) => { b with center := c, underWay := b.underWay ++ [spare] }
    | (.error _, c) => { b with center := c }
  | .apply n now =>
    match b.underWay[n]? with
    | none => b
    | some spare =>
      { b with center := (b.center.apply spare now).2, underWay := b.underWay.eraseIdx n }
  | .useProvider p => { b with center := b.center.useProvider p }
  | .stage i s =>
    match b.center.fixed? i with
    | none => b
    | some c => { b with center := b.center.setProvider i (.fixed (c.stage s)) }
  | .reload i => { b with center := (b.center.reload i).2 }
  | .writeConfig text => { b with center := b.center.writeConfig text }
  | .deleteConfig => { b with center := b.center.deleteConfig }

def run (b : Bureau) (deeds : List Deed) : Bureau := deeds.foldl act b

def of (c : Center) : Bureau := ⟨c, [], []⟩

def Deed.IsSetting : Deed → Prop
  | .useProvider _ | .stage .. | .reload _ | .writeConfig _ | .deleteConfig => True
  | _ => False

def Deed.Directs : Deed → Prop
  | .submit .. | .work .. => False
  | _ => True

def Fit (b : Bureau) (o : Estate) : Prop := b.center.Fit o (b.underWay.filterMap id)

variable {b b' : Bureau} {o : Estate} {deed : Deed} {n : Nat} {spare : Option Nat}

lemma run_append (b : Bureau) (deeds more : List Deed) :
    b.run (deeds ++ more) = (b.run deeds).run more :=
  List.foldl_append

lemma setting_frame (b : Bureau) (h : deed.IsSetting) :
    (b.act deed).center.floor = b.center.floor ∧
      (b.act deed).center.dispatcher =
        { b.center.dispatcher with provider := (b.act deed).center.dispatcher.provider } ∧
      (b.act deed).underWay = b.underWay ∧ (b.act deed).replies = b.replies := by
  cases deed with
  | useProvider p | writeConfig text | deleteConfig => exact ⟨rfl, rfl, rfl, rfl⟩
  | stage i s =>
    rw [act]
    split <;> exact ⟨rfl, rfl, rfl, rfl⟩
  | reload i =>
    have he : (b.center.reload i).2.floor = b.center.floor ∧
        (b.center.reload i).2.dispatcher = b.center.dispatcher := by
      rw [Center.reload]
      split <;> exact ⟨rfl, rfl⟩
    exact ⟨he.1, by rw [act]; exact he.2 ▸ rfl, rfl, rfl⟩
  | _ => exact h.elim

lemma perm_underWay {underWay : List (Option Nat)} (h : underWay[n]? = some spare) :
    (underWay.filterMap id).Perm (spare.toList ++ (underWay.eraseIdx n).filterMap id) := by
  obtain ⟨hn, rfl⟩ := List.getElem?_eq_some_iff.1 h
  have hsplit : underWay = underWay.take n ++ underWay[n] :: underWay.drop (n + 1) := by
    rw [← List.drop_eq_getElem_cons hn, List.take_append_drop]
  have hcons (l : List (Option Nat)) :
      (underWay[n] :: l).filterMap id = underWay[n].toList ++ l.filterMap id := by
    cases underWay[n] <;> rfl
  rw [List.eraseIdx_eq_take_drop_succ]
  calc underWay.filterMap id
    _ = (underWay.take n).filterMap id ++
        (underWay[n].toList ++ (underWay.drop (n + 1)).filterMap id) := by
      rw [← hcons, ← List.filterMap_append, ← hsplit]
    _ = (underWay.take n).filterMap id ++ underWay[n].toList ++
        (underWay.drop (n + 1)).filterMap id := (List.append_assoc ..).symm
    _ |>.Perm (underWay[n].toList ++ (underWay.take n).filterMap id ++
        (underWay.drop (n + 1)).filterMap id) := List.perm_append_comm.append_right _
    _ = _ := by rw [List.append_assoc, List.filterMap_append]

lemma submit_eq (b : Bureau) (number : String) (now : Timestamp) :
    b.act (.submit number now) =
      let r := b.center.floor.bring b.center.dispatcher.pool b.center.dispatcher.bounds number now
        false now
      ⟨{ b.center with floor := r.1 }, b.underWay, b.replies ++ [r.2]⟩ := rfl

lemma fit_submit (h : b.Fit o) (number : String) (now : Timestamp) :
    (b.act (.submit number now)).Fit o := by
  obtain ⟨_, _, -, -, -, -, -, -, hled, hterms, -⟩ :=
    h.led.bring b.center.dispatcher.bounds number now
  have hsound := h.sound.act
    (.bring b.center.dispatcher.pool b.center.dispatcher.bounds number now false now)
  rw [submit_eq]
  refine Center.Fit.of_floor h hled hsound rfl ?_
  intro s t _ ht _
  exact (hterms s).trans ht

lemma fit_work (h : b.Fit o) (p i : Nat) (now : Timestamp) (draw : Nat) :
    (b.act (.work p i now draw)).Fit o := by
  refine Center.Fit.of_floor h (h.led.work p i now draw).2 (h.sound.act (.work ..)) rfl ?_
  intro s t _ ht _
  exact ((Floor.sameTerms_work ..).terms s).trans ht

lemma prepare_center (b : Bureau) : (b.act .prepare).center = b.center.prepare.2 := by
  rw [act]
  split <;> simp only [*]

lemma act_apply_of_none (hn : b.underWay[n]? = none) (now : Timestamp) :
    b.act (.apply n now) = b := by
  simp only [act, hn]

lemma act_apply (hn : b.underWay[n]? = some spare) (now : Timestamp) :
    b.act (.apply n now) =
      ⟨(b.center.apply spare now).2, b.underWay.eraseIdx n, b.replies⟩ := by
  simp only [act, hn]

lemma quiet_direct (h : b.Fit o) (deed : Deed) (hd : deed.Directs)
    (hn : ∀ n now, deed ≠ .apply n now) :
    (b.act deed).Fit o ∧ b.center.floor.Quiet o (b.act deed).center.floor := by
  have setting (hs : deed.IsSetting) :
      (b.act deed).Fit o ∧ b.center.floor.Quiet o (b.act deed).center.floor := by
    obtain ⟨hf, hdis, hu, -⟩ := b.setting_frame hs
    rw [Fit, hu, hf]
    refine ⟨Center.Fit.of_floor h ?_ (hf ▸ h.sound) (by rw [hdis]) ?_, .refl o _⟩
    · rw [hf, hdis]
      exact h.led
    · intro s t _ ht _
      rw [hf, ht]
  cases deed with
  | submit | work => exact hd.elim
  | apply n now => exact absurd rfl (hn n now)
  | useProvider | stage | reload | writeConfig | deleteConfig => exact setting trivial
  | dismiss p now =>
    obtain ⟨hquiet, hled, hterms⟩ := h.led.dismiss p now
    refine ⟨Center.Fit.of_floor h hled (h.sound.act (.dismiss p now)) rfl ?_, hquiet⟩
    intro s t _ ht hopen
    exact hterms s t ht hopen
  | start =>
    obtain ⟨hfit, hquiet, -⟩ := Center.Fit.start h
    exact ⟨hfit, hquiet⟩
  | stop =>
    obtain ⟨hfit, hquiet, -⟩ := Center.Fit.stop h
    exact ⟨hfit, hquiet⟩
  | replacePool size capacity now =>
    obtain ⟨hfit, hs, -⟩ := Center.Fit.replacePool h size capacity now
    exact ⟨hfit, hs.quiet⟩
  | prepare =>
    obtain ⟨hs, -, hfit⟩ := Center.Fit.prepare h
    have hquiet : b.center.floor.Quiet o b.center.prepare.2.floor := by
      have hq := hs.quiet
      rw [Center.readSettings_frame] at hq
      exact hq
    rw [act]
    generalize b.center.prepare = r at hfit hquiet ⊢
    obtain ⟨reply, c⟩ := r
    cases reply with
    | error crash => exact ⟨hfit, hquiet⟩
    | ok spare =>
      refine ⟨?_, hquiet⟩
      rw [Fit, List.filterMap_append]
      refine Center.Fit.perm hfit (List.perm_append_comm.trans ?_)
      cases spare <;> rfl

lemma of_underWay (h : b.Fit o) (hn : b.underWay[n]? = some spare) :
    b.center.Fit o (spare.toList ++ (b.underWay.eraseIdx n).filterMap id) :=
  Center.Fit.perm h (perm_underWay hn)

lemma quiet_apply (h : b.Fit o) (hn : b.underWay[n]? = some spare) (now : Timestamp) :
    (b.act (.apply n now)).Fit o ∧
      (b.center.floor.setCapacity o.queue b.center.wanted.queueSize).Quiet o
        (b.act (.apply n now)).center.floor := by
  have hf := of_underWay h hn
  obtain ⟨hfit, hs, -⟩ := hf.apply now
  have hq := hs.quiet
  rw [(hf.readSettings.adopt b.center.wanted).1, Center.readSettings_frame] at hq
  rw [act_apply hn]
  exact ⟨hfit, hq⟩

lemma apply_frame (h : b.Fit o) (hn : b.underWay[n]? = some spare) (now : Timestamp) :
    let c := b.center
    let c' := (b.act (.apply n now)).center
    c'.dispatcher.bounds = ⟨c.wanted.rMin, c.wanted.rMax, c.dispatcher.unit⟩ ∧
      c'.dispatcher.unit = c.dispatcher.unit ∧ c'.dispatcher.running = c.dispatcher.running ∧
      (c'.dispatcher.pool = c.dispatcher.pool ∨ c'.floor.Retired c.dispatcher.pool) := by
  have hf := of_underWay h hn
  obtain ⟨-, ⟨-, hbounds, hunit, hrunning, -, -, hreplaced⟩, -⟩ := hf.apply now
  have ha := (hf.readSettings.adopt b.center.wanted).1
  rw [ha, Center.readSettings_frame] at hbounds hunit hrunning hreplaced
  rw [act_apply hn]
  exact ⟨hbounds, hunit, hrunning, hreplaced⟩

lemma fit_direct (h : b.Fit o) (hd : deed.Directs) :
    (b.act deed).Fit o ∧ b.center.floor.Still (b.act deed).center.floor := by
  by_cases hn : ∃ n now, deed = .apply n now
  · obtain ⟨n, now, rfl⟩ := hn
    cases hn : b.underWay[n]? with
    | none =>
      rw [act_apply_of_none hn]
      exact ⟨h, .refl _⟩
    | some spare =>
      obtain ⟨hfit, hquiet⟩ := quiet_apply h hn now
      exact ⟨hfit, (Floor.still_setCapacity ..).trans hquiet.toStill⟩
  · obtain ⟨hfit, hquiet⟩ := quiet_direct h deed hd fun n now he => hn ⟨n, now, he⟩
    exact ⟨hfit, hquiet.toStill⟩

lemma Deed.kinds (deed : Deed) : deed.Directs ∨ (∃ number now, deed = .submit number now) ∨
    ∃ p i now draw, deed = .work p i now draw := by
  cases deed with
  | submit number now => exact .inr (.inl ⟨number, now, rfl⟩)
  | work p i now draw => exact .inr (.inr ⟨p, i, now, draw, rfl⟩)
  | _ => exact .inl trivial

lemma fit_act (h : b.Fit o) (deed : Deed) : (b.act deed).Fit o := by
  rcases deed.kinds with hd | ⟨number, now, rfl⟩ | ⟨p, i, now, draw, rfl⟩
  · exact (fit_direct h hd).1
  · exact fit_submit h number now
  · exact fit_work h p i now draw

lemma fit_run (h : b.Fit o) (deeds : List Deed) : (b.run deeds).Fit o := by
  induction deeds generalizing b with
  | nil => exact h
  | cons deed deeds ih => exact ih (fit_act h deed)

end Bureau

lemma Floor.newcomers_call? (f : Floor) (size : Nat) : ∀ m ∈ f.newcomers size, m.call? = none := by
  intro m hm
  obtain ⟨i, -, rfl⟩ := List.mem_map.1 hm
  rfl

lemma Center.fit_of_first {c : Center} {operators : List Operator} {set : RecorderSet}
    {capacity : UInt64} {first : CallId}
    (hpools : c.floor.pools = [some ⟨operators, some 0, set, 0, true, false, false⟩])
    (hqueues : c.floor.queues = [some (.empty capacity set)]) (hids : c.floor.idSources = [first])
    (hexchange : c.floor.exchange = .empty) (hoperators : ∀ m ∈ operators, m.call? = none)
    (hpool : c.dispatcher.pool = 0) (hrunning : c.dispatcher.running = false) :
    c.Fit ⟨0, set, 0⟩ [] := by
  have hpool? (j : Nat) : c.floor.pool? j =
      if j = 0 then some ⟨operators, some 0, set, 0, true, false, false⟩ else none := by
    rw [Floor.pool?, hpools]
    cases j <;> rfl
  have hqueue? (j : Nat) : c.floor.queue? j =
      if j = 0 then some (.empty capacity set) else none := by
    rw [Floor.queue?, hqueues]
    cases j <;> rfl
  have hcalls : c.floor.calls = [] := by
    have hnone : operators.filterMap (·.call?) = [] := List.filterMap_eq_nil_iff.2 hoperators
    rw [Floor.calls, hqueues, hpools]
    simp [Floor.waitingIn, Floor.onLineIn, hpool?, hqueue?, CallQueue.empty, Pool.calls, hnone]
  refine ⟨⟨⟨operators.length, ?_⟩, ?_, ⟨_, (hqueue? 0).trans (if_pos rfl), rfl⟩, ?_,
    ⟨first, by rw [hids]; rfl⟩, ?_⟩, ⟨[], ?_⟩, fun _ h => absurd h List.not_mem_nil,
    List.nodup_nil⟩
  · rw [hpool, hrunning, Floor.terms?, hpool?, if_pos rfl]
    rfl
  · intro j t hj ht
    rw [Floor.terms?, hpool?, if_neg (hpool ▸ hj)] at ht
    cases ht
  · intro j queue hj hq
    rw [hqueue?, if_neg hj] at hq
    cases hq
  · intro j i l hl
    have hmem := Floor.mem_calls_of_line hl
    rw [hcalls] at hmem
    cases hmem
  · rw [Day.Sound, hcalls, hexchange]
    exact .empty _

lemma Center.fit_of_withProvider {plan : Plan} {file : WatchedFile} {p : Provider}
    {monitor : Option Monitor} {c : Center}
    (h : withProvider plan file p monitor = .ok (.ok c)) : ∃ o, c.Fit o [] := by
  rw [withProvider] at h
  split at h
  · cases h
  · dsimp only at h
    rw [Floor.buildPool] at h
    split at h
    · obtain rfl := Except.ok.inj (Except.ok.inj h)
      have hn := Floor.newcomers_call? Floor.empty p.settings.1.operators.toNat
      exact ⟨_, Center.fit_of_first rfl rfl rfl rfl hn rfl rfl⟩
    · cases h

lemma Bureau.fit_of_opens {c : Center} (h : c.Opens) : ∃ o, (Bureau.of c).Fit o := by
  cases h with
  | @around size capacity members first f h p unit file =>
    rw [Floor.furnished] at h
    split at h
    · cases h
    · obtain rfl := Except.ok.inj h
      have hn := Floor.newcomers_call? Floor.empty size
      exact ⟨_, Center.fit_of_first rfl rfl rfl rfl hn rfl rfl⟩
  | @planned plan file c h =>
    rw [Center.ofPlan] at h
    split at h
    · cases h
    · exact Center.fit_of_withProvider h
    · exact Center.fit_of_withProvider h

end Switchboard
