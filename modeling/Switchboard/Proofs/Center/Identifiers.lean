import Switchboard.Proofs.Center.Updates
import Switchboard.Proofs.Floor.Identifiers

/-! The identifiers of the calls of a center whose pools are exchanged. Whatever pool takes the
place of the live one goes on with its queue and with its source of identifiers. -/

namespace Switchboard

namespace Center

def install (c : Center) (p : Nat) (now : Timestamp) : Center × Option Crash :=
  let old := c.dispatcher.pool
  let c := c.order old .stop
  let (f, crash) := c.floor.transfer p old now
  let c := { c with floor := f }
  match crash with
  | some crash => (c, some crash)
  | none =>
    let c := if c.dispatcher.running then c.order p .start else c
    ({ c with dispatcher := { c.dispatcher with pool := p } }, none)

def renew (c : Center) (spare : Option Nat) (now : Timestamp) : Center × Option Crash :=
  let (s, c) := c.readSettings
  let c := c.adopt s
  if s.operators.toNat = c.size then (c.discard spare, none)
  else
    match c.suits s spare with
    | some p => c.install p now
    | none =>
      let c := c.discard spare
      match c.build s.operators.toNat s.queueSize with
      | .error crash => (c, some crash)
      | .ok (p, c) => c.install p now

def retire (c : Center) (p : Nat) : Center := { c with floor := c.floor.close p }

variable {c : Center} {p : Nat} {spare : Option Nat} {now : Timestamp}

lemma install_crash {crash : Crash}
    (h : ((c.floor.stop c.dispatcher.pool).transfer p c.dispatcher.pool now).2 = some crash) :
    (c.install p now).1.floor =
        ((c.floor.stop c.dispatcher.pool).transfer p c.dispatcher.pool now).1 ∧
      (c.install p now).1.dispatcher = c.dispatcher ∧ (c.install p now).2 = some crash := by
  simp only [install, order, h, and_self]

lemma install_calm
    (h : ((c.floor.stop c.dispatcher.pool).transfer p c.dispatcher.pool now).2 = none) :
    (c.install p now).1.floor =
        (if c.dispatcher.running then
          ((c.floor.stop c.dispatcher.pool).transfer p c.dispatcher.pool now).1.start p
        else ((c.floor.stop c.dispatcher.pool).transfer p c.dispatcher.pool now).1) ∧
      (c.install p now).1.dispatcher = { c.dispatcher with pool := p } ∧
      c.swapIn p now = (c.install p now).1.retire c.dispatcher.pool := by
  cases hr : c.dispatcher.running with
  | true => simp only [install, swapIn, order, h, hr, retire, if_true, and_self]
  | false =>
    simp only [install, swapIn, order, h, hr, retire, Bool.false_eq_true, if_false, and_self]

theorem swapIn_of_install (h : (c.install p now).2 = none) :
    c.swapIn p now = (c.install p now).1.retire c.dispatcher.pool := by
  cases hcrash : ((c.floor.stop c.dispatcher.pool).transfer p c.dispatcher.pool now).2 with
  | none => exact (install_calm hcrash).2.2
  | some crash => cases h.symm.trans (install_crash hcrash).2.2

lemma renew_eq (c : Center) (spare : Option Nat) (now : Timestamp) :
    c.renew spare now =
      let c' := c.readSettings.2.adopt c.wanted
      if c.wanted.operators.toNat = c'.size then (c'.discard spare, none)
      else match c'.suits c.wanted spare with
        | some p => c'.install p now
        | none =>
          match (c'.discard spare).build c.wanted.operators.toNat c.wanted.queueSize with
          | .error crash => (c'.discard spare, some crash)
          | .ok (p, c) => c.install p now := rfl

lemma pool_adopt (c : Center) (s : Settings) :
    (c.adopt s).dispatcher.pool = c.dispatcher.pool := by
  rw [adopt]
  dsimp only
  split <;> rfl

lemma pool_discard (c : Center) (spare : Option Nat) :
    (c.discard spare).dispatcher = c.dispatcher := by
  cases spare <;> rfl

lemma build_act {size : Nat} {capacity : UInt64} {c' : Center}
    (h : c.build size capacity = .ok (p, c')) :
    p = c.floor.pools.length ∧
      c' = { c with floor := c.floor.act (.build size capacity) } ∧
      ∃ pool, (c.floor.act (.build size capacity)).pool? p = some pool ∧ pool.closing = false := by
  obtain ⟨f, hf, rfl⟩ := build_cases h
  obtain ⟨hp, he⟩ := Floor.build_cases hf
  have hact : c.floor.act (.build size capacity) = f := by simp only [Floor.act, hf]
  refine ⟨hp, by rw [hact], ?_⟩
  rw [hact, he, Floor.pool?_poolAround]
  exact ⟨_, if_pos hp, rfl⟩

theorem apply_of_renew (h : (c.renew spare now).2 = none) :
    c.apply spare now = (none, (c.renew spare now).1) ∨
      c.apply spare now = (none, (c.renew spare now).1.retire c.dispatcher.pool) := by
  have hpool : (c.readSettings.2.adopt c.wanted).dispatcher.pool = c.dispatcher.pool := by
    rw [pool_adopt, readSettings_frame]
  rw [renew_eq] at h ⊢
  rw [apply_eq]
  dsimp only at h ⊢
  generalize c.readSettings.2.adopt c.wanted = c' at hpool h ⊢
  rw [← hpool]
  split
  · exact .inl rfl
  · rw [if_neg ‹_›] at h
    cases hsuits : c'.suits c.wanted spare with
    | some p =>
      rw [hsuits] at h
      exact .inr (congrArg (none, ·) (swapIn_of_install h))
    | none =>
      rw [hsuits] at h
      dsimp only at h ⊢
      rw [replacePool]
      cases hb : (c'.discard spare).build c.wanted.operators.toNat c.wanted.queueSize with
      | error crash =>
        rw [hb] at h
        cases h
      | ok r =>
        obtain ⟨p, c₂⟩ := r
        rw [hb] at h
        obtain ⟨-, hc₂, -⟩ := build_act hb
        have hd : c₂.dispatcher.pool = c'.dispatcher.pool := by rw [hc₂, pool_discard]
        refine .inr (congrArg (none, ·) ?_)
        rw [swapIn_of_install h, hd]

def canTake (c : Center) (p : Nat) : Bool :=
  p != c.dispatcher.pool && (c.floor.pool? p).any (!·.closing)

def Numbers (c : Center) (g n : Nat) : Prop := c.floor.Numbers c.dispatcher.pool g n

variable {g n : Nat}

lemma canTake_iff : c.canTake p = true ↔
    p ≠ c.dispatcher.pool ∧ ∃ pool, c.floor.pool? p = some pool ∧ pool.closing = false := by
  cases hp : c.floor.pool? p <;> simp [canTake, hp]

lemma submit_eq_bring (c : Center) (number : String) (now : Timestamp) :
    c.submit number now =
      let r := c.floor.bring c.dispatcher.pool c.dispatcher.bounds number now false now
      (r.2, { c with floor := r.1 }) := rfl

namespace Numbers

lemma start (h : c.Numbers g n) : c.start.Numbers g n := Floor.Numbers.start h _

lemma stop (h : c.Numbers g n) : c.stop.Numbers g n := Floor.Numbers.act h (.stop _) rfl

lemma readSettings (h : c.Numbers g n) : c.readSettings.2.Numbers g n := by
  rw [readSettings_frame]
  exact h

lemma build (h : c.Numbers g n) {size : Nat} {capacity : UInt64} {c' : Center}
    (hb : c.build size capacity = .ok (p, c')) : c'.Numbers g n ∧ c'.canTake p = true := by
  obtain ⟨hp, rfl, hnew⟩ := build_act hb
  refine ⟨Floor.Numbers.act h (.build size capacity) rfl, canTake_iff.2 ⟨?_, hnew⟩⟩
  obtain ⟨pool, hpool, -⟩ := h.pool
  exact hp ▸ (Nat.ne_of_lt (Floor.pool_lt hpool)).symm

lemma adopt (h : c.Numbers g n) (s : Settings) : (c.adopt s).Numbers g n := by
  rw [Center.adopt]
  dsimp only
  split
  · exact h
  · exact Floor.Numbers.act h (.setCapacity _ s.queueSize) rfl

lemma discard (h : c.Numbers g n) (hs : ∀ p ∈ spare, c.canTake p = true) :
    (c.discard spare).Numbers g n := by
  cases spare with
  | none => exact h
  | some p =>
    obtain ⟨hne, -⟩ := canTake_iff.1 (hs p rfl)
    exact Floor.Numbers.act h (.close p) (bne_iff_ne.2 hne)

lemma install (h : c.Numbers g n) (hp : c.canTake p = true) (now : Timestamp) :
    (c.install p now).1.Numbers g n := by
  obtain ⟨hne, pool, hpool, hopen⟩ := canTake_iff.1 hp
  have hs : (c.floor.stop c.dispatcher.pool).Numbers c.dispatcher.pool g n :=
    Floor.Numbers.act h (.stop _) rfl
  have hpool' : (c.floor.stop c.dispatcher.pool).pool? p = some pool := by
    rw [Floor.stop, Floor.pool?_modifyPool, if_neg hne, hpool]
  cases hcrash : ((c.floor.stop c.dispatcher.pool).transfer p c.dispatcher.pool now).2 with
  | some crash =>
    obtain ⟨hf, hd, -⟩ := install_crash hcrash
    rw [Numbers, hf, hd]
    exact hs.act (.transfer p c.dispatcher.pool now) (bne_iff_ne.2 hne)
  | none =>
    obtain ⟨hf, hd, -⟩ := install_calm hcrash
    have ht := hs.takeOver hpool' hopen now hcrash
    rw [Numbers, hf, hd]
    dsimp only
    split
    · exact ht.start p
    · exact ht

lemma prepare (h : c.Numbers g n) : c.prepare.2.Numbers g n := by
  rw [prepare_eq]
  split
  · exact h.readSettings
  · cases hb : c.readSettings.2.build c.wanted.operators.toNat c.wanted.queueSize with
    | error crash => exact h.readSettings
    | ok r => exact (h.readSettings.build hb).1

lemma canTake_adopt (s : Settings) :
    (c.readSettings.2.adopt s).canTake p = c.canTake p := by
  have hpool : (c.readSettings.2.adopt s).dispatcher.pool = c.dispatcher.pool := by
    rw [pool_adopt, readSettings_frame]
  have hfloor : (c.readSettings.2.adopt s).floor.pool? p = c.floor.pool? p := by
    rw [Center.adopt, readSettings_frame]
    dsimp only
    split
    · rfl
    · exact Floor.pool?_modifyQueue ..
  rw [canTake, canTake, hpool, hfloor]

lemma renew (h : c.Numbers g n) (hs : ∀ p ∈ spare, c.canTake p = true) (now : Timestamp) :
    (c.renew spare now).1.Numbers g n := by
  have ha := h.readSettings.adopt c.wanted
  have hs' : ∀ p ∈ spare, (c.readSettings.2.adopt c.wanted).canTake p = true := by
    intro p hp
    rw [canTake_adopt]
    exact hs p hp
  rw [renew_eq]
  dsimp only
  generalize c.readSettings.2.adopt c.wanted = c' at ha hs' ⊢
  split
  · exact ha.discard hs'
  · cases hsuits : c'.suits c.wanted spare with
    | some p =>
      obtain ⟨hp, -⟩ := Option.filter_eq_some_iff.1 hsuits
      exact ha.install (hs' p hp) now
    | none =>
      have hd := ha.discard hs'
      cases hb : (c'.discard spare).build c.wanted.operators.toNat c.wanted.queueSize with
      | error crash => exact hd
      | ok r =>
        obtain ⟨hn, hp⟩ := hd.build hb
        exact hn.install hp now

end Numbers

inductive FromOne : Center → Prop
  | planned {plan : Plan} {file : WatchedFile} {c : Center} (h : ofPlan plan file = .ok (.ok c)) :
      FromOne c
  | around {size : Nat} {capacity : Option UInt64} {members : List Recorder} {f : Floor}
      (h : Floor.furnished size capacity members 1 = .ok f) (p : Provider) (unit : Duration)
      (file : WatchedFile) : FromOne (around f p unit file)

lemma numbers_of_first {operators : List Operator} {queue : Option Nat} {set : RecorderSet}
    (hpools : c.floor.pools = [some ⟨operators, queue, set, 0, true, false, false⟩])
    (hqueues : ∀ q ∈ c.floor.queues, ∃ capacity set, q = some (.empty capacity set))
    (hids : c.floor.idSources = [1]) (hpool : c.dispatcher.pool = 0) : c.Numbers 0 0 := by
  rw [Numbers, hpool]
  refine ⟨⟨⟨operators, queue, set, 0, true, false, false⟩, ?_, rfl, rfl, ?_⟩, ?_⟩
  · rw [Floor.pool?, hpools]
    rfl
  · intro q _
    apply Floor.risesTo_of_nil
    cases hq : c.floor.queue? q with
    | none => rw [Floor.waitingIn, hq]
    | some queue =>
      have hm : some queue ∈ c.floor.queues :=
        List.mem_iff_getElem?.2 ⟨q, Option.join_eq_some_iff.1 hq⟩
      obtain ⟨capacity, set, he⟩ := hqueues _ hm
      obtain rfl := Option.some.inj he
      rw [Floor.waitingIn_of_queue? hq, CallQueue.empty, List.map_nil]
  · rw [hids]
    rfl

lemma numbers_of_withProvider {plan : Plan} {file : WatchedFile} {p : Provider}
    {monitor : Option Monitor} (h : withProvider plan file p monitor = .ok (.ok c)) :
    c.Numbers 0 0 := by
  rw [withProvider] at h
  split at h
  · cases h
  · dsimp only at h
    rw [Floor.buildPool] at h
    split at h
    · obtain rfl := Except.ok.inj (Except.ok.inj h)
      refine numbers_of_first rfl ?_ rfl rfl
      intro q hq
      exact ⟨_, _, List.mem_singleton.1 hq⟩
    · cases h

lemma FromOne.numbers (h : c.FromOne) : c.Numbers 0 0 := by
  cases h with
  | @planned plan file c h =>
    rw [ofPlan] at h
    split at h
    · cases h
    · exact numbers_of_withProvider h
    · exact numbers_of_withProvider h
  | @around size capacity members f h p unit file =>
    rw [Floor.furnished] at h
    split at h
    · cases h
    · obtain rfl := Except.ok.inj h
      cases capacity with
      | none => exact numbers_of_first rfl (fun q hq => absurd hq List.not_mem_nil) rfl rfl
      | some capacity =>
        refine numbers_of_first rfl ?_ rfl rfl
        intro q hq
        exact ⟨_, _, List.mem_singleton.1 hq⟩

end Center

structure Agency where
  center : Center
  replies : List (Except Crash (Except DispatchError Ticket))
  /-- How many identifiers the calls of the center were given. -/
  drawn : Nat

namespace Agency

inductive Deed
  | submit (number : String) (now : Timestamp)
  | start
  | stop
  | prepare
  | renew (spare : Option Nat) (now : Timestamp)
  | install (p : Nat) (now : Timestamp)
  | found (size : Nat) (queue : Option Nat) (set : RecorderSet) (first : CallId)
  | floor (deed : Floor.Deed)
  /-- Whatever is not about calls changes. -/
  | settle (other : Center)

def act (a : Agency) : Deed → Agency
  | .submit number now =>
    let (r, c) := a.center.submit number now
    let draws := (a.center.floor.door? a.center.dispatcher.pool).isSome
    ⟨c, a.replies ++ [r], if draws then a.drawn + 1 else a.drawn⟩
  | .start => { a with center := a.center.start }
  | .stop => { a with center := a.center.stop }
  | .prepare => { a with center := a.center.prepare.2 }
  | .renew spare now =>
    if spare.all a.center.canTake then { a with center := (a.center.renew spare now).1 } else a
  | .install p now =>
    if a.center.canTake p then { a with center := (a.center.install p now).1 } else a
  | .found size queue set first =>
    let (ids, f) := a.center.floor.newIds first
    { a with center := { a.center with floor := (f.poolAround size queue set ids).2 } }
  | .floor deed =>
    if a.center.floor.leavesAlone a.center.dispatcher.pool deed then
      { a with center := { a.center with floor := a.center.floor.act deed } }
    else a
  | .settle other =>
    { a with center := { other with
        floor := a.center.floor
        dispatcher := { other.dispatcher with
          pool := a.center.dispatcher.pool
          running := a.center.dispatcher.running } } }

def run (a : Agency) (deeds : List Deed) : Agency := deeds.foldl act a

def of (c : Center) : Agency := ⟨c, [], 0⟩

def told (a : Agency) : List CallId :=
  a.replies.filterMap fun
    | .ok (.ok ticket) => some ticket.callId
    | _ => none

structure Orderly (a : Agency) (g : Nat) : Prop where
  numbers : a.center.Numbers g a.drawn
  rises : a.told.Pairwise (· < ·)
  bounded : ∀ id ∈ a.told, id.toNat ≤ a.drawn

variable {a : Agency} {g : Nat}

lemma drawn_act (a : Agency) (deed : Deed) : a.drawn ≤ (a.act deed).drawn := by
  cases deed with
  | submit number now =>
    rw [act]
    dsimp only
    split <;> omega
  | renew | install | floor =>
    rw [act]
    split <;> exact Nat.le_refl _
  | _ => exact Nat.le_refl _

lemma told_submit (a : Agency) (number : String) (now : Timestamp) :
    (a.act (.submit number now)).told = a.told ∨
      ∃ q id, a.center.floor.door? a.center.dispatcher.pool = some (q, id) ∧
        (a.act (.submit number now)).told = a.told ++ [id] := by
  have htold : (a.act (.submit number now)).told = a.told ++
      Agency.told ⟨a.center, [(a.center.submit number now).1], 0⟩ := by
    rw [told, told, told]
    exact List.filterMap_append
  rw [htold]
  cases hr : (a.center.submit number now).1 with
  | error crash => exact .inl (by simp [told])
  | ok reply =>
    cases reply with
    | error e => exact .inl (by simp [told])
    | ok ticket =>
      rw [Center.submit_eq_bring] at hr
      obtain ⟨-, q, hd⟩ := Floor.bring_ticket _ _ _ _ hr
      exact .inr ⟨q, ticket.callId, hd, by simp [told]⟩

lemma drawn_submit (a : Agency) (number : String) (now : Timestamp) :
    (a.act (.submit number now)).drawn =
      if (a.center.floor.door? a.center.dispatcher.pool).isSome then a.drawn + 1 else a.drawn := rfl

lemma numbers_submit (h : a.center.Numbers g a.drawn) (number : String) (now : Timestamp)
    (hfew : (a.act (.submit number now)).drawn < UInt64.size) :
    (a.act (.submit number now)).center.Numbers g (a.act (.submit number now)).drawn := by
  have hdrawn := a.drawn_submit number now
  cases hd : a.center.floor.door? a.center.dispatcher.pool with
  | none =>
    rw [hd, Option.isSome_none, if_neg Bool.false_ne_true] at hdrawn
    rw [hdrawn]
    exact Floor.Numbers.bring_of_no_door _ number now now h hd false
  | some door =>
    rw [hd, Option.isSome_some, if_pos rfl] at hdrawn
    rw [hdrawn] at hfew ⊢
    exact Floor.Numbers.bring _ number now now h hd hfew false

lemma orderly_submit (h : a.Orderly g) (number : String) (now : Timestamp)
    (hfew : (a.act (.submit number now)).drawn < UInt64.size) :
    (a.act (.submit number now)).Orderly g := by
  have hle := a.drawn_act (.submit number now)
  have hnumbers := numbers_submit h.numbers number now hfew
  rcases a.told_submit number now with hsame | ⟨q, id, hd, hmore⟩
  · refine ⟨hnumbers, hsame ▸ h.rises, ?_⟩
    intro i hi
    exact Nat.le_trans (h.bounded i (hsame ▸ hi)) hle
  · have hdrawn := a.drawn_submit number now
    rw [hd, Option.isSome_some, if_pos rfl] at hdrawn
    have hid : id.toNat = a.drawn + 1 := by
      rw [Floor.Numbers.id_of_door h.numbers hd]
      exact UInt64.toNat_ofNat_of_lt' (hdrawn ▸ hfew)
    refine ⟨hnumbers, ?_, ?_⟩
    · rw [hmore]
      refine List.pairwise_append.2 ⟨h.rises, List.pairwise_singleton .., ?_⟩
      intro i hi j hj
      obtain rfl := List.mem_singleton.1 hj
      rw [UInt64.lt_iff_toNat_lt, hid]
      exact Nat.lt_succ_of_le (h.bounded i hi)
    · intro i hi
      rw [hmore] at hi
      rcases List.mem_append.1 hi with hi | hi
      · exact Nat.le_trans (h.bounded i hi) hle
      · obtain rfl := List.mem_singleton.1 hi
        exact Nat.le_of_eq (hid.trans hdrawn.symm)

theorem orderly_act (h : a.Orderly g) (deed : Deed) (hfew : (a.act deed).drawn < UInt64.size) :
    (a.act deed).Orderly g := by
  have directs {c : Center} (hn : c.Numbers g a.drawn) :
      ({ a with center := c } : Agency).Orderly g := ⟨hn, h.rises, h.bounded⟩
  cases deed with
  | submit number now => exact orderly_submit h number now hfew
  | start => exact directs h.numbers.start
  | stop => exact directs h.numbers.stop
  | prepare => exact directs h.numbers.prepare
  | renew spare now =>
    rw [act]
    split
    · have hs : ∀ p ∈ spare, a.center.canTake p = true := by
        intro p hp
        obtain rfl : spare = some p := hp
        exact ‹_›
      exact directs (h.numbers.renew hs now)
    · exact h
  | install p now =>
    rw [act]
    split
    · exact directs (h.numbers.install ‹_› now)
    · exact h
  | found size queue set first =>
    exact directs (Floor.Numbers.poolAround h.numbers first size queue set)
  | floor deed =>
    rw [act]
    split
    · exact directs (Floor.Numbers.act h.numbers deed ‹_›)
    · exact h
  | settle other => exact directs h.numbers

lemma drawn_run (a : Agency) (deeds : List Deed) : a.drawn ≤ (a.run deeds).drawn := by
  induction deeds generalizing a with
  | nil => exact Nat.le_refl _
  | cons deed deeds ih => exact Nat.le_trans (a.drawn_act deed) (ih (a.act deed))

lemma orderly_run (h : a.Orderly g) (deeds : List Deed) (hfew : (a.run deeds).drawn < UInt64.size) :
    (a.run deeds).Orderly g := by
  induction deeds generalizing a with
  | nil => exact h
  | cons deed deeds ih =>
    have hact : (a.act deed).drawn < UInt64.size :=
      Nat.lt_of_le_of_lt (drawn_run (a.act deed) deeds) hfew
    exact ih (orderly_act h deed hact) hfew

lemma orderly_of {c : Center} (h : c.FromOne) : (of c).Orderly 0 := by
  refine ⟨h.numbers, List.Pairwise.nil, ?_⟩
  intro id hid
  cases hid

end Agency

lemma Center.door?_of_no_queue {c : Center} (h : c.liveQueue? = none) :
    c.floor.door? c.dispatcher.pool = none := by
  rw [Center.liveQueue?, Center.livePool?] at h
  cases hp : c.floor.pool? c.dispatcher.pool with
  | none => rw [Floor.door?, hp]
  | some pool =>
    rw [hp, Option.bind_some] at h
    cases hq : pool.queue with
    | none => simp only [Floor.door?, hp, hq]
    | some q => simp only [Floor.door?, hp, hq, h]

theorem call_ids_rise {c : Center} (hc : c.FromOne) (deeds : List Agency.Deed)
    (hfew : ((Agency.of c).run deeds).drawn < UInt64.size) :
    let a := (Agency.of c).run deeds
    a.told.Pairwise (· < ·) ∧ a.told.Nodup ∧
      (∀ queue, a.center.liveQueue? = some queue →
        (queue.waiting.map Entry.id).Pairwise (· < ·)) ∧
      (∀ number now, a.center.liveQueue? = none →
        (a.center.submit number now).1 = .ok (.error .queueNotInstalled) ∧
          (a.center.submit number now).2.floor.idSources = a.center.floor.idSources) ∧
      (∀ p now, (a.center.install p now).2 = none →
        a.center.swapIn p now = (a.center.install p now).1.retire a.center.dispatcher.pool) ∧
      ∀ spare now, (a.center.renew spare now).2 = none →
        a.center.apply spare now = (none, (a.center.renew spare now).1) ∨
          a.center.apply spare now =
            (none, (a.center.renew spare now).1.retire a.center.dispatcher.pool) := by
  intro a
  have h : a.Orderly 0 := Agency.orderly_run (Agency.orderly_of hc) deeds hfew
  refine ⟨h.rises, ?_, ?_, ?_, fun p now => Center.swapIn_of_install,
    fun spare now => Center.apply_of_renew⟩
  · apply h.rises.imp
    rintro i j hlt rfl
    exact UInt64.lt_irrefl i hlt
  · intro queue hqueue
    obtain ⟨pool, hp, -, -, hrises⟩ := h.numbers.pool
    rw [Center.liveQueue?, Center.livePool?, hp, Option.bind_some, Floor.queueOf?] at hqueue
    obtain ⟨q, hq, hqueue⟩ := Option.bind_eq_some_iff.1 hqueue
    have hr := (hrises q hq).rises
    rw [Floor.waitingIn_of_queue? hqueue, List.pairwise_map] at hr
    rw [List.pairwise_map]
    exact hr
  · intro number now hnone
    have hd := Center.door?_of_no_queue hnone
    exact Floor.bring_without_queue a.center.floor a.center.dispatcher.pool hd
      a.center.dispatcher.bounds number now false now

namespace Agency

def overASwap : List Deed :=
  let bounds : ServiceBounds := ⟨1, 20, .zero⟩
  [.submit "555-0100" Bureau.noon, .floor (.build 2 4),
    .floor (.bring 1 bounds "555-0111" Bureau.noon false Bureau.noon),
    .floor (.bring 1 bounds "555-0112" Bureau.noon false Bureau.noon),
    .submit "555-0101" Bureau.noon, .install 1 Bureau.noon, .submit "555-0102" Bureau.noon]

end Agency

theorem call_ids_rise_over_a_swap :
    let a := (Agency.of Bureau.smallCenter).run Agency.overASwap
    a.center.dispatcher.pool = 1 ∧ a.told = [1, 2, 3] ∧ a.told.Pairwise (· < ·) := by
  intro a
  have hf : Floor.furnished 1 (some 4) [] 1 = .ok Bureau.small := rfl
  have hfew : a.drawn < UInt64.size := by decide
  obtain ⟨hrises, -⟩ := call_ids_rise (.around hf ..) Agency.overASwap hfew
  exact ⟨rfl, rfl, hrises⟩

end Switchboard
