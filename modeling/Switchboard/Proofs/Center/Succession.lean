import Switchboard.Center
import Switchboard.Proofs.Floor.Leading

/-! The pools of a call center that succeed one another. Whatever the dispatcher does, one pool is
live, and a pool that is still to take its place is not given to anybody else. -/

namespace Switchboard.Center

open Floor (Quiet Spare Retired)

structure Fit (c : Center) (o : Estate) (spares : List Nat) : Prop where
  led : c.floor.Led o c.dispatcher.pool c.dispatcher.running
  sound : c.floor.Sound
  spare : ∀ s ∈ spares, s ≠ c.dispatcher.pool ∧ c.floor.Spare s
  distinct : spares.Nodup

structure Succeeds (o : Estate) (c c' : Center) : Prop where
  quiet : c.floor.Quiet o c'.floor
  bounds : c'.dispatcher.bounds = c.dispatcher.bounds
  unit : c'.dispatcher.unit = c.dispatcher.unit
  running : c'.dispatcher.running = c.dispatcher.running
  provider : c'.dispatcher.provider = c.dispatcher.provider
  providers : c'.providers = c.providers
  replaced : c'.dispatcher.pool = c.dispatcher.pool ∨ c'.floor.Retired c.dispatcher.pool

variable {c c' c₁ : Center} {o : Estate} {spares : List Nat} {p size : Nat} {capacity : UInt64}
  {now : Timestamp}

lemma Succeeds.refl (o : Estate) (c : Center) : c.Succeeds o c :=
  ⟨.refl o c.floor, rfl, rfl, rfl, rfl, rfl, .inl rfl⟩

lemma Succeeds.trans (h : c.Succeeds o c₁) (h' : c₁.Succeeds o c') : c.Succeeds o c' where
  quiet := h.quiet.trans h'.quiet
  bounds := h'.bounds.trans h.bounds
  unit := h'.unit.trans h.unit
  running := h'.running.trans h.running
  provider := h'.provider.trans h.provider
  providers := h'.providers.trans h.providers
  replaced := by
    rcases h.replaced with he | hr
    · rw [← he]
      exact h'.replaced
    · exact .inr (h'.quiet.retired _ hr)

lemma size_eq (c : Center) :
    c.size = ((c.floor.terms? c.dispatcher.pool).map Terms.size).getD 0 := by
  rw [Center.size, livePool?, Floor.terms?]
  cases c.floor.pool? c.dispatcher.pool <;> rfl

lemma build_cases (hb : c.build size capacity = .ok (p, c')) :
    ∃ f, c.floor.buildPool size capacity = .ok (p, f) ∧ c' = { c with floor := f } := by
  rw [build] at hb
  cases hf : c.floor.buildPool size capacity with
  | error crash =>
    rw [hf] at hb
    cases hb
  | ok r =>
    obtain ⟨n, f⟩ := r
    rw [hf] at hb
    obtain ⟨rfl, rfl⟩ := Prod.ext_iff.1 (Except.ok.inj hb)
    exact ⟨f, rfl, rfl⟩

namespace Fit

lemma liveQueue? (h : c.Fit o spares) : c.liveQueue? = c.floor.queue? o.queue := by
  obtain ⟨pool, hp, hq, -⟩ := h.led.exists_pool
  rw [Center.liveQueue?, livePool?, hp, Option.bind_some, Floor.queueOf?, hq, Option.bind_some]

lemma sublist {spares' : List Nat} (h : c.Fit o spares) (hs : spares'.Sublist spares) :
    c.Fit o spares' :=
  ⟨h.led, h.sound, fun s hm => h.spare s (hs.subset hm), h.distinct.sublist hs⟩

lemma perm {spares' : List Nat} (h : c.Fit o spares) (hs : spares.Perm spares') :
    c.Fit o spares' :=
  ⟨h.led, h.sound, fun s hm => h.spare s (hs.mem_iff.2 hm), hs.nodup_iff.1 h.distinct⟩

lemma of_floor (h : c.Fit o spares) (hl : c'.floor.Led o c'.dispatcher.pool c'.dispatcher.running)
    (hs : c'.floor.Sound) (hp : c'.dispatcher.pool = c.dispatcher.pool)
    (ht : ∀ s t, s ≠ c.dispatcher.pool → c.floor.terms? s = some t → t.closing = false →
      c'.floor.terms? s = some t) : c'.Fit o spares := by
  refine ⟨hl, hs, ?_, h.distinct⟩
  intro s hm
  obtain ⟨hne, t, hst, hopen⟩ := h.spare s hm
  exact ⟨hp ▸ hne, t, ht s t hne hst hopen, hopen⟩

lemma start (h : c.Fit o spares) :
    c.start.Fit o spares ∧ c.floor.Quiet o c.start.floor ∧ c.start.size = c.size := by
  have hterms := Floor.terms?_start c.floor c.dispatcher.pool
  refine ⟨h.of_floor h.led.start (h.sound.start _) rfl ?_, .start c.floor c.dispatcher.pool, ?_⟩
  · intro s t hne ht _
    exact (hterms s).trans (by rw [if_neg hne, ht])
  · rw [size_eq, size_eq]
    show ((c.floor.start c.dispatcher.pool).terms? c.dispatcher.pool |>.map Terms.size).getD 0 = _
    rw [hterms, if_pos rfl, Option.map_map]
    rfl

lemma stop (h : c.Fit o spares) :
    c.stop.Fit o spares ∧ c.floor.Quiet o c.stop.floor ∧ c.stop.size = c.size := by
  have hterms := Floor.terms?_stop c.floor c.dispatcher.pool
  refine ⟨h.of_floor h.led.stop (h.sound.act (.stop _)) rfl ?_, .stop c.floor c.dispatcher.pool, ?_⟩
  · intro s t hne ht _
    exact (hterms s).trans (by rw [if_neg hne, ht])
  · rw [size_eq, size_eq]
    show ((c.floor.stop c.dispatcher.pool).terms? c.dispatcher.pool |>.map Terms.size).getD 0 = _
    rw [hterms, if_pos rfl, Option.map_map]
    rfl

lemma build (h : c.Fit o spares) (hb : c.build size capacity = .ok (p, c')) :
    c'.Fit o (p :: spares) ∧ c.Succeeds o c' ∧ c'.dispatcher.pool = c.dispatcher.pool ∧
      (c'.floor.terms? p).map Terms.size = some size ∧
      c'.floor.terms? c.dispatcher.pool = c.floor.terms? c.dispatcher.pool := by
  obtain ⟨f, hf, rfl⟩ := build_cases hb
  obtain ⟨hquiet, hled⟩ := h.led.build hf
  have hterms := Floor.terms?_build hf
  have hnew : p = c.floor.pools.length := (Floor.build_cases hf).1
  have old (s : Nat) (t : Terms) (ht : c.floor.terms? s = some t) :
      s ≠ p ∧ f.terms? s = some t := by
    obtain ⟨pool, hp, -⟩ := Floor.pool?_of_terms? ht
    have hne : s ≠ p := hnew ▸ Nat.ne_of_lt (Floor.pool_lt hp)
    exact ⟨hne, by rw [hterms, if_neg hne, ht]⟩
  have hsound : f.Sound := by
    have hact : c.floor.act (.build size capacity) = f := by simp only [Floor.act, hf]
    exact hact ▸ h.sound.act (.build size capacity)
  have hnewTerms := (hterms p).trans (if_pos rfl)
  obtain ⟨m, hlive⟩ := h.led.live
  obtain ⟨hpn, hlive'⟩ := old _ _ hlive
  refine ⟨⟨hled, hsound, ?_, ?_⟩, ⟨hquiet, rfl, rfl, rfl, rfl, rfl, .inl rfl⟩, rfl, ?_, ?_⟩
  · intro s hm
    rcases List.mem_cons.1 hm with rfl | hm
    · exact ⟨hpn.symm, _, hnewTerms, rfl⟩
    · obtain ⟨hne, t, ht, hopen⟩ := h.spare s hm
      exact ⟨hne, t, (old s t ht).2, hopen⟩
  · refine List.nodup_cons.2 ⟨?_, h.distinct⟩
    intro hm
    obtain ⟨-, t, ht, -⟩ := h.spare p hm
    exact (old p t ht).1 rfl
  · show (f.terms? p).map Terms.size = some size
    rw [hnewTerms]
    rfl
  · exact hlive'.trans hlive.symm

end Fit

lemma swapIn_floor (c : Center) (p : Nat) (now : Timestamp) :
    (c.swapIn p now).floor = c.floor.handOver p c.dispatcher.pool c.dispatcher.running now := by
  cases hr : c.dispatcher.running with
  | true => simp only [swapIn, order, hr, Floor.handOver, Floor.takeOver, if_true]
  | false =>
    simp only [swapIn, order, hr, Floor.handOver, Floor.takeOver, Bool.false_eq_true, if_false]

lemma swapIn_frame (c : Center) (p : Nat) (now : Timestamp) :
    (c.swapIn p now).dispatcher = { c.dispatcher with pool := p } ∧
      (c.swapIn p now).providers = c.providers := by
  cases hr : c.dispatcher.running with
  | true => simp only [swapIn, order, hr, if_true, and_self]
  | false => simp only [swapIn, order, hr, Bool.false_eq_true, if_false, and_self]

namespace Fit

lemma swapIn (h : c.Fit o (p :: spares)) (now : Timestamp) :
    (c.swapIn p now).Fit o spares ∧ c.Succeeds o (c.swapIn p now) ∧
      (c.swapIn p now).size = ((c.floor.terms? p).map Terms.size).getD 0 := by
  obtain ⟨hnew, hspares⟩ := List.nodup_cons.1 h.distinct
  obtain ⟨hne, hp⟩ := h.spare p (List.mem_cons_self ..)
  obtain ⟨hquiet, hled, hretired, hsize, hothers⟩ := h.led.handOver hne hp now
  obtain ⟨hd, hproviders⟩ := c.swapIn_frame p now
  have hsound := h.sound.handOver p c.dispatcher.pool c.dispatcher.running now
  rw [← swapIn_floor] at hquiet hled hretired hsize hothers hsound
  refine ⟨⟨?_, hsound, ?_, hspares⟩, ⟨hquiet, ?_, ?_, ?_, ?_, hproviders, .inr hretired⟩, ?_⟩
  · rw [hd]
    exact hled
  · intro s hm
    obtain ⟨hs, t, ht, hopen⟩ := h.spare s (List.mem_cons_of_mem _ hm)
    have hsp : s ≠ p := fun he => hnew (he ▸ hm)
    rw [hd]
    exact ⟨hsp, t, (hothers s hsp hs).trans ht, hopen⟩
  · rw [hd]
  · rw [hd]
  · rw [hd]
  · rw [hd]
  · rw [size_eq, hd, hsize]

lemma discard {spare : Option Nat} (h : c.Fit o (spare.toList ++ spares)) :
    (c.discard spare).Fit o spares ∧ c.Succeeds o (c.discard spare) ∧
      (c.discard spare).size = c.size := by
  cases spare with
  | none => exact ⟨h, .refl o c, rfl⟩
  | some p =>
    obtain ⟨hnew, hspares⟩ := List.nodup_cons.1 h.distinct
    obtain ⟨hne, -⟩ := h.spare p (List.mem_cons_self ..)
    have hterms (s : Nat) (hs : s ≠ p) : (c.discard (some p)).floor.terms? s = c.floor.terms? s :=
      (Floor.terms?_close ..).trans (if_neg hs)
    refine ⟨⟨h.led.close_of_ne hne, h.sound.act (.close p), ?_, hspares⟩,
      ⟨.close c.floor p, rfl, rfl, rfl, rfl, rfl, .inl rfl⟩, ?_⟩
    · intro s hm
      obtain ⟨hs, t, ht, hopen⟩ := h.spare s (List.mem_cons_of_mem _ hm)
      have hsp : s ≠ p := fun he => hnew (he ▸ hm)
      exact ⟨hs, t, (hterms s hsp).trans ht, hopen⟩
    · rw [size_eq, size_eq]
      show (((c.discard (some p)).floor.terms? c.dispatcher.pool).map Terms.size).getD 0 = _
      rw [hterms _ hne.symm]

lemma replacePool (h : c.Fit o spares) (size : Nat) (capacity : UInt64) (now : Timestamp) :
    (c.replacePool size capacity now).2.Fit o spares ∧
      c.Succeeds o (c.replacePool size capacity now).2 ∧
      ((c.replacePool size capacity now).1 = none →
        (c.replacePool size capacity now).2.size = size) := by
  rw [Center.replacePool]
  cases hb : c.build size capacity with
  | error crash => exact ⟨h, .refl o c, fun hn => by cases hn⟩
  | ok r =>
    obtain ⟨p, c₁⟩ := r
    obtain ⟨hfit, hs, -, hsize, -⟩ := h.build hb
    obtain ⟨hfit', hs', hsize'⟩ := hfit.swapIn now
    refine ⟨hfit', hs.trans hs', fun _ => ?_⟩
    rw [hsize', hsize]
    rfl

end Fit

lemma readSettings_frame (c : Center) :
    c.readSettings.2 = { c with providers := c.readSettings.2.providers } := by
  rw [readSettings]
  split <;> rfl

def wanted (c : Center) : Settings := c.readSettings.1

lemma prepare_eq (c : Center) :
    c.prepare =
      if c.wanted.operators.toNat = c.size then (.ok none, c.readSettings.2)
      else match c.readSettings.2.build c.wanted.operators.toNat c.wanted.queueSize with
        | .error crash => (.error crash, c.readSettings.2)
        | .ok (p, c) => (.ok (some p), c) := by
  have hsize : c.readSettings.2.size = c.size := by
    rw [readSettings_frame]
    rfl
  refine Eq.trans ?_
    (if_congr (iff_of_eq (congrArg (c.wanted.operators.toNat = ·) hsize)) rfl rfl)
  rfl

lemma apply_eq (c : Center) (spare : Option Nat) (now : Timestamp) :
    c.apply spare now =
      let c' := c.readSettings.2.adopt c.wanted
      if c.wanted.operators.toNat = c'.size then (none, c'.discard spare)
      else match c'.suits c.wanted spare with
        | some p => (none, c'.swapIn p now)
        | none =>
          (c'.discard spare).replacePool c.wanted.operators.toNat c.wanted.queueSize now := rfl

namespace Fit

lemma readSettings (h : c.Fit o spares) : c.readSettings.2.Fit o spares := by
  rw [readSettings_frame]
  exact ⟨h.led, h.sound, h.spare, h.distinct⟩

lemma prepare (h : c.Fit o spares) :
    c.readSettings.2.Succeeds o c.prepare.2 ∧ c.prepare.2.size = c.size ∧
      match c.prepare.1 with
      | .ok spare => c.prepare.2.Fit o (spare.toList ++ spares)
      | .error _ => c.prepare.2.Fit o spares := by
  have hsize : c.readSettings.2.size = c.size := by
    rw [readSettings_frame]
    rfl
  rw [prepare_eq]
  split
  · exact ⟨.refl o _, hsize, h.readSettings⟩
  · cases hb : c.readSettings.2.build c.wanted.operators.toNat c.wanted.queueSize with
    | error crash => exact ⟨.refl o _, hsize, h.readSettings⟩
    | ok r =>
      obtain ⟨p, c'⟩ := r
      obtain ⟨hfit, hs, hpool, -, hlive⟩ := h.readSettings.build hb
      refine ⟨hs, ?_, hfit⟩
      rw [← hsize, size_eq, size_eq, ← hlive, hpool]

lemma adopt (h : c.Fit o spares) (s : Settings) :
    c.adopt s = { c with
        dispatcher := { c.dispatcher with bounds := ⟨s.rMin, s.rMax, c.dispatcher.unit⟩ }
        floor := c.floor.setCapacity o.queue s.queueSize } ∧
      (c.adopt s).Fit o spares := by
  obtain ⟨pool, hp, hq, -⟩ := h.led.exists_pool
  have he : c.adopt s = { c with
      dispatcher := { c.dispatcher with bounds := ⟨s.rMin, s.rMax, c.dispatcher.unit⟩ }
      floor := c.floor.setCapacity o.queue s.queueSize } := by
    simp only [Center.adopt, livePool?, hp, Option.bind_some, hq]
  refine ⟨he, ?_⟩
  rw [he]
  refine h.of_floor (h.led.setCapacity s.queueSize).1 (h.sound.act (.setCapacity _ _)) rfl ?_
  intro j t _ ht _
  rw [Floor.terms?, Floor.setCapacity, Floor.pool?_modifyQueue]
  exact ht

lemma apply {spare : Option Nat} (h : c.Fit o (spare.toList ++ spares)) (now : Timestamp) :
    (c.apply spare now).2.Fit o spares ∧
      (c.readSettings.2.adopt c.wanted).Succeeds o (c.apply spare now).2 ∧
      ((c.apply spare now).1 = none →
        (c.apply spare now).2.size = c.wanted.operators.toNat) := by
  have hfit := (h.readSettings.adopt c.wanted).2
  rw [apply_eq]
  dsimp only
  generalize c.readSettings.2.adopt c.wanted = c' at hfit ⊢
  split
  · obtain ⟨hd, hs, hsize⟩ := hfit.discard
    exact ⟨hd, hs, fun _ => hsize.trans (Eq.symm ‹_›)⟩
  · cases hsuits : c'.suits c.wanted spare with
    | some p =>
      obtain ⟨rfl, hp⟩ := Option.filter_eq_some_iff.1 hsuits
      obtain ⟨hs, hsucc, hsize⟩ := hfit.swapIn now
      refine ⟨hs, hsucc, fun _ => hsize.trans ?_⟩
      rw [Floor.terms?]
      cases hpool : c'.floor.pool? p with
      | none =>
        rw [hpool] at hp
        cases hp
      | some pool =>
        rw [hpool] at hp
        exact beq_iff_eq.1 hp
    | none =>
      obtain ⟨hd, hs, -⟩ := hfit.discard
      obtain ⟨hr, hs', hsize⟩ := hd.replacePool c.wanted.operators.toNat c.wanted.queueSize now
      exact ⟨hr, hs.trans hs', hsize⟩

end Fit

end Switchboard.Center
