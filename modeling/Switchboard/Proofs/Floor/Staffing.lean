import Switchboard.Proofs.Floor.Shifts

/-! How the pools are staffed on a shift. Operators leave a pool while it is stopped or when it is
closed, and a start hires for every place that is vacant. -/

namespace Switchboard

namespace Pool

def isGoneAt (p : Pool) (i : Nat) : Bool := (p.operators[i]?).any (·.isGone)

variable {pool : Pool} {i : Nat}

lemma isGone_wake (o : Operator) : o.wake.isGone = o.isGone := by
  obtain ⟨id, stance⟩ := o
  cases stance <;> simp [Operator.wake, Operator.isParked, Operator.isGone]

lemma isGone_replaced (o : Operator) (id : UInt64) :
    (if o.isGone then (⟨id, .awake⟩ : Operator) else o).isGone = false := by
  obtain ⟨own, stance⟩ := o
  cases stance <;> rfl

@[simp] lemma isGoneAt_wakeOne (pool : Pool) (i : Nat) :
    pool.wakeOne.isGoneAt i = pool.isGoneAt i := by
  simp only [isGoneAt, wakeOne, List.getElem?_modify]
  cases pool.operators[i]? with
  | none => rfl
  | some o => by_cases hi : pool.operators.findIdx (·.isParked) = i <;> simp [hi, isGone_wake]

@[simp] lemma isGoneAt_wakeAll (pool : Pool) (i : Nat) :
    pool.wakeAll.isGoneAt i = pool.isGoneAt i := by
  simp only [isGoneAt, wakeAll, List.getElem?_map]
  cases pool.operators[i]? with
  | none => rfl
  | some o => exact isGone_wake o

@[simp] lemma isGoneAt_close (pool : Pool) (i : Nat) :
    pool.close.isGoneAt i = pool.isGoneAt i :=
  isGoneAt_wakeAll { pool with closing := true } i

lemma isGoneAt_reviveAt (pool : Pool) (first k i : Nat) :
    (pool.reviveAt first k).isGoneAt i = (pool.isGoneAt i && i != k) := by
  simp only [isGoneAt, reviveAt, List.getElem?_modify]
  cases pool.operators[i]? with
  | none => rfl
  | some o =>
    by_cases hi : k = i
    · subst hi
      simp [isGone_replaced]
    · simp [hi, Ne.symm hi]

lemma isGoneAt_revive (pool : Pool) (first i : Nat) : (pool.revive first).isGoneAt i = false := by
  simp only [isGoneAt, revive, List.getElem?_mapIdx]
  cases pool.operators[i]? with
  | none => rfl
  | some o => exact isGone_replaced o _

lemma isGoneAt_setStance_of_ne (pool : Pool) {k : Nat} (hi : i ≠ k) (s : Stance) :
    (pool.setStance k s).isGoneAt i = pool.isGoneAt i := by
  simp only [isGoneAt, setStance, List.getElem?_modify, hi.symm, if_false]
  cases pool.operators[i]? <;> rfl

lemma isGoneAt_setStance {s : Stance} (h : (pool.setStance i s).isGoneAt i = true) :
    s = .gone := by
  simp only [isGoneAt, setStance, List.getElem?_modify, if_true] at h
  cases ho : pool.operators[i]? with
  | none => simp [ho] at h
  | some o =>
    simp only [ho] at h
    cases s with
    | gone => rfl
    | _ => cases h

lemma line?_reviveAt (pool : Pool) (first k i : Nat) :
    (pool.reviveAt first k).line? i = pool.line? i := by
  apply line?_modify
  intro o _
  obtain ⟨id, stance⟩ := o
  cases stance <;> rfl

lemma lt_of_isGoneAt (h : pool.isGoneAt i = true) : i < pool.size := by
  by_contra hi
  simp [isGoneAt, List.getElem?_eq_none (Nat.not_lt.1 hi)] at h

lemma live_eq_size (h : ∀ i, pool.isGoneAt i = false) : pool.live = pool.size := by
  have hall : ∀ o ∈ pool.operators, (!o.isGone) = true := by
    intro o ho
    obtain ⟨i, hi⟩ := List.mem_iff_getElem?.1 ho
    have hg := h i
    simpa [isGoneAt, hi] using hg
  rw [live, List.filter_eq_self.2 hall, size]

end Pool

namespace Shift

structure Staffed (s : Shift) (p : Nat) (pool : Pool) : Prop where
  paused : pool.draining = true → pool.paused = true
  covered : pool.isRunning = true → ∀ i, pool.isGoneAt i = true →
    ∃ start ∈ s.starts, start.pool = p ∧ start.next ≤ i

def Sound (s : Shift) : Prop := ∀ p pool, s.floor.pool? p = some pool → s.Staffed p pool

variable {s s' : Shift} {p : Nat} {pool pool' : Pool}

lemma isRunning_of_paused (h : pool.paused = true) : pool.isRunning = false := by
  simp [Pool.isRunning, h]

lemma isRunning_of_closing (h : pool.closing = true) : pool.isRunning = false := by
  simp [Pool.isRunning, h]

namespace Staffed

lemma of_not_running (hpaused : pool.draining = true → pool.paused = true)
    (h : pool.isRunning = false) : s.Staffed p pool :=
  ⟨hpaused, fun hrun => absurd hrun (by simp [h])⟩

lemma mono (hs : s.Staffed p pool) (hpaused : pool'.draining = true → pool'.paused = true)
    (hrun : pool'.isRunning = true → pool.isRunning = true)
    (hgone : pool'.isRunning = true → ∀ i, pool'.isGoneAt i = true → pool.isGoneAt i = true)
    (hstarts : ∀ start ∈ s.starts, start.pool = p → start ∈ s'.starts) : s'.Staffed p pool' := by
  refine ⟨hpaused, ?_⟩
  intro hr i hi
  obtain ⟨start, hm, hp, hnext⟩ := hs.covered (hrun hr) i (hgone hr i hi)
  exact ⟨start, hstarts start hm hp, hp, hnext⟩

lemma beginStart (hs : s.Staffed p pool) (hp : s.floor.pool? p = some pool) :
    (s.beginStart p).Staffed p pool.beginStart.2 := by
  have hstarts := starts_beginStart hp
  cases hpaused : pool.paused with
  | true =>
    rw [hpaused, if_pos rfl] at hstarts
    refine ⟨fun hd => absurd hd (by simp [Pool.beginStart]), ?_⟩
    intro _ i _
    refine ⟨⟨p, s.floor.hired + 1, 0⟩, ?_, rfl, Nat.zero_le i⟩
    rw [hstarts]
    exact List.mem_append_right _ (List.mem_singleton.2 rfl)
  | false =>
    rw [hpaused, if_neg Bool.false_ne_true] at hstarts
    refine hs.mono (fun hd => absurd hd (by simp [Pool.beginStart])) ?_ (fun _ _ => id) ?_
    · intro hr
      simpa [Pool.isRunning, Pool.beginStart, hpaused] using hr
    · intro start hm _
      rwa [hstarts]

lemma floor (hs : s.Staffed p pool) (hp : s.floor.pool? p = some pool) {deed : Floor.Deed}
    (turn : s.floor.Turn p deed (some pool) (some pool')) :
    (s.act (.floor deed)).Staffed p pool' := by
  have hstarts : ∀ start ∈ s.starts, start.pool = p → start ∈ (s.act (.floor deed)).starts := by
    intro start hm _
    rcases mem_starts_act hm (.floor deed) with h | ⟨n, hn, -⟩
    · exact h
    · cases hn
  cases turn with
  | rests | equipped | succeeds | rehoused =>
    exact hs.mono hs.paused id (fun _ _ => id) hstarts
  | called =>
    exact hs.mono hs.paused id (fun _ i hi => pool.isGoneAt_wakeOne i ▸ hi) hstarts
  | woken | rehousedAwake =>
    exact hs.mono hs.paused id (fun _ i hi => Pool.isGoneAt_wakeAll _ i ▸ hi) hstarts
  | begun => exact hs.beginStart hp
  | revived =>
    refine hs.mono hs.paused id (fun _ i hi => ?_) hstarts
    rw [Pool.isGoneAt_revive] at hi
    cases hi
  | stopped => exact of_not_running (fun _ => rfl) (isRunning_of_paused rfl)
  | closed => exact of_not_running hs.paused (isRunning_of_closing rfl)
  | worked k now draw _ o stance isOperator allows =>
    refine hs.mono hs.paused id (fun hr i hi => ?_) hstarts
    by_cases hk : i = k
    · subst hk
      obtain rfl := Pool.isGoneAt_setStance hi
      have hr : pool.isRunning = true := hr
      rcases allows with hc | ⟨hd, -⟩
      · simp [isRunning_of_closing hc] at hr
      · simp [isRunning_of_paused (hs.paused hd)] at hr
    · rwa [Pool.isGoneAt_setStance_of_ne pool hk] at hi

lemma reviveAt (hs : s.Staffed p pool) (hp : s.floor.pool? p = some pool) {n : Nat} {start : Start}
    (hn : s.starts[n]? = some start) (hpool : start.pool = p) (hnext : start.next < pool.size) :
    (s.act (.carryOn n)).Staffed p (pool.reviveAt start.first start.next) := by
  refine ⟨hs.paused, ?_⟩
  intro hr i hi
  rw [Pool.isGoneAt_reviveAt, Bool.and_eq_true, bne_iff_ne] at hi
  obtain ⟨start', hm, hp', hle⟩ := hs.covered hr i hi.1
  rcases mem_starts_act hm (.carryOn n) with h | ⟨k, hk, hstart⟩
  · exact ⟨start', h, hp', hle⟩
  · cases hk
    obtain rfl := Option.some.inj (hn.symm.trans hstart)
    exact ⟨_, mem_starts_of_next hn (hpool ▸ hp) hnext, hpool, by dsimp only; omega⟩

lemma wakeAll (hs : s.Staffed p pool) {n : Nat} {start : Start}
    (hn : s.starts[n]? = some start) (hdone : pool.size ≤ start.next) :
    (s.act (.carryOn n)).Staffed p pool.wakeAll := by
  refine ⟨hs.paused, ?_⟩
  intro hr i hi
  rw [Pool.isGoneAt_wakeAll] at hi
  obtain ⟨start', hm, hp', hle⟩ := hs.covered hr i hi
  rcases mem_starts_act hm (.carryOn n) with h | ⟨k, hk, hstart⟩
  · exact ⟨start', h, hp', hle⟩
  · cases hk
    obtain rfl := Option.some.inj (hn.symm.trans hstart)
    have hlt := Pool.lt_of_isGoneAt hi
    omega

end Staffed

theorem Sound.act (h : s.Sound) (deed : Deed) : (s.act deed).Sound := by
  intro p pool' hp'
  have turn := s.turn_act p deed
  rw [hp'] at turn
  generalize hbefore : s.floor.pool? p = before at turn
  have same {q : Nat} {now : Timestamp} : ∀ start ∈ s.starts, start.pool = p →
      start ∈ (s.act (.installQueue p q now)).starts := fun _ hm _ => hm
  cases turn with
  | rests _ _ others =>
    have hs := h p pool' hbefore
    refine hs.mono hs.paused id (fun _ _ => id) ?_
    intro start hm hpool
    rcases mem_starts_act hm deed with hm' | ⟨n, hn, hstart⟩
    · exact hm'
    · cases others n start hn hstart hpool
  | floor turn =>
    cases before with
    | none =>
      cases turn with
      | built => exact .of_not_running (fun hd => absurd hd Bool.false_ne_true) rfl
    | some pool => exact (h p pool hbefore).floor hbefore turn
  | rehoused q now pool =>
    have hs := h p pool hbefore
    exact hs.mono hs.paused id (fun _ _ => id) same
  | rehousedAwake q now pool =>
    have hs := h p pool hbefore
    exact hs.mono hs.paused id (fun _ i hi => Pool.isGoneAt_wakeAll _ i ▸ hi) same
  | revived n start pool isStart ofPool next =>
    exact (h p pool hbefore).reviveAt hbefore isStart ofPool next
  | woken n start pool isStart ofPool done => exact (h p pool hbefore).wakeAll isStart done

lemma Sound.full (h : s.Sound) (hp : s.floor.pool? p = some pool) (hrun : pool.isRunning = true)
    (hidle : ∀ start ∈ s.starts, start.pool ≠ p) (i : Nat) : pool.isGoneAt i = false := by
  by_contra hgone
  obtain ⟨start, hm, hpool, -⟩ := (h p pool hp).covered hrun i (Bool.not_eq_false _ ▸ hgone)
  exact hidle start hm hpool

lemma sound_run (h : s.Sound) (deeds : List Deed) : (s.run deeds).Sound := by
  induction deeds generalizing s with
  | nil => exact h
  | cons deed deeds ih => exact ih (h.act deed)

lemma sound_after (deeds : List Deed) : (after deeds).Sound := by
  apply sound_run
  intro p pool hp
  simp [Floor.pool?, Floor.empty] at hp

section Turn

variable {deed : Deed} {i : Nat} {l : Line}

lemma Turn.of_change (turn : s.Turn p deed (some pool) (some pool')) :
    (∀ i, pool'.line? i = pool.line? i ∧ (pool'.isGoneAt i = true → pool.isGoneAt i = true)) ∨
      ∃ k now draw stance, deed = .floor (.work p k now draw) ∧ s.floor.Allows pool stance ∧
        pool' = pool.setStance k stance := by
  cases turn with
  | rests => exact .inl fun i => ⟨rfl, id⟩
  | rehoused => exact .inl fun i => ⟨rfl, id⟩
  | rehousedAwake =>
    exact .inl fun i => ⟨Pool.line?_wakeAll _ i, fun h => Pool.isGoneAt_wakeAll _ i ▸ h⟩
  | revived =>
    refine .inl fun i => ⟨Pool.line?_reviveAt .., fun h => ?_⟩
    rw [Pool.isGoneAt_reviveAt, Bool.and_eq_true] at h
    exact h.1
  | woken =>
    exact .inl fun i => ⟨Pool.line?_wakeAll _ i, fun h => Pool.isGoneAt_wakeAll _ i ▸ h⟩
  | floor turn =>
    cases turn with
    | rests | begun | stopped | succeeds | rehoused | equipped =>
      exact .inl fun i => ⟨rfl, id⟩
    | called =>
      exact .inl fun i => ⟨Pool.line?_wakeOne _ i, fun h => Pool.isGoneAt_wakeOne _ i ▸ h⟩
    | woken | rehousedAwake =>
      exact .inl fun i => ⟨Pool.line?_wakeAll _ i, fun h => Pool.isGoneAt_wakeAll _ i ▸ h⟩
    | revived =>
      refine .inl fun i => ⟨Pool.line?_revive .., fun h => ?_⟩
      rw [Pool.isGoneAt_revive] at h
      cases h
    | closed =>
      exact .inl fun i => ⟨Pool.line?_close _ i, fun h => Pool.isGoneAt_close _ i ▸ h⟩
    | worked k now draw _ o stance _ allows =>
      exact .inr ⟨k, now, draw, stance, rfl, allows, rfl⟩

lemma Turn.isRunning_of_line (turn : s.Turn p deed (some pool) (some pool'))
    (h' : pool'.line? i = some l) (h : pool.line? i ≠ some l) : pool.isRunning = true := by
  rcases turn.of_change with hsame | ⟨k, now, draw, stance, -, allows, rfl⟩
  · exact absurd ((hsame i).1.symm.trans h') h
  · rw [Pool.line?_setStance] at h'
    split at h'
    · obtain ⟨o, -, ho⟩ := Option.bind_eq_some_iff.1 h'
      cases stance with
      | serving => exact allows
      | _ => cases ho
    · exact absurd h' h

lemma Turn.reason_of_leaving (turn : s.Turn p deed (some pool) (some pool'))
    (h' : pool'.isGoneAt i = true) (h : pool.isGoneAt i = false) :
    (∃ now draw, deed = .floor (.work p i now draw)) ∧
      (pool.closing = true ∨ pool.draining = true ∧ s.floor.hasNoCalls pool = true) := by
  rcases turn.of_change with hsame | ⟨k, now, draw, stance, hdeed, allows, rfl⟩
  · cases ((hsame i).2 h').symm.trans h
  · by_cases hk : i = k
    · subst hk
      obtain rfl := Pool.isGoneAt_setStance h'
      exact ⟨⟨now, draw, hdeed⟩, allows⟩
    · rw [Pool.isGoneAt_setStance_of_ne pool hk] at h'
      cases h'.symm.trans h

lemma Turn.size_eq (turn : s.Turn p deed (some pool) (some pool')) : pool'.size = pool.size := by
  cases turn with
  | floor turn => cases turn <;> simp [Pool.size, Pool.wakeOne, Pool.wakeAll, Pool.beginStart,
      Pool.revive, Pool.stop, Pool.close, Pool.setStance]
  | _ => simp [Pool.size, Pool.wakeAll, Pool.reviveAt]

def Runs (s : Shift) (p size : Nat) : Prop :=
  ∃ pool, s.floor.pool? p = some pool ∧ pool.isRunning = true ∧ pool.size = size

lemma Runs.act {size : Nat} (h : s.Runs p size) (hstop : deed ≠ .floor (.stop p))
    (hclose : deed ≠ .floor (.close p)) : (s.act deed).Runs p size := by
  obtain ⟨pool, hp, hrun, rfl⟩ := h
  have turn := s.turn_act p deed
  rw [hp] at turn
  generalize hafter : (s.act deed).floor.pool? p = after at turn
  cases after with
  | none =>
    cases turn with
    | floor turn =>
      cases turn with
      | dismissed now _ closing => simp [isRunning_of_closing closing] at hrun
  | some pool' =>
    refine ⟨pool', hafter, ?_, turn.size_eq⟩
    cases turn with
    | floor turn =>
      cases turn with
      | stopped => exact absurd rfl hstop
      | closed => exact absurd rfl hclose
      | begun =>
        simp only [Pool.isRunning, Bool.and_eq_true] at hrun
        simpa [Pool.isRunning, Pool.beginStart] using hrun.2
      | _ => exact hrun
    | _ => exact hrun

lemma Runs.run {size : Nat} (h : s.Runs p size) {deeds : List Deed}
    (hd : ∀ deed ∈ deeds, deed ≠ .floor (.stop p) ∧ deed ≠ .floor (.close p)) :
    (s.run deeds).Runs p size := by
  induction deeds generalizing s with
  | nil => exact h
  | cons deed deeds ih =>
    obtain ⟨hstop, hclose⟩ := hd deed List.mem_cons_self
    exact ih (h.act hstop hclose) fun d hm => hd d (List.mem_cons_of_mem deed hm)

lemma runs_beginStart (hp : s.floor.pool? p = some pool) (hopen : pool.closing = false) :
    (s.act (.floor (.beginStart p))).Runs p pool.size := by
  refine ⟨pool.beginStart.2, ?_, ?_, rfl⟩
  · rw [act, pool?_beginStart, Floor.act, Floor.beginStart_eq, Floor.pool?_modifyPool, if_pos rfl,
      hp, Option.map_some]
  · simp [Pool.isRunning, Pool.beginStart, hopen]

end Turn

theorem operators_come_and_go (deeds : List Deed) (p : Nat) (pool : Pool)
    (hp : (after deeds).floor.pool? p = some pool) :
    (pool.draining = true → pool.paused = true) ∧
      (∀ deed i l, ((after deeds).act deed).floor.line? p i = some l →
        (after deeds).floor.line? p i ≠ some l → pool.isRunning = true) ∧
      (∀ deed pool' i, ((after deeds).act deed).floor.pool? p = some pool' →
        pool'.isGoneAt i = true → pool.isGoneAt i = false →
        (∃ now draw, deed = .floor (.work p i now draw)) ∧
          (pool.closing = true ∨
            pool.draining = true ∧ (after deeds).floor.hasNoCalls pool = true)) ∧
      (∀ before later pool₀, deeds = before ++ .floor (.beginStart p) :: later →
        (after before).floor.pool? p = some pool₀ → pool₀.closing = false →
        (∀ deed ∈ later, deed ≠ .floor (.stop p) ∧ deed ≠ .floor (.close p)) →
        (∀ start ∈ (after deeds).starts, start.pool ≠ p) →
        (∀ i, pool.isGoneAt i = false) ∧ pool.live = pool₀.size) := by
  have hs := sound_after deeds
  have turn {deed : Deed} {pool' : Pool}
      (hp' : ((after deeds).act deed).floor.pool? p = some pool') :
      (after deeds).Turn p deed (some pool) (some pool') := by
    have h := (after deeds).turn_act p deed
    rwa [hp, hp'] at h
  refine ⟨(hs p pool hp).paused, ?_, ?_, ?_⟩
  · intro deed i l hl hne
    obtain ⟨pool', hp', hl'⟩ := Option.bind_eq_some_iff.1 hl
    rw [Floor.line?_of_pool? hp] at hne
    exact (turn hp').isRunning_of_line hl' hne
  · intro deed pool' i hp' hgone hhere
    exact (turn hp').reason_of_leaving hgone hhere
  · intro before later pool₀ hdeeds hp₀ hopen hlater hdone
    have hruns : (after deeds).Runs p pool₀.size := by
      rw [hdeeds, after_append]
      exact (runs_beginStart hp₀ hopen).run hlater
    obtain ⟨pool', hp', hrun, hsize⟩ := hruns
    obtain rfl := Option.some.inj (hp.symm.trans hp')
    have hfull := hs.full hp hrun hdone
    exact ⟨hfull, (Pool.live_eq_size hfull).trans hsize⟩

def ofRestart : List Deed :=
  let midnight := Timestamp.ofPosition 0
  let start : List Deed := [.floor (.beginStart 0), .carryOn 0, .carryOn 0]
  .floor (.build 1 4) ::
    .floor (.bring 0 ⟨1, 2, .ofSeconds 3⟩ "555-0100" midnight false midnight) :: start ++
    [.floor (.work 0 0 midnight 0), .floor (.stop 0), .floor (.work 0 0 midnight 0),
      .floor (.work 0 0 midnight 0)] ++ start

theorem operators_come_and_go_on_restart :
    ((after (ofRestart.take 9)).floor.pool? 0).map Pool.live = some 0 ∧
      ∃ pool, (after ofRestart).floor.pool? 0 = some pool ∧ pool.live = 1 := by
  obtain ⟨pool₀, hp₀, hpool₀⟩ : ∃ pool₀, (after (ofRestart.take 9)).floor.pool? 0 = some pool₀ ∧
      pool₀.closing = false ∧ pool₀.size = 1 ∧ pool₀.live = 0 := ⟨_, rfl, rfl, rfl, rfl⟩
  obtain ⟨hopen, hsize, hgone⟩ := hpool₀
  obtain ⟨pool, hp⟩ : ∃ pool, (after ofRestart).floor.pool? 0 = some pool := ⟨_, rfl⟩
  obtain ⟨-, -, -, h⟩ := operators_come_and_go ofRestart 0 pool hp
  have hlater : ∀ deed ∈ ofRestart.drop 10,
      deed ≠ .floor (.stop 0) ∧ deed ≠ .floor (.close 0) := by
    intro deed hm
    have hcarries : ofRestart.drop 10 = [.carryOn 0, .carryOn 0] := rfl
    obtain rfl : deed = .carryOn 0 := by simpa [hcarries] using hm
    exact ⟨Deed.noConfusion, Deed.noConfusion⟩
  have hdone : ∀ start ∈ (after ofRestart).starts, start.pool ≠ 0 := by
    have hnone : (after ofRestart).starts = [] := rfl
    simp [hnone]
  obtain ⟨-, hlive⟩ := h (ofRestart.take 9) (ofRestart.drop 10) pool₀ rfl hp₀ hopen hlater hdone
  exact ⟨by rw [hp₀, Option.map_some, hgone], pool, hp, hlive.trans hsize⟩

end Shift

end Switchboard
