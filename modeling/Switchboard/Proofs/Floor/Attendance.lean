import Switchboard.Floor.Settling
import Switchboard.Proofs.Floor.Staffing

/-! Whether calls are attended to. While calls wait in a pool that runs, one of its operators is up,
unless the calls came to the pool in a way that wakes nobody. -/

namespace Switchboard

namespace Pool

variable {pool : Pool}

def IsUp (pool : Pool) : Prop := ∃ o ∈ pool.operators, o.isParked = false ∧ o.isGone = false

lemma isGone_eq_false (h : ∀ i, pool.isGoneAt i = false) {o : Operator}
    (ho : o ∈ pool.operators) : o.isGone = false := by
  obtain ⟨i, hi⟩ := List.mem_iff_getElem?.1 ho
  simpa [isGoneAt, hi] using h i

lemma isParked_wake (o : Operator) : o.wake.isParked = false := by
  obtain ⟨id, stance⟩ := o
  cases stance <;> rfl

lemma isUp_of_no_parked (hsize : 0 < pool.size) (h : ∀ i, pool.isGoneAt i = false)
    (hparked : ∀ o ∈ pool.operators, o.isParked = false) : pool.IsUp := by
  obtain ⟨o, ho⟩ := List.exists_mem_of_length_pos hsize
  exact ⟨o, ho, hparked o ho, isGone_eq_false h ho⟩

lemma isUp_wakeAll (hsize : 0 < pool.wakeAll.size) (h : ∀ i, pool.wakeAll.isGoneAt i = false) :
    pool.wakeAll.IsUp := by
  apply isUp_of_no_parked hsize h
  intro o ho
  obtain ⟨o, -, rfl⟩ := List.mem_map.1 ho
  exact isParked_wake o

lemma isUp_wakeOne (hsize : 0 < pool.wakeOne.size) (h : ∀ i, pool.wakeOne.isGoneAt i = false) :
    pool.wakeOne.IsUp := by
  by_cases hparked : ∃ o ∈ pool.operators, o.isParked = true
  · have hlt : pool.operators.findIdx (·.isParked) < pool.operators.length :=
      List.findIdx_lt_length_of_exists (by simpa using hparked)
    have hm : pool.operators[pool.operators.findIdx (·.isParked)].wake ∈
        pool.wakeOne.operators := by
      apply List.mem_iff_getElem?.2
      exact ⟨pool.operators.findIdx (·.isParked), by simp [wakeOne, hlt]⟩
    exact ⟨_, hm, isParked_wake _, isGone_eq_false h hm⟩
  · have hnone : ∀ o ∈ pool.operators, o.isParked = false := by
      intro o ho
      by_contra hp
      exact hparked ⟨o, ho, Bool.not_eq_false _ ▸ hp⟩
    apply isUp_of_no_parked hsize h
    intro o ho
    obtain ⟨k, hk⟩ := List.mem_iff_getElem?.1 ho
    simp only [wakeOne, List.getElem?_modify] at hk
    obtain ⟨o', ho', rfl⟩ := Option.map_eq_some_iff.1 hk
    split
    · exact isParked_wake o'
    · exact hnone o' (List.mem_of_getElem? ho')

lemma isUp_setStance {k : Nat} {o : Operator} (hk : pool.operators[k]? = some o) {s : Stance}
    (hparked : Operator.isParked ⟨o.id, s⟩ = false) (hgone : Operator.isGone ⟨o.id, s⟩ = false) :
    (pool.setStance k s).IsUp := by
  refine ⟨⟨o.id, s⟩, ?_, hparked, hgone⟩
  apply List.mem_iff_getElem?.2
  exact ⟨k, by simp [setStance, hk]⟩

end Pool

namespace Floor

variable {f f' : Floor} {pool pool' : Pool}

lemma hasNoCalls_eq_false :
    f.hasNoCalls pool = false ↔ ∃ q, pool.queue = some q ∧ f.waitingIn q ≠ [] := by
  cases hq : pool.queue with
  | none => simp [hasNoCalls, queueOf?, hq]
  | some q =>
    cases hqueue : f.queue? q with
    | none => simp [hasNoCalls, queueOf?, hq, hqueue, waitingIn]
    | some queue =>
      simp [hasNoCalls, queueOf?, hq, hqueue, waitingIn_of_queue? hqueue, CallQueue.isEmpty]

lemma Thins.hasCalls (h : f.Thins f') (hq : pool'.queue = pool.queue)
    (hcalls : f'.hasNoCalls pool' = false) : f.hasNoCalls pool = false := by
  obtain ⟨q, hpool, hwaiting⟩ := hasNoCalls_eq_false.1 hcalls
  refine hasNoCalls_eq_false.2 ⟨q, hq ▸ hpool, ?_⟩
  intro hempty
  exact hwaiting (List.sublist_nil.1 (hempty ▸ h.waiting q))

end Floor

namespace Shift

def Attended (s : Shift) (p : Nat) : Prop :=
  ∀ pool, s.floor.pool? p = some pool → pool.isRunning = true →
    (∀ start ∈ s.starts, start.pool ≠ p) → 0 < pool.size → s.floor.hasNoCalls pool = false →
    pool.IsUp

inductive Hushes (s : Shift) (p : Nat) : Deed → Prop
  | handOver (old : Nat) (now : Timestamp) (pool : Pool) (isPool : s.floor.pool? p = some pool)
      (runs : pool.isRunning = true) : Hushes s p (.floor (.transfer p old now))
  | next (j : Nat) (bounds : ServiceBounds) (number : String) (start : Timestamp) (taken : Bool)
      (now : Timestamp) (pool other : Pool) (isPool : s.floor.pool? p = some pool)
      (isOther : s.floor.pool? j = some other) (differs : j ≠ p)
      (shares : other.queue = pool.queue) :
      Hushes s p (.floor (.bring j bounds number start taken now))
  | crash (q : Nat) (now : Timestamp) (crashes : (s.floor.installQueue p q now).2 ≠ none) :
      Hushes s p (.installQueue p q now)

variable {s : Shift} {p : Nat} {pool pool' : Pool} {deed : Deed}

lemma thins_act (s : Shift) {deed : Deed}
    (h : ∀ p bounds number start taken now,
      deed ≠ .floor (.bring p bounds number start taken now)) :
    s.floor.Thins (s.act deed).floor := by
  cases deed with
  | floor deed =>
    have ht : s.floor.Thins (s.floor.act deed) := by
      apply Floor.thins_act
      rintro p bounds number start taken now rfl
      exact h p bounds number start taken now rfl
    cases deed with
    | beginStart p =>
      rw [act, beginStart]
      split
      · exact .refl s.floor
      · dsimp only
        split
        · exact ht.trans (.of_eq rfl rfl)
        · exact ht
    | revive | wakeAll => exact .refl s.floor
    | _ => exact ht
  | installQueue p q now => exact .installQueue s.floor p q now
  | carryOn n =>
    rw [act, carryOn]
    split
    · exact .refl s.floor
    · split
      · exact .refl s.floor
      · split <;> exact .of_eq rfl rfl

lemma attended_bring (hs : s.Sound) (h : s.Attended p) (j : Nat) (bounds : ServiceBounds)
    (number : String) (start : Timestamp) (taken : Bool) (now : Timestamp)
    (hq : ¬ s.Hushes p (.floor (.bring j bounds number start taken now))) :
    (s.act (.floor (.bring j bounds number start taken now))).Attended p := by
  intro pool' hp' hrun hidle hsize hcalls
  have hfull := (hs.act (.floor (.bring j bounds number start taken now))).full hp' hrun hidle
  have hp' : (s.floor.bring j bounds number start taken now).1.pool? p = some pool' := hp'
  have hcalls : (s.floor.bring j bounds number start taken now).1.hasNoCalls pool' = false := hcalls
  have woken {pool : Pool} (hw : (s.floor.bring j bounds number start taken now).1.pool? p =
      some pool.wakeOne) : pool'.IsUp := by
    obtain rfl := Option.some.inj (hp'.symm.trans hw)
    exact Pool.isUp_wakeOne hsize hfull
  have turn := Floor.turn_bring bounds number start taken now s.floor p j
  rw [hp'] at turn
  generalize hp : s.floor.pool? p = before at turn
  cases turn with
  | called _ _ _ _ _ pool => exact woken hp'
  | rests =>
    suffices hbefore : s.floor.hasNoCalls pool' = false ∨
        (s.floor.bring j bounds number start taken now).1.pool? p = some pool'.wakeOne by
      rcases hbefore with hbefore | hw
      · exact h pool' hp hrun hidle hsize hbefore
      · exact woken hw
    cases hd : s.floor.door? j with
    | none => exact .inl ((Floor.thins_bring bounds number start taken now hd).hasCalls rfl hcalls)
    | some door =>
      obtain ⟨q, id⟩ := door
      obtain ⟨other, queue, hj, hqueue, hopen, -⟩ := Floor.door?_of_some hd
      have joins := Floor.joins_bring bounds number start taken now hj hqueue hopen
      obtain ⟨k, hk, hwaiting⟩ := Floor.hasNoCalls_eq_false.1 hcalls
      by_cases hjp : j = p
      · subst hjp
        obtain rfl := Option.some.inj (hp.symm.trans hj)
        obtain rfl := Option.some.inj (hk.symm.trans hqueue)
        by_cases hempty : s.floor.waitingIn k = []
        · rcases joins.wakes hempty with hnone | hw
          · exact absurd hnone hwaiting
          · exact .inr hw
        · exact .inl (Floor.hasNoCalls_eq_false.2 ⟨k, hk, hempty⟩)
      · have hne : k ≠ q := by
          rintro rfl
          exact hq (.next j bounds number start taken now pool' other hp hj hjp
            (hqueue.trans hk.symm))
        rw [joins.others k hne] at hwaiting
        exact .inl (Floor.hasNoCalls_eq_false.2 ⟨k, hk, hwaiting⟩)

lemma isUp_worked (hs : s.Staffed p pool) {k : Nat} {o : Operator} {stance : Stance}
    (hk : pool.operators[k]? = some o) (allows : s.floor.Allows pool stance)
    (hrun : pool.isRunning = true) (hcalls : s.floor.hasNoCalls pool = false) :
    (pool.setStance k stance).IsUp := by
  simp only [Pool.isRunning, Bool.and_eq_true, Bool.not_eq_true'] at hrun
  obtain ⟨hpaused, hopen⟩ := hrun
  cases stance with
  | awake => exact allows.elim
  | serving | returning => exact Pool.isUp_setStance hk rfl rfl
  | parked =>
    rcases allows with hp | hn
    · cases hp.symm.trans hpaused
    · cases hn.symm.trans hcalls
  | gone =>
    rcases allows with hc | ⟨hd, -⟩
    · cases hc.symm.trans hopen
    · cases (hs.paused hd).symm.trans hpaused

lemma attended_floor (hs : s.Sound) (h : s.Attended p) {deed : Floor.Deed}
    (hb : ∀ j bounds number start taken now, deed ≠ .bring j bounds number start taken now)
    (hq : ¬ s.Hushes p (.floor deed)) (hp : s.floor.pool? p = some pool)
    (turn : s.floor.Turn p deed (some pool) (some pool'))
    (hp' : (s.act (.floor deed)).floor.pool? p = some pool') (hrun : pool'.isRunning = true)
    (hidle : ∀ start ∈ (s.act (.floor deed)).starts, start.pool ≠ p) (hsize : 0 < pool'.size)
    (hcalls : (s.act (.floor deed)).floor.hasNoCalls pool' = false) : pool'.IsUp := by
  have ht : s.floor.Thins (s.act (.floor deed)).floor := by
    apply thins_act
    rintro j bounds number start taken now he
    exact hb j bounds number start taken now (Deed.floor.inj he)
  have hfull := (hs.act (.floor deed)).full hp' hrun hidle
  have hidle₀ : ∀ start ∈ s.starts, start.pool ≠ p := by
    intro start hm
    rcases mem_starts_act hm (.floor deed) with hm' | ⟨n, hn, -⟩
    · exact hidle start hm'
    · cases hn
  cases turn with
  | rests => exact h pool hp hrun hidle₀ hsize (ht.hasCalls rfl hcalls)
  | called bounds number start taken now => exact absurd rfl (hb p bounds number start taken now)
  | begun =>
    have hstarts := starts_beginStart hp
    cases hpaused : pool.paused with
    | true =>
      rw [hpaused, if_pos rfl] at hstarts
      refine absurd rfl (hidle ⟨p, s.floor.hired + 1, 0⟩ ?_)
      rw [act, hstarts]
      exact List.mem_append_right _ (List.mem_singleton.2 rfl)
    | false =>
      have hrun₀ : pool.isRunning = true := by
        simpa [Pool.isRunning, Pool.beginStart, hpaused] using hrun
      exact h pool hp hrun₀ hidle₀ hsize (ht.hasCalls rfl hcalls)
  | revived | woken => exact h _ hp' hrun hidle hsize hcalls
  | stopped | closed => simp [Pool.isRunning, Pool.stop, Pool.close, Pool.wakeAll] at hrun
  | succeeds old now => exact absurd (.handOver old now pool hp hrun) hq
  | rehoused capacity now =>
    obtain ⟨q, hpool, hwaiting⟩ := Floor.hasNoCalls_eq_false.1 hcalls
    obtain rfl : s.floor.queues.length = q := Option.some.inj hpool
    exact absurd (s.floor.waitingIn_replaceQueue p capacity now) hwaiting
  | rehousedAwake => exact Pool.isUp_wakeAll hsize hfull
  | equipped => exact h pool hp hrun hidle₀ hsize (ht.hasCalls rfl hcalls)
  | worked k now draw _ o stance isOperator allows =>
    exact isUp_worked (hs p pool hp) isOperator allows hrun (ht.hasCalls rfl hcalls)

theorem attended_act (hs : s.Sound) (h : s.Attended p) (deed : Deed) (hq : ¬ s.Hushes p deed) :
    (s.act deed).Attended p := by
  by_cases hb : ∃ j bounds number start taken now,
      deed = .floor (.bring j bounds number start taken now)
  · obtain ⟨j, bounds, number, start, taken, now, rfl⟩ := hb
    exact attended_bring hs h j bounds number start taken now hq
  · intro pool' hp' hrun hidle hsize hcalls
    have ht : s.floor.Thins (s.act deed).floor := by
      apply thins_act
      intro j bounds number start taken now he
      exact hb ⟨j, bounds, number, start, taken, now, he⟩
    have hfull := (hs.act deed).full hp' hrun hidle
    have turn := s.turn_act p deed
    rw [hp'] at turn
    generalize hp : s.floor.pool? p = before at turn
    cases turn with
    | rests _ _ others =>
      refine h pool' hp hrun ?_ hsize (ht.hasCalls rfl hcalls)
      intro start hm hpool
      rcases mem_starts_act hm deed with hm' | ⟨n, hn, hstart⟩
      · exact hidle start hm' hpool
      · cases others n start hn hstart hpool
    | floor turn =>
      cases before with
      | none =>
        cases turn with
        | built => cases hrun
      | some pool =>
        refine attended_floor hs h ?_ hq hp turn hp' hrun hidle hsize hcalls
        rintro j bounds number start taken now rfl
        exact hb ⟨j, bounds, number, start, taken, now, rfl⟩
    | rehoused q now pool crashes => exact absurd (.crash q now crashes) hq
    | rehousedAwake | woken => exact Pool.isUp_wakeAll hsize hfull
    | revived n start pool isStart ofPool next =>
      exact absurd ofPool (hidle { start with next := start.next + 1 }
        (mem_starts_of_next isStart (ofPool ▸ hp) next))

lemma attended_empty (p : Nat) : (after []).Attended p := by
  intro pool hp
  simp [after, run, Floor.pool?, Floor.empty] at hp

/-- Calls that wait for a pool which runs are attended to, on any shift and at any time, or else
they came to it in one of the ways that wake nobody, and no one has looked after them since. -/
theorem attended_or_hushed (deeds : List Deed) (p : Nat) :
    (after deeds).Attended p ∨
      ∃ before deed later, deeds = before ++ deed :: later ∧ (after before).Attended p ∧
        (after before).Hushes p deed ∧
        ∀ more, more <+: later → ¬ (after (before ++ deed :: more)).Attended p := by
  refine holds_or_broken (P := fun deeds => (after deeds).Attended p) (attended_empty p) ?_ deeds
  intro deeds deed hatt hq
  rw [after_append]
  exact attended_act (sound_after deeds) hatt deed hq

lemma hasCalls_transfer {f : Floor} {old : Nat} {other : Pool} (hp : f.pool? p = some pool)
    (ho : f.pool? old = some other) (hcalls : f.hasNoCalls other = false) (now : Timestamp)
    {pool' : Pool} (hq : pool'.queue = other.queue) :
    (f.transfer p old now).1.hasNoCalls pool' = false := by
  obtain ⟨q, hother, hwaiting⟩ := Floor.hasNoCalls_eq_false.1 hcalls
  let f₁ := f.takeQueue p pool other.queue other.recorders
  have huses : f₁.usesQueue q = true :=
    Floor.usesQueue_of_pool? (Floor.pool?_takeQueue hp other.queue other.recorders) hother
  have hkept : (f₁.letGoQueue pool.queue now).1.queue? q = f₁.queue? q := by
    rcases Floor.queue?_letGoQueue f₁ pool.queue now q with he | ⟨-, hunused⟩
    · exact he
    · cases huses.symm.trans hunused
  have hsame : (f.transfer p old now).1.waitingIn q = f.waitingIn q := by
    have hf₁ : f₁.waitingIn q = f.waitingIn q :=
      Floor.waitingIn_redirect f other.queue other.recorders q
    have hr : (f₁.letGoQueue pool.queue now).1.waitingIn q = f.waitingIn q := by
      rw [← hf₁, Floor.waitingIn, hkept, ← Floor.waitingIn]
    rw [Floor.transfer_eq hp ho]
    dsimp only
    split
    · exact hr
    · exact hr
  exact Floor.hasNoCalls_eq_false.2 ⟨q, hq.trans hother, hsame ▸ hwaiting⟩

theorem not_attended_of_handOver {old : Nat} {other : Pool} (hp : s.floor.pool? p = some pool)
    (ho : s.floor.pool? old = some other) (hrun : pool.isRunning = true)
    (hidle : ∀ start ∈ s.starts, start.pool ≠ p) (hsize : 0 < pool.size)
    (hparked : ∀ o ∈ pool.operators, o.isParked = true)
    (hcalls : s.floor.hasNoCalls other = false) (now : Timestamp) :
    ¬ (s.act (.floor (.transfer p old now))).Attended p := by
  intro h
  obtain ⟨pool', hp', hqueue, hsame⟩ : ∃ pool', (s.floor.transfer p old now).1.pool? p =
      some pool' ∧ pool'.queue = other.queue ∧
        pool'.operators = pool.operators ∧ pool'.isRunning = pool.isRunning := by
    rw [Floor.pool?_transfer hp ho, if_pos rfl]
    split
    · exact ⟨_, rfl, rfl, rfl, rfl⟩
    · exact ⟨_, rfl, rfl, rfl, rfl⟩
  obtain ⟨hoperators, hflags⟩ := hsame
  obtain ⟨o, hm, hup, -⟩ := h pool' hp' (hflags.trans hrun) hidle
    (by rwa [Pool.size, hoperators]) (hasCalls_transfer hp ho hcalls now hqueue)
  cases (hparked o (hoperators ▸ hm)).symm.trans hup

def ofHandOver : List Deed :=
  let midnight := Timestamp.ofPosition 0
  [.floor (.build 1 10), .floor (.build 1 10), .floor (.beginStart 1), .carryOn 0, .carryOn 0,
    .floor (.work 1 0 midnight 0),
    .floor (.bring 0 ⟨1, 1, .ofSeconds 1⟩ "555-0100" midnight false midnight),
    .floor (.transfer 1 0 midnight)]

theorem not_attended_on_hand_over : ¬ (after ofHandOver).Attended 1 ∧
    ((after ofHandOver).floor.settle [] (.ofPosition 0) 0).1.isSettled [] = false := by
  refine ⟨?_, rfl⟩
  let s := after (ofHandOver.take 7)
  obtain ⟨pool, hp, hrun, hsize, hparked⟩ : ∃ pool, s.floor.pool? 1 = some pool ∧
      pool.isRunning = true ∧ 0 < pool.size ∧ pool.operators.all (·.isParked) = true :=
    ⟨_, rfl, rfl, Nat.one_pos, rfl⟩
  obtain ⟨other, ho, hcalls⟩ : ∃ other, s.floor.pool? 0 = some other ∧
      s.floor.hasNoCalls other = false := ⟨_, rfl, rfl⟩
  have hidle : ∀ start ∈ s.starts, start.pool ≠ 1 := by
    have hnone : s.starts = [] := rfl
    simp [hnone]
  exact not_attended_of_handOver hp ho hrun hidle hsize (List.all_eq_true.1 hparked) hcalls _

end Shift

end Switchboard
