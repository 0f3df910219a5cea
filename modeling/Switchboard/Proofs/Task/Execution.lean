import Switchboard.Proofs.Task.Deeds

/-! What comes of a call that is carried out. Its wait and its bounds decide; how long it then takes
is drawn from the bounds, and if the longest can be counted so can all others. -/

namespace Switchboard

namespace ServiceBounds

variable {b : ServiceBounds} {k : UInt32}

lemma units_of_lt (h : b.unit.nanos * k.toNat < Duration.limit) :
    b.units k = .ok ⟨b.unit.nanos * k.toNat, h⟩ := by
  simp [units, Duration.times?, Duration.ofNanos?, h]

lemma units_of_ge (h : Duration.limit ≤ b.unit.nanos * k.toNat) : b.units k = .error tooLong := by
  simp [units, Duration.times?, Duration.ofNanos?, Nat.not_lt.2 h]

lemma toNat_pick (h : ¬ b.rMax < b.rMin) (draw : Nat) :
    b.rMin.toNat ≤ (b.pick draw).toNat ∧ (b.pick draw).toNat ≤ b.rMax.toNat := by
  have hle : b.rMin.toNat ≤ b.rMax.toNat := UInt32.le_iff_toNat_le.1 (UInt32.not_lt.1 h)
  have hmod : draw % (b.rMax.toNat - b.rMin.toNat + 1) < b.rMax.toNat - b.rMin.toNat + 1 :=
    Nat.mod_lt _ (Nat.succ_pos _)
  have hmax := b.rMax.toNat_lt
  have hsum : b.rMin.toNat + draw % (b.rMax.toNat - b.rMin.toNat + 1) ≤ b.rMax.toNat := by omega
  have hpick : (b.pick draw).toNat = b.rMin.toNat + draw % (b.rMax.toNat - b.rMin.toNat + 1) :=
    UInt32.toNat_ofNat_of_lt' (Nat.lt_of_le_of_lt hsum hmax)
  rw [hpick]
  exact ⟨Nat.le_add_right _ _, hsum⟩

lemma sample_of_le (hlimit : b.unit.nanos * b.rMax.toNat < Duration.limit)
    (h : ¬ b.rMax < b.rMin) (draw : Nat) :
    ∃ hold : Duration, b.sample draw = .ok (.ok hold) ∧
      hold.nanos = b.unit.nanos * (b.pick draw).toNat := by
  have hle : b.unit.nanos * (b.pick draw).toNat ≤ b.unit.nanos * b.rMax.toNat :=
    Nat.mul_le_mul_left _ (toNat_pick h draw).2
  have hlt := Nat.lt_of_le_of_lt hle hlimit
  refine ⟨⟨_, hlt⟩, ?_, rfl⟩
  rw [sample, if_neg h, units_of_lt hlt]
  rfl

end ServiceBounds

namespace Task

variable {t : Task} {set : RecorderSet}

lemma answer_cases (t : Task) (pickedUp : Timestamp) (draw : Nat) :
    let longest := t.bounds.unit.nanos * t.bounds.rMax.toNat
    if Duration.limit ≤ longest then t.answer pickedUp draw = .error ServiceBounds.tooLong
    else if longest ≤ pickedUp.since t.record.start then
      t.answer pickedUp draw = .ok (.ok (.timeout, .zero))
    else if t.bounds.rMax < t.bounds.rMin then
      t.answer pickedUp draw = .ok (.error (.invalidBounds t.bounds.rMin t.bounds.rMax))
    else ∃ hold : Duration, t.answer pickedUp draw = .ok (.ok (.completed, hold)) ∧
      hold.nanos = t.bounds.unit.nanos * (t.bounds.pick draw).toNat := by
  intro longest
  split
  · next hlimit =>
    rw [answer, ServiceBounds.maxWait, ServiceBounds.units_of_ge hlimit]
    rfl
  · next hlimit =>
    have hlt := Nat.not_le.1 hlimit
    have hanswer : t.answer pickedUp draw =
        if pickedUp.since t.record.start < longest then
          (t.bounds.sample draw).map fun hold => hold.map fun hold => (.completed, hold)
        else .ok (.ok (.timeout, .zero)) := by
      rw [answer, ServiceBounds.maxWait, ServiceBounds.units_of_lt hlt]
      change (if _ then _ else _) = _
      split
      · cases t.bounds.sample draw <;> rfl
      · rfl
    rw [hanswer]
    split
    · next hwait => rw [if_neg (Nat.not_lt.2 hwait)]
    · next hwait =>
      rw [if_pos (Nat.not_le.1 hwait)]
      split
      · next hbounds =>
        rw [ServiceBounds.sample, if_pos hbounds]
        rfl
      · next hbounds =>
        obtain ⟨hold, hsample, hnanos⟩ := ServiceBounds.sample_of_le hlt hbounds draw
        exact ⟨hold, by rw [hsample]; rfl, hnanos⟩

structure ComesTo (t : Task) (pickedUp ended : Timestamp) (set : RecorderSet) (result : CallResult)
    (run : Turn Task (Except DispatchError CallResult)) : Prop where
  reply : run.reply = .ok (.ok result)
  state : run.state = { t with
    recorded := true
    record := { t.record with
      pickedUp := some pickedUp, ended := some ended, status := result.status
      duration := result.duration, callId := result.callId } }
  events : run.events = [.recorded set run.state.record]

structure FailsOf (t : Task) (ended : Timestamp) (set : RecorderSet) (e : DispatchError)
    (run : Turn Task (Except DispatchError CallResult)) : Prop where
  reply : run.reply = .ok (.error e)
  state : run.state = { t with
    recorded := true
    promise := none
    record := { t.record with
      pickedUp := some ended, ended := some ended, status := .rejected, duration := .zero } }
  events : run.events = .recorded set run.state.record ::
    match t.promise with
    | some p => [.settled p.id (.error e)]
    | none => [.late t.callId]

lemma comesTo_of_answer (hr : t.recorded = false) (hid : t.record.callId = t.callId)
    (hc : set.Calm) {pickedUp : Timestamp} {draw : Nat} {status : CallStatus} {hold : Duration}
    (h : t.answer pickedUp draw = .ok (.ok (status, hold))) (ended : Timestamp) :
    t.ComesTo pickedUp ended set ⟨status, hold, t.callId⟩
      (t.execute pickedUp ended draw set) := by
  have hout := handOut_calm (t := (t.notePickup pickedUp status hold).noteEnd ended) hr (hc _)
  rw [execute_eq t pickedUp ended draw hc, h]
  simp only [hout]
  refine ⟨rfl, ?_, rfl⟩
  simp [notePickup, noteEnd, ← hid]

lemma failsOf_of_answer (hr : t.recorded = false) (hp : t.record.pickedUp = none)
    (hc : set.Calm) {pickedUp : Timestamp} {draw : Nat} {e : DispatchError}
    (h : t.answer pickedUp draw = .ok (.error e)) (ended : Timestamp) :
    t.FailsOf ended set e (t.execute pickedUp ended draw set) := by
  obtain ⟨reply, hout, -⟩ := recordFailure_of_unrecorded hr ended set
  rw [execute_eq t pickedUp ended draw hc, h]
  simp only [hout, resolve]
  cases hpromise : t.promise with
  | none => exact ⟨rfl, by simp [CallRecord.finishFailed, hp], by simp [hpromise]⟩
  | some p => exact ⟨rfl, by simp [CallRecord.finishFailed, hp], by simp [hpromise]⟩

end Task

open Desk.Deed in
theorem Desk.execute_decided (bounds : ServiceBounds) (number : String) (start now : Timestamp)
    (known : RecorderSet) (deeds : List Deed) (t : Task)
    (ht : ((Desk.of bounds number start now known).run deeds).task = some t)
    (hr : t.recorded = false) (set : RecorderSet) (hc : set.Calm) (pickedUp ended : Timestamp)
    (draw : Nat) :
    let run := t.execute pickedUp ended draw set
    let longest := bounds.unit.nanos * bounds.rMax.toNat
    let id := (latest callId? deeds).getD 0
    (bounds.rMax = 0 → run.reply = .ok (.ok ⟨.timeout, .zero, id⟩)) ∧
    if Duration.limit ≤ longest then run = ⟨t, [], .error ServiceBounds.tooLong⟩
    else if longest ≤ pickedUp.since start then
      t.ComesTo pickedUp ended set ⟨.timeout, .zero, id⟩ run
    else if bounds.rMax < bounds.rMin then
      t.FailsOf ended set (.invalidBounds bounds.rMin bounds.rMax) run ∧
        run.state.record.operatorId = (latest operator? deeds).getD 0
    else ∃ (hold : Duration) (k : Nat), t.ComesTo pickedUp ended set ⟨.completed, hold, id⟩ run ∧
      hold.nanos = bounds.unit.nanos * k ∧ bounds.rMin.toNat ≤ k ∧ k ≤ bounds.rMax.toNat := by
  intro run longest id
  obtain ⟨t', ht', hf⟩ := follows_run bounds number start now known deeds
  obtain rfl : t = t' := Option.some.inj (ht.symm.trans ht')
  -- As long as it is not out, the record tells nothing but what the task was told.
  have hrecord := hf.unrecorded hr
  have hstart : t.record.start = start := by rw [hrecord]; rfl
  have hp : t.record.pickedUp = none := by rw [hrecord]; rfl
  have hid : t.callId = id := hf.callId
  have hanswer := t.answer_cases pickedUp draw
  rw [hf.bounds, hstart] at hanswer
  refine ⟨fun hzero => ?_, ?_⟩
  · have hnone : bounds.unit.nanos * bounds.rMax.toNat = 0 := by simp [hzero]
    rw [hnone, if_neg (by decide), if_pos (Nat.zero_le _)] at hanswer
    exact hid ▸ (Task.comesTo_of_answer hr hf.recordId hc hanswer ended).reply
  by_cases hlimit : Duration.limit ≤ longest
  · rw [if_pos hlimit] at hanswer ⊢
    exact (Task.execute_eq t pickedUp ended draw hc).trans (by rw [hanswer])
  rw [if_neg hlimit] at hanswer ⊢
  by_cases hwait : longest ≤ pickedUp.since start
  · rw [if_pos hwait] at hanswer ⊢
    exact hid ▸ Task.comesTo_of_answer hr hf.recordId hc hanswer ended
  rw [if_neg hwait] at hanswer ⊢
  by_cases hbounds : bounds.rMax < bounds.rMin
  · rw [if_pos hbounds] at hanswer ⊢
    have hfails := Task.failsOf_of_answer hr hp hc hanswer ended
    refine ⟨hfails, ?_⟩
    rw [hfails.state, hrecord]
    rfl
  · rw [if_neg hbounds] at hanswer ⊢
    obtain ⟨hold, hanswer, hnanos⟩ := hanswer
    obtain ⟨hmin, hmax⟩ := ServiceBounds.toNat_pick hbounds draw
    have hcomes := Task.comesTo_of_answer hr hf.recordId hc hanswer ended
    exact ⟨hold, _, hid ▸ hcomes, hnanos, hmin, hmax⟩

theorem Desk.execute_decided_in_time :
    let start := Timestamp.ofPosition 0
    let pickedUp := Timestamp.ofPosition 1999999999
    let bounds : ServiceBounds := ⟨1, 2, .ofSeconds 1⟩
    let deeds : List Deed := [.assignCallId 7, .bind (.empty 0), .assignOperator 3]
    ∃ t, ((Desk.of bounds "555-0100" start start (.empty 0)).run deeds).task = some t ∧
      ∃ hold, (t.execute pickedUp pickedUp 4 (.empty 1)).reply = .ok (.ok ⟨.completed, hold, 7⟩) ∧
        ∃ k : Nat, hold.nanos = 1000000000 * k ∧ 1 ≤ k ∧ k ≤ 2 := by
  intro start pickedUp bounds deeds
  obtain ⟨t, ht, -⟩ := follows_run bounds "555-0100" start start (.empty 0) deeds
  have hr : t.recorded = false := by
    obtain rfl := Option.some.inj ht
    rfl
  have hends := execute_decided bounds "555-0100" start start (.empty 0) deeds t ht hr (.empty 1)
    (RecorderSet.calm_empty 1) pickedUp pickedUp 4
  have hlimit : ¬ Duration.limit ≤ bounds.unit.nanos * bounds.rMax.toNat := by decide
  have hwait : ¬ bounds.unit.nanos * bounds.rMax.toNat ≤ pickedUp.since start := by decide
  have hbounds : ¬ bounds.rMax < bounds.rMin := by decide
  simp only [if_neg hlimit, if_neg hwait, if_neg hbounds] at hends
  obtain ⟨-, hold, k, hcomes, hnanos, hmin, hmax⟩ := hends
  exact ⟨t, ht, hold, hcomes.reply, k, hnanos, hmin, hmax⟩

end Switchboard
