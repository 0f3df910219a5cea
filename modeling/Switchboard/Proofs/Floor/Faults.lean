import Switchboard.Proofs.Exchange.Rejection
import Switchboard.Proofs.Floor.Places
import Switchboard.Proofs.Task.Faults

/-! Operators and the crashes of their calls. The task of a call that an operator is on is open
under the identifier of the call, and whatever crashes, the operator comes back from it. -/

namespace Switchboard

open scoped List

namespace Day

variable {d : Day}

def Registered (d : Day) : Prop :=
  ∀ c ∈ d.floor.calls, ∃ a ∈ d.admissions, a.task = c.task ∧ a.id = c.entry.id

lemma Registered.of_move (h : d.Registered) {f : Floor} (hm : d.floor.Move f) :
    Registered ⟨f, d.admissions⟩ := by
  intro c hc
  cases hm with
  | leave gone set hands calls departs =>
    exact h c (calls.mem_iff.2 (List.mem_append_right gone hc))
  | answer q e p pool isPool draws calls exchange =>
    have hcame := calls.mem_iff.2 (List.mem_cons_of_mem _ hc)
    rcases List.mem_append.1 hcame with hold | hnew
    · exact h c hold
    · obtain rfl := List.mem_singleton.1 hnew
      have hwaited : (⟨e, .waiting q⟩ : Presence) ∈ d.floor.calls := by
        have hmem := calls.mem_iff.2 (List.mem_cons_self ..)
        exact (List.mem_append.1 hmem).resolve_right (by simp)
      exact h ⟨e, .waiting q⟩ hwaited

lemma Registered.bring (h : d.Registered) (p : Nat) (bounds : ServiceBounds) (number : String)
    (start : Timestamp) (taken : Bool) (now : Timestamp) :
    (d.act (.bring p bounds number start taken now)).Registered := by
  cases hd : d.floor.door? p with
  | none =>
    have ha : d.floor.admission? (.bring p bounds number start taken now) = none := by
      simp only [Floor.admission?, hd, Option.map_none]
    simp only [act, ha, Option.toList_none, List.append_nil, Floor.act,
      Floor.bring_of_no_door bounds number start now hd taken]
    exact h
  | some door =>
    obtain ⟨q, id⟩ := door
    obtain ⟨-, -, -, -, -, -, -, -, -, -, number', gone, calls, -⟩ :=
      Floor.bring_arrives bounds number start now hd taken
    intro c hc
    have hcame := calls.mem_iff.2 (List.mem_append_right _ hc)
    rcases List.mem_append.1 hcame with hold | hnew
    · obtain ⟨a, ha, hca⟩ := h c hold
      exact ⟨a, List.mem_append_left _ ha, hca⟩
    · obtain rfl := List.mem_singleton.1 hnew
      let a : Admission := ⟨d.floor.exchange.tasks.length, q, id,
        (d.floor.bring p bounds number start taken now).2⟩
      have ha : d.floor.admission? (.bring p bounds number start taken now) = some a := by
        simp only [Floor.admission?, hd, Option.map_some, a]
      refine ⟨a, List.mem_append_right _ ?_, rfl, rfl⟩
      rw [ha]
      exact List.mem_singleton.2 rfl

lemma Registered.act (h : d.Registered) (hs : (d.floor.calls.map Presence.task).Nodup)
    (deed : Floor.Deed) : (d.act deed).Registered := by
  rcases Floor.bring_or_move hs deed with ⟨p, bounds, number, start, taken, now, rfl⟩ | ⟨hm, ha⟩
  · exact h.bring p bounds number start taken now
  · simpa only [Day.act, ha, Option.toList_none, List.append_nil] using h.of_move hm

lemma registered_after (deeds : List Floor.Deed) : (Day.after deeds).Registered := by
  induction deeds using List.reverseRecOn with
  | nil =>
    intro c hc
    cases hc
  | append_singleton deeds deed ih =>
    rw [after_append]
    exact ih.act (sound_after deeds).distinct deed

lemma awaits_after (deeds : List Floor.Deed) {c : Presence}
    (hc : c ∈ (Day.after deeds).floor.calls) : (Day.after deeds).floor.exchange.Awaits c.entry := by
  have hs := sound_after deeds
  obtain ⟨a, ha, htask, hid⟩ := registered_after deeds c hc
  obtain ⟨b, hb, hp⟩ := hs.present c hc
  obtain rfl := hs.admission_unique ha hb (htask.trans hp.task)
  obtain ⟨t, ht, hpend⟩ := hp.pending
  have hk : a.task = c.entry.task := htask
  refine ⟨⟨t, hk ▸ ht, hk ▸ hpend.isOpen, hpend.callId.trans hid⟩, hk ▸ hp.silent⟩

end Day

namespace Floor

variable {f : Floor} {p i : Nat} {pool : Pool} {l : Line} {t : Task} {k : PromiseId}

lemma operator_of_line (hl : f.line? p i = some l) :
    ∃ pool, f.pool? p = some pool ∧
      pool.operators[i]? = some ⟨l.operator, .serving l.entry l.recorders l.since⟩ := by
  obtain ⟨pool, hp, hl⟩ := Option.bind_eq_some_iff.1 hl
  obtain ⟨⟨id, stance⟩, hi, ho⟩ := Option.bind_eq_some_iff.1 hl
  refine ⟨pool, hp, ?_⟩
  cases stance with
  | serving e set since =>
    obtain rfl := Option.some.inj ho
    exact hi
  | _ => cases ho

lemma work_of_line (hp : f.pool? p = some pool)
    (hi : pool.operators[i]? = some ⟨l.operator, .serving l.entry l.recorders l.since⟩)
    (now : Timestamp) (draw : Nat) :
    f.work p i now draw =
      ({ f with exchange := hangUp f.exchange l.operator l.entry l.recorders l.since now draw } :
        Floor).setPool p (pool.setStance i .returning) := by
  rw [← finishCall_eq hp hi]
  simp only [work, hp, hi, Option.bind_some]

structure Outlasts (f : Floor) (p i : Nat) (l : Line) (run : Switchboard.Turn Task Unit)
    (now : Timestamp) (draw : Nat) : Prop where
  released : ((f.exchange.turn l.entry.task
    (·.service l.operator l.entry.id l.since now draw l.recorders)).1.release l.entry.task now).2 =
      none
  exchange : (f.work p i now draw).exchange =
    ⟨f.exchange.tasks.set l.entry.task none, f.exchange.log ++ run.events,
      f.exchange.journal ++ run.events.map fun event => (l.entry.task, event), f.exchange.promises⟩
  comesBack : ∃ pool, f.pool? p = some pool ∧
    (f.work p i now draw).pool? p = some (pool.setStance i .returning)
  carriesOn : ∀ pool q queue e es, f.pool? p = some pool → pool.isRunning = true →
    pool.queue = some q → f.queue? q = some queue → queue.waiting = e :: es → ∀ later draw',
      ((f.work p i now draw).work p i later draw').line? p i =
        some ⟨l.operator, e, pool.recorders, later⟩

lemma line?_comeBack {q : Nat} {queue : CallQueue} {e : Entry} {es : List Entry} {id : UInt64}
    (hp : f.pool? p = some pool) (hi : pool.operators[i]? = some ⟨id, .returning⟩)
    (hr : pool.isRunning = true) (hq : pool.queue = some q) (hqueue : f.queue? q = some queue)
    (hw : queue.waiting = e :: es) (now : Timestamp) (draw : Nat) :
    (f.work p i now draw).line? p i = some ⟨id, e, pool.recorders, now⟩ := by
  have hcalls : f.hasNoCalls pool = false := by
    simp [hasNoCalls, queueOf?, hq, hqueue, CallQueue.isEmpty, hw]
  obtain ⟨hpaused, hclosing⟩ : pool.paused = false ∧ pool.closing = false := by
    simpa [Pool.isRunning] using hr
  have hwork : f.work p i now draw = f.look p i now := by
    simp [work, comeBack, hp, hi, hcalls]
  obtain ⟨hc, -⟩ | ⟨hc, -⟩ | ⟨q', queue', e', es', -, hq', hqueue', hw', he⟩ := look_cases hp i now
  · cases hc.symm.trans hclosing
  · rcases hc with hc | hc
    · cases hc.symm.trans hpaused
    · cases hc.symm.trans hcalls
  · obtain rfl := Option.some.inj (hq.symm.trans hq')
    obtain rfl := Option.some.inj (hqueue.symm.trans hqueue')
    obtain ⟨rfl, rfl⟩ := List.cons.inj (hw.symm.trans hw')
    have hp' : (f.setQueue q { queue with waiting := es }).pool? p = some pool := hp
    rw [hwork, he, line?_setStance hp', if_pos ⟨rfl, rfl⟩, hi]
    rfl

lemma outlasts (hl : f.line? p i = some l) (ht : f.exchange.task? l.entry.task = some t)
    (hopen : t.IsOpen k) (now : Timestamp) (draw : Nat) :
    f.Outlasts p i l (t.attend l.operator l.entry.id l.since now now draw l.recorders) now
      draw := by
  obtain ⟨pool, hp, hi⟩ := operator_of_line hl
  obtain ⟨hreleased, hx⟩ := hangUp_spec ht hopen l.operator l.recorders l.since now draw
  have hwork := work_of_line hp hi now draw
  have hp' : (f.work p i now draw).pool? p = some (pool.setStance i .returning) := by
    have hp₁ : ({ f with
        exchange := hangUp f.exchange l.operator l.entry l.recorders l.since now draw } :
          Floor).pool? p = some pool := hp
    rw [hwork, pool?_setPool hp₁, if_pos rfl]
  rw [Task.attend_eq hopen]
  refine ⟨hreleased, ?_, ⟨pool, hp, hp'⟩, ?_⟩
  · rw [hwork]
    exact hx
  · intro pool₁ q queue e es hp₁ hr hq hqueue hw later draw'
    obtain rfl := Option.some.inj (hp.symm.trans hp₁)
    have hi' : (pool.setStance i .returning).operators[i]? = some ⟨l.operator, .returning⟩ := by
      simp [Pool.setStance, hi]
    have hqueue' : (f.work p i now draw).queue? q = some queue := by
      rw [hwork]
      exact hqueue
    exact line?_comeBack hp' hi' hr hq hqueue' hw later draw'

end Floor

theorem operators_outlast_their_calls :
    (∀ (t : Task) (p : PromiseId), t.IsOpen p → ∀ operator id pickedUp ended gone draw set,
      Task.Contained p id set ((t.assignOperator operator).execute pickedUp ended draw set).reply
        (t.attend operator id pickedUp ended gone draw set)) ∧
    ∀ deeds p i l, (Day.after deeds).floor.line? p i = some l → ∀ now draw,
      ∃ t, (Day.after deeds).floor.exchange.task? l.entry.task = some t ∧
        t.IsOpen l.entry.task ∧ t.callId = l.entry.id ∧
        (Day.after deeds).floor.Outlasts p i l
          (t.attend l.operator l.entry.id l.since now now draw l.recorders) now draw := by
  refine ⟨fun t p ht => Task.attend_contained ht, ?_⟩
  intro deeds p i l hl now draw
  obtain ⟨t, ht, hopen, hid⟩ := (Day.awaits_after deeds (Floor.mem_calls_of_line hl)).task
  exact ⟨t, ht, hopen, hid, Floor.outlasts hl ht hopen now draw⟩

def RecorderSet.fullDisk : RecorderSet :=
  ⟨7, [.refusing "tape", .crashing "disk" "disk full", .keeping "cdr"]⟩

def Day.ofFault : List Floor.Deed :=
  let midnight := Timestamp.ofPosition 0
  [.build 1 4, .setRecorders 0 .fullDisk,
    .bring 0 ⟨1, 2, .ofSeconds 3⟩ "555-0100" midnight false midnight, .beginStart 0,
    .work 0 0 midnight 0]

theorem operators_outlast_their_calls_when_the_disk_is_full :
    let f := (Day.after Day.ofFault).floor.work 0 0 (.ofPosition 0) 0
    ∃ r, f.log = [.recorded .fullDisk r, .settled 0 (.error (.taskFailed 1 "disk full"))] ∧
      f.log.served.map Recorder.name = ["tape", "disk"] ∧ f.exchange.task? 0 = none := by
  intro f
  obtain ⟨hcontained, h⟩ := operators_outlast_their_calls
  obtain ⟨t, ht, hopen, -, hf⟩ :=
    h Day.ofFault 0 0 ⟨1, ⟨0, 1, "555-0100"⟩, .fullDisk, .ofPosition 0⟩ rfl (.ofPosition 0) 0
  have hreply : ((t.assignOperator 1).execute (.ofPosition 0) (.ofPosition 0) 0 .fullDisk).reply =
      .error ⟨"disk full"⟩ := by
    obtain rfl : (⟨⟨1, 2, .ofSeconds 3⟩, "555-0100", 1, ⟨.ofPosition 0, none, 1, .awaiting, none, 0,
      .zero, "555-0100"⟩, some ⟨0, true⟩, false, true, false, some .fullDisk⟩ : Task) = t :=
        Option.some.inj ht
    rfl
  obtain ⟨r, hr⟩ := (hcontained t 0 hopen 1 1 (.ofPosition 0) (.ofPosition 0) (.ofPosition 0) 0
    .fullDisk).story
  rw [hreply] at hr
  have hlog : f.log =
      [.recorded .fullDisk r, .settled 0 (.error (.taskFailed 1 "disk full"))] := by
    have hsilent : (Day.after Day.ofFault).floor.exchange.log = [] := rfl
    have hx : f.log = _ := congrArg Exchange.log hf.exchange
    rw [hsilent, List.nil_append] at hx
    exact hx.trans hr
  refine ⟨r, hlog, ?_, ?_⟩
  · rw [hlog]
    rfl
  · have hx : f.exchange.task? 0 = _ := congrArg (Exchange.task? · 0) hf.exchange
    exact hx.trans rfl

end Switchboard
