import Switchboard.Proofs.Exchange.Closing
import Switchboard.Proofs.Floor.Numbers

/-! How the deeds on a floor close records. Until then a record tells no more than what was known of
the call when it came in, and each way of closing it leaves fields that fit together. -/

namespace Switchboard

structure Particulars where
  callId : CallId
  bounds : ServiceBounds
  number : String
  start : Timestamp

def Particulars.opened (c : Particulars) : CallRecord :=
  { CallRecord.opened c.number c.start with callId := c.callId }

structure Task.Has (t : Task) (c : Particulars) : Prop where
  bounds : t.bounds = c.bounds
  record : t.record = c.opened

structure CallRecord.Sealed (r : CallRecord) (c : Particulars) : Prop where
  callId : r.callId = c.callId
  number : r.number = c.number
  start : r.start = c.start
  status : r.status ≠ .awaiting
  moments : ∃ pickedUp ended, r.pickedUp = some pickedUp ∧ r.ended = some ended ∧
    r.start ≤ pickedUp ∧ pickedUp ≤ ended
  unserviced : r.status ≠ .completed → r.duration = .zero
  serviced : r.status = .completed → ∃ n, r.duration.nanos = c.bounds.unit.nanos * n ∧
    c.bounds.rMin.toNat ≤ n ∧ n ≤ c.bounds.rMax.toNat

lemma CallRecord.Sealed.finishFailed {c : Particulars} {now : Timestamp} (h : c.start ≤ now)
    (operator : UInt64) :
    ({ c.opened with operatorId := operator }.finishFailed now).Sealed c where
  callId := rfl
  number := rfl
  start := rfl
  status := CallStatus.noConfusion
  moments := ⟨now, now, rfl, rfl, h, Int.le_refl _⟩
  unserviced _ := rfl
  serviced := CallStatus.noConfusion

namespace Task

variable {t : Task} {c : Particulars} {r : CallRecord} {now pickedUp ended : Timestamp}
  {draw : Nat}

lemma ClosedUnserviced.sealed (h : t.ClosedUnserviced now r) (hc : t.Has c) (hle : c.start ≤ now) :
    r.Sealed c ∧ r.operatorId = 0 ∧ r.pickedUp = r.ended ∧
      r.status ∈ [.overloaded, .duplication, .rejected] := by
  rw [ClosedUnserviced, hc.record] at h
  obtain rfl | ⟨status, hs, rfl⟩ := h
  · exact ⟨.finishFailed hle 0, rfl, rfl, List.mem_of_elem_eq_true rfl⟩
  · have hopen : status ≠ .awaiting := by
      rintro rfl
      simp at hs
    have hidle : status ≠ .completed := by
      rintro rfl
      simp at hs
    refine ⟨⟨rfl, rfl, rfl, hopen, ⟨now, now, rfl, rfl, hle, Int.le_refl _⟩, fun _ => rfl,
      fun h => absurd h hidle⟩, rfl, rfl, hs⟩

lemma answer_ok {status : CallStatus} {hold : Duration}
    (h : t.answer pickedUp draw = .ok (.ok (status, hold))) :
    status = .timeout ∧ hold = .zero ∨ status = .completed ∧
      ∃ n, hold.nanos = t.bounds.unit.nanos * n ∧ t.bounds.rMin.toNat ≤ n ∧
        n ≤ t.bounds.rMax.toNat := by
  have hcases := t.answer_cases pickedUp draw
  dsimp only at hcases
  split at hcases
  · cases h.symm.trans hcases
  split at hcases
  · obtain ⟨rfl, rfl⟩ : status = .timeout ∧ hold = .zero := by simpa using h.symm.trans hcases
    exact .inl ⟨rfl, rfl⟩
  split at hcases
  · cases h.symm.trans hcases
  · next hbounds =>
    obtain ⟨hold', ha, hnanos⟩ := hcases
    obtain ⟨rfl, rfl⟩ : status = .completed ∧ hold = hold' := by simpa using h.symm.trans ha
    exact .inr ⟨rfl, _, hnanos, ServiceBounds.toNat_pick hbounds draw⟩

lemma ClosedServiced.sealed {operator : UInt64}
    (h : (t.assignOperator operator).ClosedServiced pickedUp ended draw r) (hc : t.Has c)
    (hle : c.start ≤ pickedUp) (hle' : pickedUp ≤ ended) :
    r.Sealed c ∧ r.operatorId = operator ∧ r.status ∈ [.completed, .timeout, .rejected] := by
  obtain rfl | ⟨status, hold, ha, rfl⟩ := h
  · simp only [assignOperator, hc.record]
    exact ⟨.finishFailed (Int.le_trans hle hle') operator, rfl, List.mem_of_elem_eq_true rfl⟩
  · have hanswer := answer_ok ha
    have hb : (t.assignOperator operator).bounds = c.bounds := hc.bounds
    rw [hb] at hanswer
    dsimp only [assignOperator, notePickup, noteEnd]
    rw [hc.record]
    have hmoments : ∃ p e, some pickedUp = some p ∧ some ended = some e ∧ c.start ≤ p ∧ p ≤ e :=
      ⟨pickedUp, ended, rfl, rfl, hle, hle'⟩
    obtain ⟨rfl, rfl⟩ | ⟨rfl, n, hn⟩ := hanswer
    · exact ⟨⟨rfl, rfl, rfl, CallStatus.noConfusion, hmoments, fun _ => rfl,
        CallStatus.noConfusion⟩, rfl, List.mem_of_elem_eq_true rfl⟩
    · exact ⟨⟨rfl, rfl, rfl, CallStatus.noConfusion, hmoments, fun h => absurd rfl h,
        fun _ => ⟨n, hn⟩⟩, rfl, List.mem_of_elem_eq_true rfl⟩

end Task

namespace Floor

def Deed.reading? : Deed → Option Timestamp
  | .bring _ _ _ _ _ now | .transfer _ _ now | .replaceQueue _ _ now | .work _ _ now _
  | .dismiss _ now => some now
  | _ => none

def Admits (f : Floor) (deed : Deed) (c : Particulars) : Prop :=
  ∃ p q taken now, deed = .bring p c.bounds c.number c.start taken now ∧
    f.door? p = some (q, c.callId)

def ClosedBy (f : Floor) (deed : Deed) (k : Nat) (t : Task) (r : CallRecord) : Prop :=
  match deed with
  | .work p i now draw => ∃ l, f.line? p i = some l ∧ l.entry.task = k ∧
      (t.assignOperator l.operator).ClosedServiced l.since now draw r
  | deed => ∃ now, deed.reading? = some now ∧ t.ClosedUnserviced now r

open Exchange (Clears)

variable {f : Floor} {p i q old : Nat} {id : CallId} {queue : CallQueue} {now : Timestamp}

lemma clears_letGoQueue (f : Floor) (own : Option Nat) (now : Timestamp) :
    Clears now f.exchange (f.letGoQueue own now).1.exchange := by
  unfold letGoQueue
  cases own with
  | none => exact .refl _ _
  | some q =>
    dsimp only
    split
    · exact (Exchange.clears_tearDown_go _ now _ _).trans (Exchange.clears_releaseAll _ _ now)
    · exact .refl _ _

lemma clears_takeQueue (f : Floor) (p : Nat) (pool : Pool) (q : Option Nat) (set : RecorderSet)
    (own : Option Nat) (now : Timestamp) :
    Clears now f.exchange ((f.takeQueue p pool q set).letGoQueue own now).1.exchange := by
  have hx : (f.takeQueue p pool q set).exchange = f.exchange := exchange_redirect f q set
  exact hx ▸ clears_letGoQueue (f.takeQueue p pool q set) own now

lemma clears_transfer (f : Floor) (p old : Nat) (now : Timestamp) :
    Clears now f.exchange (f.transfer p old now).1.exchange := by
  cases hp : f.pool? p with
  | none => exact (transfer_of_none hp old now).symm ▸ .refl _ _
  | some pool =>
    cases ho : f.pool? old with
    | none => exact (transfer_of_none_old ho p now).symm ▸ .refl _ _
    | some other =>
      rw [transfer_eq hp ho]
      dsimp only
      split <;> exact clears_takeQueue f p pool other.queue other.recorders pool.queue now

lemma clears_installQueue (f : Floor) (p q : Nat) (now : Timestamp) :
    Clears now f.exchange (f.installQueue p q now).1.exchange := by
  cases hp : f.pool? p with
  | none => exact (installQueue_of_none hp q now).symm ▸ .refl _ _
  | some pool =>
    have ht := clears_takeQueue f p pool (some q) pool.recorders pool.queue now
    rw [installQueue_eq hp]
    dsimp only
    split
    · rw [exchange_modifyPool]
      exact ht
    · exact ht

lemma clears_replaceQueue (f : Floor) (p : Nat) (capacity : UInt64) (now : Timestamp) :
    Clears now f.exchange (f.replaceQueue p capacity now).1.exchange := by
  cases ho : CallQueue.overflow? capacity with
  | some crash => exact (replaceQueue_of_overflow ho p now).symm ▸ .refl _ _
  | none =>
    rw [replaceQueue_eq ho]
    exact clears_installQueue (f.withQueue capacity) p f.queues.length now

lemma clears_dismiss (f : Floor) (p : Nat) (now : Timestamp) :
    Clears now f.exchange (f.dismiss p now).1.exchange := by
  obtain he | ⟨pool, -, -, he⟩ := dismiss_cases f p now
  · exact he.symm ▸ .refl _ _
  · rw [he]
    exact clears_letGoQueue (f.withoutPool p) pool.queue now

lemma exchange_act_of_no_reading {deed : Deed} (h : deed.reading? = none) :
    (f.act deed).exchange = f.exchange := by
  cases deed with
  | build size capacity =>
    cases ho : overflow? size (some capacity) with
    | some crash => rw [act_build_of_overflow ho]
    | none =>
      rw [act_build ho]
      rfl
  | beginStart p =>
    rw [act, beginStart]
    split <;> rfl
  | revive p =>
    rw [act, revive]
    split <;> rfl
  | wakeAll p | stop p | close p => exact exchange_modifyPool f p _
  | setRecorders p set =>
    cases hp : f.pool? p with
    | none => rw [act, setRecorders_of_none hp]
    | some pool =>
      rw [act, setRecorders_eq hp]
      exact exchange_redirect f pool.queue set
  | setCapacity q capacity => exact exchange_modifyQueue f q _
  | bring | transfer | replaceQueue | work | dismiss => cases h

lemma clears_enqueue (f : Floor) (p q : Nat) (queue : CallQueue) (e : Entry) (future : CallFuture)
    (now : Timestamp) : Clears now f.exchange (f.enqueue p q queue e future now).1.exchange := by
  have hpush := Exchange.clears_push f.exchange queue now e
  have hrelease := Exchange.clears_releaseAll (queue.push f.exchange now e).exchange
    (queue.push f.exchange now e).left now
  obtain ⟨-, he | he⟩ := f.enqueue_eq p q queue e future now
  · rw [he]
    exact hpush.trans hrelease
  · rw [he, exchange_modifyPool]
    exact hpush.trans hrelease

section Bring

variable (bounds : ServiceBounds) (number : String) (start : Timestamp) (taken : Bool)

lemma clears_bring (hd : f.door? p = some (q, id)) (now : Timestamp) :
    ∃ t : Task, t.Has ⟨id, bounds, number, start⟩ ∧
      Clears now (f.exchange.welcome t) (f.bring p bounds number start taken now).1.exchange := by
  obtain ⟨pool, queue, hp, hq, hqueue, rfl⟩ := door?_of_some hd
  have hqueue' : f.queueOf? pool = some queue := by rw [queueOf?, hq, Option.bind_some, hqueue]
  rw [bring_eq]
  simp only [hp, hq, hqueue']
  rw [register_eq rfl]
  refine ⟨(Task.newcomer f.exchange.promises bounds number start taken).admitted
    f.exchange.promises (f.nextId pool.ids).1 pool.recorders, ⟨rfl, rfl⟩, ?_⟩
  cases taken with
  | true => exact Exchange.clears_releaseAll _ [f.exchange.tasks.length] now
  | false => exact clears_enqueue (f.welcome pool.ids _) p q queue _ _ now

lemma clears_bring_of_no_door (hd : f.door? p = none) (now : Timestamp) :
    Clears now f.exchange (f.bring p bounds number start taken now).1.exchange := by
  let t := Task.newcomer f.exchange.promises bounds number start taken
  have ht : (f.exchange.welcome t).task? f.exchange.tasks.length = some t := by
    rw [Exchange.task?_welcome, if_pos rfl]
  have hspec := ((f.exchange.welcome t).releaseAll_spec [f.exchange.tasks.length] now).2
  simp only [List.mem_singleton] at hspec
  rw [bring_of_no_door bounds number start now hd]
  constructor
  · intro k u hu
    rw [(hspec k).1] at hu
    split at hu
    · cases hu
    · rw [Exchange.task?_welcome, if_neg ‹_›] at hu
      exact .inl hu
  · intro k set r hm
    rw [Exchange.mem_records, (hspec k).2, List.mem_append] at hm
    refine .inl (Exchange.mem_records.2 (hm.resolve_right fun hlast => ?_))
    split at hlast
    · -- Such a call was never bound to recorders, so its last words hold no record.
      have hsaid : (t.drop now).events = _ := Task.drop_unbound (Task.newcomer_isOpen ..) rfl now
      obtain rfl := ‹k = _›
      rw [Exchange.lastWords, ht] at hlast
      simp [hsaid] at hlast
    · cases hlast

end Bring

lemma closes_work (h : f.Sound) (p i : Nat) (now : Timestamp) (draw : Nat) :
    f.exchange.Closes (f.ClosedBy (.work p i now draw)) (f.work p i now draw).exchange := by
  cases f.works_work p i now draw with
  | rests before after exchange queues => exact exchange ▸ .refl _ _
  | picksUp pool isPool isRunning q draws queue isQueue e es waits before id after exchange =>
    exact exchange ▸ .refl _ _
  | hangsUp l before after exchange queues calls =>
    obtain ⟨t, ht, hopen, -⟩ := h.pending_of_line before
    obtain ⟨-, hx⟩ := hangUp_spec ht hopen l.operator l.recorders l.since now draw
    rw [exchange, hx]
    constructor
    · intro k u hu
      rw [Exchange.task?_set _ _ _ _ (Exchange.lt_length ht)] at hu
      split at hu
      · cases hu
      · exact .inl hu
    · intro k set r hm
      rw [Exchange.records_append, List.mem_append] at hm
      refine hm.imp_right fun hnew => ?_
      obtain ⟨⟨s, r'⟩, hrecord, he⟩ := List.mem_map.1 hnew
      obtain ⟨rfl, rfl, rfl⟩ : l.entry.task = k ∧ s = set ∧ r' = r := by simpa using he
      exact ⟨t, ht, hopen.unrecorded, l, before, rfl, Task.service_record hopen.unrecorded hrecord⟩

lemma closes_of_no_reading {deed : Deed} (h : deed.reading? = none) :
    f.exchange.Closes (f.ClosedBy deed) (f.act deed).exchange := by
  rw [exchange_act_of_no_reading h]
  exact .refl _ _

structure Enters (f : Floor) (deed : Deed) (x : Exchange) : Prop where
  records : x.records = f.exchange.records
  task : ∀ k t, x.task? k = some t → f.exchange.task? k = some t ∨
    k = f.exchange.tasks.length ∧ ∃ c, f.Admits deed c ∧ t.Has c

lemma Enters.nobody (f : Floor) (deed : Deed) : f.Enters deed f.exchange := ⟨rfl, fun _ _ => .inl⟩

lemma closes_act (h : f.Sound) (deed : Deed) :
    ∃ x, f.Enters deed x ∧ x.Closes (f.ClosedBy deed) (f.act deed).exchange := by
  cases deed with
  | bring p bounds number start taken now =>
    cases hd : f.door? p with
    | none =>
      have hx := clears_bring_of_no_door bounds number start taken hd now
      exact ⟨_, .nobody f _, hx.mono fun _ _ _ hc => ⟨now, rfl, hc⟩⟩
    | some door =>
      obtain ⟨q, id⟩ := door
      obtain ⟨t, ht, hx⟩ := clears_bring bounds number start taken hd now
      refine ⟨f.exchange.welcome t, ⟨rfl, ?_⟩, hx.mono fun _ _ _ hc => ⟨now, rfl, hc⟩⟩
      intro k u hu
      rw [Exchange.task?_welcome] at hu
      split at hu
      · obtain rfl := Option.some.inj hu
        exact .inr ⟨‹_›, _, ⟨p, q, taken, now, rfl, hd⟩, ht⟩
      · exact .inl hu
  | transfer p old now =>
    exact ⟨_, .nobody f _, (f.clears_transfer p old now).mono fun _ _ _ hc => ⟨now, rfl, hc⟩⟩
  | replaceQueue p capacity now =>
    have hx := f.clears_replaceQueue p capacity now
    exact ⟨_, .nobody f _, hx.mono fun _ _ _ hc => ⟨now, rfl, hc⟩⟩
  | dismiss p now =>
    exact ⟨_, .nobody f _, (f.clears_dismiss p now).mono fun _ _ _ hc => ⟨now, rfl, hc⟩⟩
  | work p i now draw => exact ⟨_, .nobody f _, closes_work h p i now draw⟩
  | build | beginStart | revive | wakeAll | stop | setRecorders | setCapacity | close =>
    exact ⟨_, .nobody f _, closes_of_no_reading rfl⟩

end Floor

end Switchboard
