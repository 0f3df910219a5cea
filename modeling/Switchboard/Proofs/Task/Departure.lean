import Mathlib.Tactic.Lemma
import Switchboard.Task

/-! How a task ends. An open task is turned away, serviced or left alone, and then it is dropped.
Whichever it is, its record is handed out once and its promise ends once, in this order. -/

namespace Switchboard

def RecorderSet.Calm (s : RecorderSet) : Prop := ∀ r, s.crash? r = none

lemma RecorderSet.calm_empty (label : Nat) : (empty label).Calm := fun _ => rfl

def CallRecord.Agrees (r : CallRecord) : Outcome → Prop
  | .ok c => c = ⟨r.status, r.duration, r.callId⟩
  | .error _ => r.status = .rejected ∧ r.duration = .zero

def Outcome.ofReply (id : CallId) : Except Crash Outcome → Outcome
  | .ok o => o
  | .error c => .error (.taskFailed id c.reason)

namespace Log

def records (log : Log) : List (RecorderSet × CallRecord) :=
  log.filterMap fun
    | .recorded set r => some (set, r)
    | _ => none

def outcomes (promise : PromiseId) (log : Log) : List Outcome :=
  log.filterMap fun
    | .settled p o => if p = promise then some o else none
    | _ => none

def endOf (p : PromiseId) : Event → Option (Option Outcome)
  | .settled q o => if q = p then some (some o) else none
  | .withdrawn q => if q = p then some none else none
  | .recorded _ _ | .late _ => none

lemma ending?_eq (p : PromiseId) (log : Log) : log.ending? p = (log.filterMap (endOf p)).head? :=
  (List.head?_filterMap ..).symm

lemma ending?_append (p : PromiseId) (log l : Log) :
    (log ++ l).ending? p = (log.ending? p).or (l.ending? p) :=
  List.findSome?_append

def Timely (log : Log) : Prop := ∀ id, Event.late id ∉ log

end Log

namespace Task

structure IsOpen (t : Task) (p : PromiseId) : Prop where
  unrecorded : t.recorded = false
  promised : ∃ taken, t.promise = some ⟨p, taken⟩
  callId : t.record.callId = t.callId

inductive Handling (t : Task) (set : RecorderSet) : Task → Log → Prop
  | none : Handling t set t []
  | reject (now : Timestamp) (status : CallStatus) :
      Handling t set (t.reject now status set).state (t.reject now status set).events
  | service (operator : UInt64) (id : CallId) (pickedUp ended : Timestamp) (draw : Nat) :
      Handling t set (t.service operator id pickedUp ended draw set).state
        (t.service operator id pickedUp ended draw set).events

def Departure (t : Task) (set : RecorderSet) (l : Log) : Prop :=
  ∃ t' l' now, t.Handling set t' l' ∧ l = l' ++ (t'.drop now).events

variable {t t' : Task} {p : PromiseId} {set : RecorderSet} {l : Log}

inductive Handled (t : Task) (p : PromiseId) (set : RecorderSet) : Task → Log → Prop
  | untouched : Handled t p set t []
  | ended (t' : Task) (r : CallRecord) (o : Outcome) (recorded : t'.recorded = true)
      (promise : t'.promise = none) (callId : r.callId = t.callId)
      (agrees : set.Calm → r.Agrees o) :
      Handled t p set t' [.recorded set r, .settled p o]
  | broken (t' : Task) (r : CallRecord) (recorded : t'.recorded = true)
      (promise : t'.promise = t.promise) (callId : r.callId = t.callId) (crashes : ¬ set.Calm) :
      Handled t p set t' [.recorded set r]

lemma handOut_calm (h : t.recorded = false) (hc : set.crash? t.record = none) :
    t.handOut set = ⟨{ t with recorded := true }, [.recorded set t.record], .ok ()⟩ := by
  simp [handOut, h, hc]

lemma handOut_crash {c : Crash} (h : t.recorded = false) (hc : set.crash? t.record = some c) :
    t.handOut set = ⟨{ t with recorded := true }, [.recorded set t.record], .error c⟩ := by
  simp [handOut, h, hc]

lemma handOut_of_recorded (h : t.recorded = true) (set : RecorderSet) :
    t.handOut set = .pure t () := by
  simp [handOut, h]

lemma closeFailed_of_recorded (h : t.recorded = true) (now : Timestamp) :
    t.closeFailed now = t := by
  simp [closeFailed, h]

lemma recordFailure_of_recorded (h : t.recorded = true) (now : Timestamp) (set : RecorderSet) :
    t.recordFailure now set = .pure t () := by
  rw [recordFailure, closeFailed_of_recorded h, handOut_of_recorded h]

lemma not_calm {r : CallRecord} {c : Crash} (h : set.crash? r = some c) : ¬ set.Calm :=
  fun hc => by simp [hc r] at h

lemma resolve_reply (t : Task) (o : Outcome) : ∃ reply, (t.resolve o).reply = .ok reply := by
  cases hp : t.promise <;> simp [resolve, hp]

lemma reject_calm (t : Task) (now : Timestamp) (status : CallStatus) (hc : set.Calm) :
    ∃ reply, (t.reject now status set).reply = .ok reply := by
  have hh : ((t.closeUnserviced now status).handOut set).reply = .ok () := by
    cases hr : (t.closeUnserviced now status).recorded with
    | true => rw [handOut_of_recorded hr]; rfl
    | false => rw [handOut_calm hr (hc _)]
  rw [reject, Turn.andThen]
  simp only [hh]
  exact resolve_reply _ _

lemma reject_handled (ht : t.IsOpen p) (now : Timestamp) (status : CallStatus)
    (set : RecorderSet) :
    Handled t p set (t.reject now status set).state (t.reject now status set).events := by
  obtain ⟨hr, ⟨taken, hp⟩, hid⟩ := ht
  have hu : (t.closeUnserviced now status).recorded = false := by simp [closeUnserviced, hr]
  rw [reject]
  cases hc : set.crash? (t.closeUnserviced now status).record with
  | none =>
    rw [handOut_calm hu hc]
    simp only [Turn.andThen, resolve, closeUnserviced, hr, hp, Bool.false_eq_true, if_false]
    refine .ended _ _ _ rfl rfl hid fun _ => ?_
    simp [CallRecord.Agrees, CallResult.unserviced, CallRecord.finishUnserviced, hid]
  | some c =>
    rw [handOut_crash hu hc]
    simp only [Turn.andThen, closeUnserviced, hr, Bool.false_eq_true, if_false]
    exact .broken _ _ rfl rfl hid (not_calm hc)

lemma recordFailure_of_unrecorded (h : t.recorded = false) (now : Timestamp) (set : RecorderSet) :
    ∃ reply, t.recordFailure now set =
        ⟨{ t with record := t.record.finishFailed now, recorded := true },
          [.recorded set (t.record.finishFailed now)], reply⟩ ∧
      (set.Calm → reply = .ok ()) := by
  have hu : (t.closeFailed now).recorded = false := by simp [closeFailed, h]
  have hs : t.closeFailed now = { t with record := t.record.finishFailed now } := by
    simp [closeFailed, h]
  cases hc : set.crash? (t.closeFailed now).record with
  | none => exact ⟨.ok (), by rw [recordFailure, handOut_calm hu hc, hs], fun _ => rfl⟩
  | some c =>
    exact ⟨.error c, by rw [recordFailure, handOut_crash hu hc, hs],
      fun h => absurd h (not_calm hc)⟩

inductive Executed (t : Task) (p : PromiseId) (set : RecorderSet) :
    Turn Task (Except DispatchError CallResult) → Prop
  | tooLong (c : Crash) : Executed t p set ⟨t, [], .error c⟩
  | succeeded (t' : Task) (r : CallRecord) (c : CallResult) (recorded : t'.recorded = true)
      (promise : t'.promise = t.promise) (callId : r.callId = t.callId)
      (agrees : r.Agrees (.ok c)) :
      Executed t p set ⟨t', [.recorded set r], .ok (.ok c)⟩
  | failed (t' : Task) (r : CallRecord) (e : DispatchError) (recorded : t'.recorded = true)
      (promise : t'.promise = none) (callId : r.callId = t.callId) (agrees : r.Agrees (.error e)) :
      Executed t p set ⟨t', [.recorded set r, .settled p (.error e)], .ok (.error e)⟩
  | broken (t' : Task) (r : CallRecord) (c : Crash) (recorded : t'.recorded = true)
      (promise : t'.promise = t.promise) (callId : r.callId = t.callId) (crashes : ¬ set.Calm) :
      Executed t p set ⟨t', [.recorded set r], .error c⟩

lemma execute_executed (ht : t.IsOpen p) (pickedUp ended : Timestamp) (draw : Nat)
    (set : RecorderSet) : Executed t p set (t.execute pickedUp ended draw set) := by
  obtain ⟨hr, ⟨taken, hp⟩, hid⟩ := ht
  rw [execute]
  cases ha : t.answer pickedUp draw with
  | error c => exact .tooLong c
  | ok answer =>
    cases answer with
    | ok answer =>
      obtain ⟨status, hold⟩ := answer
      dsimp only
      have hu : ((t.notePickup pickedUp status hold).noteEnd ended).recorded = false := hr
      cases hc : set.crash? ((t.notePickup pickedUp status hold).noteEnd ended).record with
      | none =>
        rw [handOut_calm hu hc]
        refine .succeeded _ _ _ rfl rfl hid ?_
        simpa [CallRecord.Agrees, notePickup, noteEnd] using hid.symm
      | some c =>
        rw [handOut_crash hu hc]
        exact .broken _ _ c rfl rfl hid (not_calm hc)
    | error e =>
      obtain ⟨reply, hf, hc⟩ := recordFailure_of_unrecorded hr ended set
      dsimp only
      rw [hf]
      cases reply with
      | ok =>
        simp only [Turn.andThen, resolve, hp, Turn.pure]
        exact .failed _ _ e rfl rfl hid ⟨rfl, rfl⟩
      | error c => exact .broken _ _ c rfl rfl hid fun h => by cases hc h

lemma service_ended (ht : t.IsOpen p) (operator : UInt64) (id : CallId)
    (pickedUp ended : Timestamp) (draw : Nat) (set : RecorderSet) :
    let run := t.service operator id pickedUp ended draw set
    let o := Outcome.ofReply id ((t.assignOperator operator).execute pickedUp ended draw set).reply
    run.state.recorded = true ∧ run.state.promise = none ∧
      ∃ r, run.events = [.recorded set r, .settled p o] ∧ r.callId = t.callId ∧
        (set.Calm → r.Agrees o) := by
  have hv : (t.assignOperator operator).IsOpen p := ⟨ht.unrecorded, ht.promised, ht.callId⟩
  have hx := execute_executed hv pickedUp ended draw set
  obtain ⟨taken, hp⟩ := hv.promised
  rw [service]
  generalize (t.assignOperator operator).execute pickedUp ended draw set = run at hx ⊢
  cases hx with
  | tooLong c =>
    obtain ⟨reply, hf, -⟩ := recordFailure_of_unrecorded hv.unrecorded ended set
    simp only [hf, resolve, hp]
    exact ⟨trivial, trivial, _, rfl, hv.callId, fun _ => ⟨rfl, rfl⟩⟩
  | succeeded t' r c recorded promise callId agrees =>
    simp only [resolve, promise, hp]
    exact ⟨recorded, trivial, _, rfl, callId, fun _ => agrees⟩
  | failed t' r e recorded promise callId agrees =>
    exact ⟨recorded, promise, _, rfl, callId, fun _ => agrees⟩
  | broken t' r c recorded promise callId crashes =>
    simp only [recordFailure_of_recorded recorded, Turn.pure, resolve, promise, hp]
    exact ⟨recorded, trivial, _, rfl, callId, fun h => absurd h crashes⟩

lemma service_handled (ht : t.IsOpen p) (operator : UInt64) (id : CallId)
    (pickedUp ended : Timestamp) (draw : Nat) (set : RecorderSet) :
    Handled t p set (t.service operator id pickedUp ended draw set).state
      (t.service operator id pickedUp ended draw set).events := by
  obtain ⟨recorded, promise, r, he, callId, agrees⟩ :=
    service_ended ht operator id pickedUp ended draw set
  rw [he]
  exact .ended _ r _ recorded promise callId agrees

lemma Handling.handled (ht : t.IsOpen p) (h : t.Handling set t' l) : Handled t p set t' l := by
  cases h with
  | none => exact .untouched
  | reject now status => exact reject_handled ht now status set
  | service operator id pickedUp ended draw =>
    exact service_handled ht operator id pickedUp ended draw set

def lastRecord (t : Task) (now : Timestamp) : Turn Task Unit :=
  match t.bound with
  | none => .pure t ()
  | some set => t.recordFailure now set

lemma drop_eq (t : Task) (now : Timestamp) :
    t.drop now = match (t.lastRecord now).reply, (t.lastRecord now).state.promise with
      | .ok _, some p =>
        ⟨{ (t.lastRecord now).state with promise := none },
          (t.lastRecord now).events ++ [.settled p.id (.error (.abandoned t.callId))], .ok ()⟩
      | .error _, some p =>
        { t.lastRecord now with events := (t.lastRecord now).events ++ [.withdrawn p.id] }
      | _, none => t.lastRecord now := rfl

lemma drop_of_ended (h : t.recorded = true) (hp : t.promise = none) (now : Timestamp) :
    t.drop now = .pure t () := by
  cases hb : t.bound <;> simp [drop, hb, recordFailure_of_recorded h, Turn.pure, hp]

lemma drop_of_recorded (h : t.recorded = true) {q : Promise} (hp : t.promise = some q)
    (now : Timestamp) :
    (t.drop now).events = [.settled q.id (.error (.abandoned t.callId))] := by
  cases hb : t.bound <;> simp [drop, hb, recordFailure_of_recorded h, Turn.pure, hp]

lemma drop_of_unbound {q : Promise} (hp : t.promise = some q) (hb : t.bound = none)
    (now : Timestamp) :
    (t.drop now).events = [.settled q.id (.error (.abandoned t.callId))] ∧
      (t.drop now).reply = .ok () := by
  simp [drop, hb, Turn.pure, hp]

lemma drop_unbound (ht : t.IsOpen p) (hb : t.bound = none) (now : Timestamp) :
    (t.drop now).events = [.settled p (.error (.abandoned t.callId))] := by
  obtain ⟨taken, hp⟩ := ht.promised
  exact (drop_of_unbound hp hb now).1

lemma drop_of_bound (hr : t.recorded = false) {q : Promise} (hp : t.promise = some q)
    {bound : RecorderSet} (hb : t.bound = some bound) (now : Timestamp) :
    ∃ e, (t.drop now).events = [.recorded bound (t.record.finishFailed now), e] ∧
      (e = .withdrawn q.id ∧ ¬ bound.Calm ∨
        e = .settled q.id (.error (.abandoned t.callId)) ∧ (t.drop now).reply = .ok ()) := by
  obtain ⟨reply, hf, hc⟩ := recordFailure_of_unrecorded hr now bound
  rw [drop]
  simp only [hb, hf, hp]
  cases reply with
  | ok => exact ⟨_, rfl, .inr ⟨rfl, rfl⟩⟩
  | error c => exact ⟨_, rfl, .inl ⟨rfl, fun h => by cases hc h⟩⟩

lemma drop_bound (ht : t.IsOpen p) {bound : RecorderSet} (hb : t.bound = some bound)
    (now : Timestamp) :
    ∃ e, (t.drop now).events = [.recorded bound (t.record.finishFailed now), e] ∧
      (e = .withdrawn p ∧ ¬ bound.Calm ∨ e = .settled p (.error (.abandoned t.callId))) := by
  obtain ⟨taken, hp⟩ := ht.promised
  obtain ⟨e, hevents, he⟩ := drop_of_bound ht.unrecorded hp hb now
  exact ⟨e, hevents, he.imp_right And.left⟩

lemma departure_story (ht : t.IsOpen p) {bound : RecorderSet} (hb : t.bound = some bound)
    (h : t.Departure set l) :
    ∃ s r e, l = [.recorded s r, e] ∧ (s = set ∨ s = bound) ∧ r.callId = t.callId ∧
      (e = .withdrawn p ∨ ∃ o, e = .settled p o) ∧
      (set.Calm → bound.Calm → ∃ o, e = .settled p o ∧ r.Agrees o) := by
  obtain ⟨t', l', now, hh, rfl⟩ := h
  cases hh.handled ht with
  | untouched =>
    obtain ⟨e, he, hk⟩ := drop_bound ht hb now
    refine ⟨bound, t.record.finishFailed now, e, by simp [he], .inr rfl, ht.callId, ?_,
      fun _ hc => ?_⟩
    · rcases hk with ⟨rfl, -⟩ | rfl
      · exact .inl rfl
      · exact .inr ⟨_, rfl⟩
    · rcases hk with ⟨-, hn⟩ | rfl
      · exact absurd hc hn
      · exact ⟨_, rfl, rfl, rfl⟩
  | ended t' r o recorded promise callId agrees =>
    refine ⟨set, r, .settled p o, ?_, .inl rfl, callId, .inr ⟨o, rfl⟩,
      fun hc _ => ⟨o, rfl, agrees hc⟩⟩
    simp [drop_of_ended recorded promise, Turn.pure]
  | broken t' r recorded promise callId crashes =>
    obtain ⟨taken, hp⟩ := ht.promised
    refine ⟨set, r, .settled p (.error (.abandoned t'.callId)), ?_, .inl rfl, callId, .inr ⟨_, rfl⟩,
      fun hc => absurd hc crashes⟩
    simp [drop_of_recorded recorded (promise.trans hp)]

lemma recorded_handOut (t : Task) (set : RecorderSet) : (t.handOut set).state.recorded = true := by
  rw [handOut]
  split
  · assumption
  · rfl

lemma recorded_resolve (h : t.recorded = true) (o : Outcome) :
    (t.resolve o).state.recorded = true := by
  rw [resolve]
  split <;> exact h

lemma recorded_andThen {α β : Type} {r : Turn Task α} {f : Task → α → Turn Task β}
    (h : r.state.recorded = true)
    (hf : ∀ u a, u.recorded = true → (f u a).state.recorded = true) :
    (r.andThen f).state.recorded = true := by
  rw [Turn.andThen]
  split
  · exact h
  · exact hf _ _ h

lemma recorded_reject (t : Task) (now : Timestamp) (status : CallStatus) (set : RecorderSet) :
    (t.reject now status set).state.recorded = true :=
  recorded_andThen (recorded_handOut _ set) fun _ _ hu => recorded_resolve hu _

lemma recorded_execute (t : Task) (pickedUp ended : Timestamp) (draw : Nat)
    (set : RecorderSet) : (t.execute pickedUp ended draw set).state.recorded = true ∨
      ∃ c, (t.execute pickedUp ended draw set).reply = .error c := by
  rw [execute]
  split
  · exact .inr ⟨_, rfl⟩
  · exact .inl (recorded_andThen (recorded_handOut _ set) fun _ _ hu => hu)
  · refine .inl (recorded_andThen (recorded_handOut _ set) ?_)
    intro u _ hu
    exact recorded_andThen (recorded_resolve hu _) fun _ _ hv => hv

lemma recorded_service (t : Task) (operator : UInt64) (id : CallId) (since ended : Timestamp)
    (draw : Nat) (set : RecorderSet) :
    (t.service operator id since ended draw set).state.recorded = true := by
  have hx := recorded_execute (t.assignOperator operator) since ended draw set
  rw [service]
  generalize (t.assignOperator operator).execute since ended draw set = run at hx ⊢
  dsimp only
  split
  · rename_i result hreply
    obtain hr | ⟨c, hc⟩ := hx
    · exact recorded_resolve hr _
    · cases hc.symm.trans hreply
  · rename_i e hreply
    obtain hr | ⟨c, hc⟩ := hx
    · exact hr
    · cases hc.symm.trans hreply
  · exact recorded_resolve (recorded_handOut _ set) _

end Task

end Switchboard
