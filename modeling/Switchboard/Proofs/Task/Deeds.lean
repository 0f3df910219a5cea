import Mathlib.Data.List.Induction
import Switchboard.Desk
import Switchboard.Proofs.Task.Departure

/-! What is done with a task on its desk. Whatever becomes of its record and of its promises, the
task keeps its bounds and its number, and the rest of what it knows is what it was told last. -/

namespace Switchboard

inductive Desk.Deed
  | takeFuture
  /-- Attaches a new promise, after its future was asked for so many times. -/
  | attach (asked : Nat)
  | assignCallId (id : CallId)
  | assignOperator (id : UInt64)
  | bind (set : RecorderSet)
  | recordFailure (now : Timestamp) (set : RecorderSet)
  | resolve (outcome : Outcome)
  | reject (now : Timestamp) (status : CallStatus) (set : RecorderSet)
  | execute (pickedUp ended : Timestamp) (draw : Nat) (set : RecorderSet)

namespace Desk

namespace Deed

def callId? : Deed → Option CallId
  | .assignCallId id => some id
  | _ => none

def operator? : Deed → Option UInt64
  | .assignOperator id => some id
  | _ => none

def bound? : Deed → Option RecorderSet
  | .bind set => some set
  | _ => none

def recorders? : Deed → Option RecorderSet
  | .recordFailure _ set | .reject _ _ set | .execute _ _ _ set => some set
  | _ => none

def Calm (deed : Deed) : Prop :=
  ∀ set, deed.recorders? = some set ∨ deed.bound? = some set → set.Calm

def latest {β : Type} (f : Deed → Option β) (deeds : List Deed) : Option β :=
  (deeds.filterMap f).getLast?

def openRecord (number : String) (start : Timestamp) (deeds : List Deed) : CallRecord :=
  { CallRecord.opened number start with
    callId := (latest callId? deeds).getD 0
    operatorId := (latest operator? deeds).getD 0 }

lemma latest_concat {β : Type} (f : Deed → Option β) (deeds : List Deed) (deed : Deed) :
    latest f (deeds ++ [deed]) = (f deed).or (latest f deeds) := by
  cases h : f deed <;> simp [latest, h]

lemma openRecord_concat (number : String) (start : Timestamp) (deeds : List Deed) (deed : Deed) :
    openRecord number start (deeds ++ [deed]) =
      { openRecord number start deeds with
        callId := deed.callId?.getD ((latest callId? deeds).getD 0)
        operatorId := deed.operator?.getD ((latest operator? deeds).getD 0) } := by
  simp [openRecord, latest_concat]

def undergo (next : PromiseId) (t : Task) : Deed → Task × Log
  | .takeFuture => (t.takeFuture.1, [])
  | .attach asked =>
    let run := t.attachPromise ⟨next, 0 < asked⟩
    (run.state, run.events)
  | .assignCallId id => (t.assignCallId id, [])
  | .assignOperator id => (t.assignOperator id, [])
  | .bind set => (t.bind set, [])
  | .recordFailure now set => ((t.recordFailure now set).state, (t.recordFailure now set).events)
  | .resolve o => ((t.resolve o).state, (t.resolve o).events)
  | .reject now status set => ((t.reject now status set).state, (t.reject now status set).events)
  | .execute pickedUp ended draw set =>
    ((t.execute pickedUp ended draw set).state, (t.execute pickedUp ended draw set).events)

def promises : Deed → Nat
  | .attach _ => 1
  | _ => 0

def future? (next : PromiseId) (t : Task) : Deed → Option CallFuture
  | .takeFuture => t.takeFuture.2
  | .attach asked => if 0 < asked then some (.of next) else none
  | _ => none

end Deed

open Deed

def step (d : Desk) (t : Task) : Deed → Desk
  | .takeFuture => (d.takeFuture t).2
  | .attach asked => (d.attach t asked).2.2
  | .assignCallId id => d.put (t.assignCallId id)
  | .assignOperator id => d.put (t.assignOperator id)
  | .bind set => d.put (t.bind set)
  | .recordFailure now set => (d.turn (t.recordFailure now set)).2
  | .resolve o => (d.turn (t.resolve o)).2
  | .reject now status set => (d.turn (t.reject now status set)).2
  | .execute pickedUp ended draw set => (d.turn (t.execute pickedUp ended draw set)).2

def act (d : Desk) (deed : Deed) : Desk :=
  match d.task with
  | none => d
  | some t => d.step t deed

def run (d : Desk) (deeds : List Deed) : Desk := deeds.foldl act d

def left (d : Desk) (gone : Timestamp) : Desk := ({ d with now := gone }.drop).2

variable {d : Desk} {t t' t'' : Task} {p q : PromiseId} {deeds : List Deed}

lemma run_concat (d : Desk) (deeds : List Deed) (deed : Deed) :
    d.run (deeds ++ [deed]) = (d.run deeds).act deed := by
  simp [run]

lemma takeFutures_eq (d : Desk) (p : Promise) (asked : Nat) :
    (d.takeFutures p asked).2 =
      (⟨p.id, p.taken || decide (0 < asked)⟩,
        d.keep (if p.taken || asked == 0 then none else some (.of p.id))) := by
  obtain ⟨q, taken⟩ := p
  induction asked generalizing d taken with
  | zero => cases taken <;> simp [takeFutures, keep]
  | succ n ih => cases taken <;> simp [takeFutures, Promise.takeFuture, ih, keep]

lemma attach_eq (d : Desk) (t : Task) (asked : Nat) :
    (d.attach t asked).2 =
      ({ d with promises := d.promises + 1 }.keep ((Deed.attach asked).future? d.promises t)).turn
        (t.attachPromise ⟨d.promises, 0 < asked⟩) := by
  have hfutures := takeFutures_eq { d with promises := d.promises + 1 } ⟨d.promises, false⟩ asked
  simp only [attach, hfutures]
  cases asked <;> rfl

lemma act_eq (h : d.task = some t) (deed : Deed) :
    d.act deed = { d with
      task := some (deed.undergo d.promises t).1
      log := d.log ++ (deed.undergo d.promises t).2
      promises := d.promises + deed.promises
      futures := d.futures ++ (deed.future? d.promises t).toList.map some } := by
  rw [act, h]
  cases deed with
  | attach asked => simp [step, attach_eq, turn, put, keep, undergo, Deed.promises]
  | takeFuture => simp [step, takeFuture, put, keep, undergo, Deed.promises, Deed.future?]
  | _ => simp [step, turn, put, undergo, Deed.promises, Deed.future?]

end Desk

namespace Task

structure Persists (t t' : Task) : Prop where
  bounds : t'.bounds = t.bounds
  number : t'.number = t.number
  callId : t'.callId = t.callId
  hasId : t'.hasId = t.hasId
  bound : t'.bound = t.bound
  recordId : t'.record.callId = t.record.callId
  unrecorded : t'.recorded = false → t.recorded = false ∧ t'.record = t.record

namespace Persists

variable {α β : Type} {t t' t'' : Task}

lemma refl (t : Task) : t.Persists t := by
  constructor <;> simp

lemma trans (h : t.Persists t') (h' : t'.Persists t'') : t.Persists t'' where
  bounds := h'.bounds.trans h.bounds
  number := h'.number.trans h.number
  callId := h'.callId.trans h.callId
  hasId := h'.hasId.trans h.hasId
  bound := h'.bound.trans h.bound
  recordId := h'.recordId.trans h.recordId
  unrecorded hu := by
    obtain ⟨hu', hsame'⟩ := h'.unrecorded hu
    obtain ⟨hu'', hsame⟩ := h.unrecorded hu'
    exact ⟨hu'', hsame'.trans hsame⟩

lemma andThen {u : Turn Task α} {f : Task → α → Turn Task β} (h : t.Persists u.state)
    (hf : ∀ (t : Task) a, t.Persists (f t a).state) : t.Persists (u.andThen f).state := by
  rw [Turn.andThen]
  split
  · exact h
  · exact h.trans (hf ..)

lemma takeFuture (t : Task) : t.Persists t.takeFuture.1 := by
  rw [Task.takeFuture]
  split
  · exact .refl t
  · constructor <;> simp

lemma attachPromise (t : Task) (p : Promise) : t.Persists (t.attachPromise p).state := by
  rw [Task.attachPromise]
  split
  · exact .refl t
  · split
    · exact .refl t
    · constructor <;> simp

lemma handOut (r : CallRecord) (hr : r.callId = t.record.callId) (set : RecorderSet) :
    t.Persists ({ t with record := r }.handOut set).state := by
  rw [Task.handOut]
  split
  · exact ⟨rfl, rfl, rfl, rfl, rfl, hr, by simp_all [Turn.pure]⟩
  · exact ⟨rfl, rfl, rfl, rfl, rfl, hr, by simp⟩

lemma resolve (t : Task) (o : Outcome) : t.Persists (t.resolve o).state := by
  rw [Task.resolve]
  split
  · exact .refl t
  · constructor <;> simp

lemma recordFailure (t : Task) (now : Timestamp) (set : RecorderSet) :
    t.Persists (t.recordFailure now set).state := by
  rw [Task.recordFailure, closeFailed]
  split
  · exact handOut t.record rfl set
  · exact handOut (t.record.finishFailed now) rfl set

lemma reject (t : Task) (now : Timestamp) (status : CallStatus) (set : RecorderSet) :
    t.Persists (t.reject now status set).state := by
  refine andThen ?_ fun t _ => resolve t _
  rw [closeUnserviced]
  split
  · exact handOut t.record rfl set
  · exact handOut (t.record.finishUnserviced now status) rfl set

lemma execute (t : Task) (pickedUp ended : Timestamp) (draw : Nat) (set : RecorderSet) :
    t.Persists (t.execute pickedUp ended draw set).state := by
  rw [Task.execute]
  split
  · exact .refl t
  · exact (handOut _ (by rfl) set).andThen fun t _ => .refl t
  · refine (recordFailure t ended set).andThen fun t _ => ?_
    exact (resolve t _).andThen fun t _ => .refl t

end Persists

variable {t : Task} {set : RecorderSet}

lemma handOut_callId (t : Task) (set : RecorderSet) : (t.handOut set).state.callId = t.callId := by
  rw [handOut]
  split <;> rfl

lemma closeUnserviced_callId (t : Task) (now : Timestamp) (status : CallStatus) :
    (t.closeUnserviced now status).callId = t.callId := by
  rw [closeUnserviced]
  split <;> rfl

lemma handOut_reply (t : Task) (hc : set.Calm) : (t.handOut set).reply = .ok () := by
  rw [handOut]
  split
  · rfl
  · simp [hc t.record]

lemma reject_eq (t : Task) (now : Timestamp) (status : CallStatus) (hc : set.Calm) :
    t.reject now status set =
      let out := (t.closeUnserviced now status).handOut set
      let sent := out.state.resolve (.ok (.unserviced status t.callId))
      ⟨sent.state, out.events ++ sent.events, sent.reply⟩ := by
  simp only [reject, Turn.andThen, handOut_reply _ hc, handOut_callId, closeUnserviced_callId]

lemma execute_eq (t : Task) (pickedUp ended : Timestamp) (draw : Nat) (hc : set.Calm) :
    t.execute pickedUp ended draw set =
      match t.answer pickedUp draw with
      | .error c => ⟨t, [], .error c⟩
      | .ok (.ok (status, hold)) =>
        let out := ((t.notePickup pickedUp status hold).noteEnd ended).handOut set
        ⟨out.state, out.events, .ok (.ok ⟨status, hold, t.callId⟩)⟩
      | .ok (.error e) =>
        let out := t.recordFailure ended set
        let sent := out.state.resolve (.error e)
        ⟨sent.state, out.events ++ sent.events, .ok (.error e)⟩ := by
  have hid (status : CallStatus) (hold : Duration) :
      ((t.notePickup pickedUp status hold).noteEnd ended).callId = t.callId := rfl
  rw [execute]
  cases t.answer pickedUp draw with
  | error c => rfl
  | ok answer =>
    cases answer with
    | ok answer => simp [Turn.andThen, Turn.pure, handOut_reply _ hc, handOut_callId, hid]
    | error e =>
      have hout : (t.recordFailure ended set).reply = .ok () := handOut_reply _ hc
      obtain ⟨reply, hsent⟩ := resolve_reply (t.recordFailure ended set).state (.error e)
      simp [Turn.andThen, Turn.pure, hout, hsent]

structure Follows (t : Task) (bounds : ServiceBounds) (number : String) (start : Timestamp)
    (deeds : List Desk.Deed) : Prop where
  unrecorded : t.recorded = false → t.record = Desk.Deed.openRecord number start deeds
  recordId : t.record.callId = t.callId
  callId : t.callId = (Desk.Deed.latest Desk.Deed.callId? deeds).getD 0
  hasId : t.hasId = (Desk.Deed.latest Desk.Deed.callId? deeds).isSome
  bound : t.bound = Desk.Deed.latest Desk.Deed.bound? deeds
  bounds : t.bounds = bounds
  number : t.number = number

namespace Follows

open Desk.Deed

variable {t t' : Task} {bounds : ServiceBounds} {number : String} {start : Timestamp}
variable {deeds : List Desk.Deed} {deed : Desk.Deed}

lemma fresh (p : PromiseId) (bounds : ServiceBounds) (number : String) (start : Timestamp) :
    (Task.fresh p bounds number start).Follows bounds number start [] := by
  constructor <;> first | rfl | exact fun _ => rfl

lemma persists (h : t.Follows bounds number start deeds) (hp : t.Persists t')
    (hid : deed.callId? = none) (hop : deed.operator? = none) (hbound : deed.bound? = none) :
    t'.Follows bounds number start (deeds ++ [deed]) where
  bounds := hp.bounds.trans h.bounds
  number := hp.number.trans h.number
  callId := by rw [latest_concat, hid, hp.callId, h.callId]; rfl
  hasId := by rw [latest_concat, hid, hp.hasId, h.hasId]; rfl
  bound := by rw [latest_concat, hbound, hp.bound, h.bound]; rfl
  recordId := by rw [hp.recordId, hp.callId, h.recordId]
  unrecorded hu := by
    obtain ⟨hu', hsame⟩ := hp.unrecorded hu
    rw [hsame, h.unrecorded hu', openRecord_concat, hid, hop]
    rfl

lemma undergo (h : t.Follows bounds number start deeds) (next : PromiseId) (deed : Desk.Deed) :
    (deed.undergo next t).1.Follows bounds number start (deeds ++ [deed]) := by
  cases deed with
  | takeFuture => exact h.persists (.takeFuture t) rfl rfl rfl
  | attach asked => exact h.persists (.attachPromise t _) rfl rfl rfl
  | assignCallId id =>
    refine ⟨fun hu => ?_, rfl, ?_, ?_, ?_, h.bounds, h.number⟩
    · rw [openRecord_concat, ← h.unrecorded hu]
      simp [Desk.Deed.undergo, Task.assignCallId, callId?, operator?, h.unrecorded hu, openRecord]
    · rw [latest_concat]
      rfl
    · rw [latest_concat]
      rfl
    · rw [latest_concat]
      exact h.bound
  | assignOperator id =>
    refine ⟨fun hu => ?_, h.recordId, ?_, ?_, ?_, h.bounds, h.number⟩
    · rw [openRecord_concat, ← h.unrecorded hu]
      simp [Desk.Deed.undergo, Task.assignOperator, callId?, operator?, h.unrecorded hu, openRecord]
    · rw [latest_concat]
      exact h.callId
    · rw [latest_concat]
      exact h.hasId
    · rw [latest_concat]
      exact h.bound
  | bind set =>
    refine ⟨fun hu => ?_, h.recordId, ?_, ?_, ?_, h.bounds, h.number⟩
    · rw [openRecord_concat]
      exact h.unrecorded hu
    · rw [latest_concat]
      exact h.callId
    · rw [latest_concat]
      exact h.hasId
    · rw [latest_concat]
      rfl
  | recordFailure now set => exact h.persists (.recordFailure t now set) rfl rfl rfl
  | resolve o => exact h.persists (.resolve t o) rfl rfl rfl
  | reject now status set => exact h.persists (.reject t now status set) rfl rfl rfl
  | execute pickedUp ended draw set =>
    exact h.persists (.execute t pickedUp ended draw set) rfl rfl rfl

end Follows

end Task

lemma Desk.follows_run (bounds : ServiceBounds) (number : String) (start now : Timestamp)
    (set : RecorderSet) (deeds : List Deed) :
    ∃ t, ((Desk.of bounds number start now set).run deeds).task = some t ∧
      t.Follows bounds number start deeds := by
  -- From the end, as each deed is done with the task that those before it have left.
  induction deeds using List.reverseRecOn with
  | nil => exact ⟨_, rfl, .fresh 0 bounds number start⟩
  | append_singleton deeds deed ih =>
    obtain ⟨t, ht, hf⟩ := ih
    rw [run_concat, act_eq ht deed]
    exact ⟨_, rfl, hf.undergo _ deed⟩

end Switchboard
