import Switchboard.Proofs.Task.Deeds

/-! The way out of a record. Several deeds hand it out and so does the end of the task; only the
first of them does, also when a recorder crashes over it. -/

namespace Switchboard

lemma Log.records_append (l l' : Log) : Log.records (l ++ l') = l.records ++ l'.records := by
  simp [records]

namespace Task

inductive Writes (t t' : Task) (set? : Option RecorderSet) (l : Log) : Prop
  | nothing (records : l.records = []) (recorded : t'.recorded = t.recorded)
  | record (set : RecorderSet) (given : set? = some set) (unrecorded : t.recorded = false)
      (recorded : t'.recorded = true) (records : l.records = [(set, t'.record)])

namespace Writes

variable {α β : Type} {t t' : Task} {set : RecorderSet} {set? : Option RecorderSet} {l : Log}

lemma count (h : t.Writes t' set? l) :
    l.records.length + t.recorded.toNat = t'.recorded.toNat := by
  cases h with
  | nothing records recorded => simp [records, recorded]
  | record set given unrecorded recorded records => simp [records, unrecorded, recorded]

lemma keeps_recorded (h : t.Writes t' set? l) (ht : t.recorded = true) : t'.recorded = true := by
  cases h with
  | nothing records recorded => exact recorded.trans ht
  | record set given unrecorded recorded records => exact recorded

lemma handOut (t : Task) (r : CallRecord) (set : RecorderSet) :
    t.Writes ({ t with record := r }.handOut set).state (some set)
      ({ t with record := r }.handOut set).events := by
  rw [Task.handOut]
  split
  · exact .nothing rfl rfl
  · have hu : t.recorded = false := Bool.eq_false_iff.2 ‹_›
    exact .record set rfl hu rfl rfl

lemma resolve (h : t.Writes t' set? l) (o : Outcome) :
    t.Writes (t'.resolve o).state set? (l ++ (t'.resolve o).events) := by
  have hr : (t'.resolve o).state.record = t'.record ∧
      (t'.resolve o).state.recorded = t'.recorded ∧ (t'.resolve o).events.records = [] := by
    rw [Task.resolve]
    split <;> exact ⟨rfl, rfl, rfl⟩
  obtain ⟨hrecord, hrecorded, hrecords⟩ := hr
  cases h with
  | nothing records recorded =>
    exact .nothing (by rw [Log.records_append, records, hrecords]; rfl) (hrecorded.trans recorded)
  | record set given unrecorded recorded records =>
    refine .record set given unrecorded (hrecorded.trans recorded) ?_
    rw [Log.records_append, records, hrecords, hrecord]
    rfl

lemma andThen {u : Turn Task α} {f : Task → α → Turn Task β} (h : t.Writes u.state set? u.events)
    (hf : ∀ a, t.Writes (f u.state a).state set? (u.events ++ (f u.state a).events)) :
    t.Writes (u.andThen f).state set? (u.andThen f).events := by
  rw [Turn.andThen]
  split
  · exact h
  · exact hf _

lemma recordFailure (t : Task) (now : Timestamp) (set : RecorderSet) :
    t.Writes (t.recordFailure now set).state (some set) (t.recordFailure now set).events := by
  rw [Task.recordFailure, closeFailed]
  split
  · exact handOut t t.record set
  · exact handOut t (t.record.finishFailed now) set

lemma reject (t : Task) (now : Timestamp) (status : CallStatus) (set : RecorderSet) :
    t.Writes (t.reject now status set).state (some set) (t.reject now status set).events := by
  have hout : t.Writes ((t.closeUnserviced now status).handOut set).state (some set)
      ((t.closeUnserviced now status).handOut set).events := by
    rw [closeUnserviced]
    split
    · exact handOut t t.record set
    · exact handOut t (t.record.finishUnserviced now status) set
  exact hout.andThen fun _ => hout.resolve _

lemma execute (t : Task) (pickedUp ended : Timestamp) (draw : Nat) (set : RecorderSet) :
    t.Writes (t.execute pickedUp ended draw set).state (some set)
      (t.execute pickedUp ended draw set).events := by
  rw [Task.execute]
  split
  · exact .nothing rfl rfl
  · have hout := handOut t ((t.notePickup pickedUp ‹_› ‹_›).noteEnd ended).record set
    exact hout.andThen fun _ => by simpa [Turn.pure] using hout
  · have hout := recordFailure t ended set
    refine hout.andThen fun _ => ?_
    obtain ⟨reply, hreply⟩ := resolve_reply (t.recordFailure ended set).state (.error ‹_›)
    simpa [Turn.andThen, hreply, Turn.pure] using hout.resolve (.error ‹_›)

lemma undergo (next : PromiseId) (t : Task) (deed : Desk.Deed) :
    t.Writes (deed.undergo next t).1 deed.recorders? (deed.undergo next t).2 := by
  cases deed with
  | takeFuture =>
    rw [Desk.Deed.undergo, takeFuture]
    split <;> exact .nothing rfl rfl
  | attach asked =>
    rw [Desk.Deed.undergo, attachPromise]
    split
    · exact .nothing rfl rfl
    · split <;> exact .nothing rfl rfl
  | assignCallId id | assignOperator id | bind set => exact .nothing rfl rfl
  | recordFailure now set => exact .recordFailure t now set
  | resolve o =>
    have hnone : t.Writes t none [] := .nothing rfl rfl
    exact hnone.resolve o
  | reject now status set => exact .reject t now status set
  | execute pickedUp ended draw set => exact .execute t pickedUp ended draw set

end Writes

variable {t : Task} {set : RecorderSet}

lemma resolve_record (t : Task) (o : Outcome) : (t.resolve o).state.record = t.record := by
  rw [resolve]
  split <;> rfl

lemma reject_of_recorded (h : t.recorded = true) (now : Timestamp) (status : CallStatus)
    (set : RecorderSet) :
    t.reject now status set = t.resolve (.ok (.unserviced status t.callId)) := by
  have hc : t.closeUnserviced now status = t := by simp [closeUnserviced, h]
  rw [reject, hc, handOut_of_recorded h]
  simp [Turn.andThen, Turn.pure]

lemma drop_records (t : Task) (now : Timestamp) :
    (t.drop now).events.records =
      if t.recorded then [] else t.bound.toList.map (·, t.record.finishFailed now) := by
  have hlast : (t.lastRecord now).events.records =
      if t.recorded then [] else t.bound.toList.map (·, t.record.finishFailed now) := by
    rw [lastRecord]
    cases hb : t.bound with
    | none => simp [Turn.pure, Log.records]
    | some set =>
      cases hr : t.recorded with
      | true => simp [recordFailure_of_recorded hr, Turn.pure, Log.records]
      | false =>
        obtain ⟨reply, hf, -⟩ := recordFailure_of_unrecorded hr now set
        simp [hf, Log.records]
  rw [drop_eq]
  split
  · rw [Log.records_append, hlast]
    simp [Log.records]
  · rw [Log.records_append, hlast]
    simp [Log.records]
  · exact hlast

end Task

namespace Desk

variable {d : Desk} {t : Task}

lemma left_log (h : d.task = some t) (gone : Timestamp) :
    (d.left gone).log = d.log ++ (t.drop gone).events := by
  simp [left, drop, turn, h]

structure WrittenOnce (d : Desk) (deeds : List Deed) (t : Task) : Prop where
  count : d.log.records.length = t.recorded.toNat
  next : ∀ deed, ∃ t' l, (d.act deed).task = some t' ∧ (d.act deed).log = d.log ++ l ∧
    t.Writes t' deed.recorders? l ∧ (t.recorded = true → t'.recorded = true)
  kept : t.recorded = true → ∀ now status set o,
    (t.reject now status set).state.record = t.record ∧
      (t.recordFailure now set).state.record = t.record ∧
      (t.resolve o).state.record = t.record
  last : ∀ gone, (d.left gone).log.records.length ≤ 1 ∧
    ∀ set, Deed.latest Deed.bound? deeds = some set →
      if t.recorded then (d.left gone).log.records = d.log.records ∧ d.log.records.length = 1
      else ∃ r, (d.left gone).log.records = [(set, r)] ∧ r.status = .rejected ∧
        r.duration = .zero ∧ r.operatorId = t.record.operatorId ∧
        r.pickedUp = some (t.record.pickedUp.getD gone) ∧ r.ended = some gone

lemma records_run (bounds : ServiceBounds) (number : String) (start now : Timestamp)
    (set : RecorderSet) (deeds : List Deed) {t : Task}
    (ht : ((Desk.of bounds number start now set).run deeds).task = some t) :
    ((Desk.of bounds number start now set).run deeds).log.records.length = t.recorded.toNat := by
  induction deeds using List.reverseRecOn generalizing t with
  | nil =>
    obtain rfl := Option.some.inj ht
    rfl
  | append_singleton deeds deed ih =>
    obtain ⟨t₀, ht₀, -⟩ := follows_run bounds number start now set deeds
    rw [run_concat, act_eq ht₀ deed] at ht ⊢
    obtain rfl := Option.some.inj ht
    -- A deed adds a record just when it is the one that marks the task as recorded.
    rw [Log.records_append, List.length_append, ih ht₀,
      ← (Task.Writes.undergo _ t₀ deed).count]
    omega

theorem writtenOnce_run (bounds : ServiceBounds) (number : String) (start now : Timestamp)
    (set : RecorderSet) (deeds : List Deed) :
    ∃ t, ((Desk.of bounds number start now set).run deeds).task = some t ∧
      ((Desk.of bounds number start now set).run deeds).WrittenOnce deeds t := by
  obtain ⟨t, ht, hf⟩ := follows_run bounds number start now set deeds
  have hcount := records_run bounds number start now set deeds ht
  generalize (Desk.of bounds number start now set).run deeds = d at ht hcount ⊢
  refine ⟨t, ht, hcount, ?next, ?kept, ?last⟩
  case next =>
    intro deed
    have hw := Task.Writes.undergo d.promises t deed
    rw [act_eq ht deed]
    exact ⟨_, _, rfl, rfl, hw, hw.keeps_recorded⟩
  case kept =>
    intro hr now status set o
    rw [Task.reject_of_recorded hr, Task.recordFailure_of_recorded hr]
    exact ⟨t.resolve_record _, rfl, t.resolve_record o⟩
  case last =>
    intro gone
    rw [left_log ht, Log.records_append, t.drop_records, hf.bound]
    cases hr : t.recorded with
    | true =>
      rw [hr] at hcount
      simp [hcount]
    | false =>
      rw [hr] at hcount
      obtain hnone : d.log.records = [] := List.length_eq_zero_iff.1 hcount
      rw [hnone]
      refine ⟨by cases Deed.latest Deed.bound? deeds <;> simp, ?_⟩
      intro set hset
      rw [hset]
      exact ⟨_, rfl, rfl, rfl, rfl, rfl, rfl⟩

end Desk

end Switchboard
