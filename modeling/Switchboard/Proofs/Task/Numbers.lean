import Switchboard.Proofs.Task.Departure

namespace Switchboard

def Log.Bears (log : Log) (number : String) : Prop :=
  ∀ set r, Event.recorded set r ∈ log → r.number = number

structure Task.Bears (t : Task) (number : String) : Prop where
  own : t.number = number
  written : t.record.number = number

structure Turn.Bears {α : Type} (u : Turn Task α) (number : String) : Prop where
  state : u.state.Bears number
  events : u.events.Bears number

variable {number : String}

lemma Log.bears_nil : Log.Bears [] number := by
  intro set r h
  cases h

lemma Log.Bears.append {l l' : Log} (h : l.Bears number) (h' : l'.Bears number) :
    Log.Bears (l ++ l') number := by
  intro set r hr
  exact (List.mem_append.1 hr).elim (h set r) (h' set r)

lemma Log.bears_of_no_record {e : Event} (h : ∀ set r, e ≠ .recorded set r) :
    Log.Bears [e] number := by
  intro set r hr
  exact absurd (List.mem_singleton.1 hr).symm (h set r)

section

variable {α β : Type} {t t' : Task}

lemma Turn.Bears.pure (h : t.Bears number) (a : α) : (Turn.pure t a).Bears number :=
  ⟨h, Log.bears_nil⟩

lemma Turn.Bears.andThen {u : Turn Task α} {f : Task → α → Turn Task β} (h : u.Bears number)
    (hf : ∀ t a, t.Bears number → (f t a).Bears number) : (u.andThen f).Bears number := by
  rw [Turn.andThen]
  split
  · exact ⟨h.state, h.events⟩
  · have hnext := hf u.state ‹_› h.state
    exact ⟨hnext.state, h.events.append hnext.events⟩

end

namespace Task.Bears

variable {t t' : Task} {set : RecorderSet} {l : Log}

lemma handOut (h : t.Bears number) (set : RecorderSet) : (t.handOut set).Bears number := by
  rw [Task.handOut]
  split
  · exact .pure h ()
  · refine ⟨⟨h.own, h.written⟩, ?_⟩
    intro set' r hr
    cases List.mem_singleton.1 hr
    exact h.written

lemma resolve (h : t.Bears number) (o : Outcome) : (t.resolve o).Bears number := by
  rw [Task.resolve]
  split
  · exact ⟨h, Log.bears_of_no_record (by simp)⟩
  · exact ⟨⟨h.own, h.written⟩, Log.bears_of_no_record (by simp)⟩

lemma closeUnserviced (h : t.Bears number) (now : Timestamp) (status : CallStatus) :
    (t.closeUnserviced now status).Bears number := by
  rw [Task.closeUnserviced]
  split
  · exact h
  · exact ⟨h.own, h.written⟩

lemma recordFailure (h : t.Bears number) (now : Timestamp) (set : RecorderSet) :
    (t.recordFailure now set).Bears number := by
  have hclosed : (t.closeFailed now).Bears number := by
    rw [Task.closeFailed]
    split
    · exact h
    · exact ⟨h.own, h.written⟩
  exact hclosed.handOut set

lemma reject (h : t.Bears number) (now : Timestamp) (status : CallStatus) (set : RecorderSet) :
    (t.reject now status set).Bears number :=
  ((h.closeUnserviced now status).handOut set).andThen fun _ _ ht => ht.resolve _

lemma execute (h : t.Bears number) (pickedUp ended : Timestamp) (draw : Nat) (set : RecorderSet) :
    (t.execute pickedUp ended draw set).Bears number := by
  rw [Task.execute]
  split
  · exact ⟨h, Log.bears_nil⟩
  · have hended (status : CallStatus) (hold : Duration) :
        ((t.notePickup pickedUp status hold).noteEnd ended).Bears number := ⟨h.own, h.written⟩
    exact ((hended ..).handOut set).andThen fun _ _ ht => .pure ht _
  · refine (h.recordFailure ended set).andThen fun _ _ ht => ?_
    exact (ht.resolve _).andThen fun _ _ ht => .pure ht _

lemma service (h : t.Bears number) (operator : UInt64) (id : CallId) (pickedUp ended : Timestamp)
    (draw : Nat) (set : RecorderSet) :
    (t.service operator id pickedUp ended draw set).Bears number := by
  have hassigned : (t.assignOperator operator).Bears number := ⟨h.own, h.written⟩
  have hrun := hassigned.execute pickedUp ended draw set
  rw [Task.service]
  dsimp only
  generalize (t.assignOperator operator).execute pickedUp ended draw set = run at hrun ⊢
  split
  · have hsent := hrun.state.resolve (.ok ‹_›)
    exact ⟨hsent.state, hrun.events.append hsent.events⟩
  · exact ⟨hrun.state, hrun.events⟩
  · have hwritten := hrun.state.recordFailure ended set
    have hsent := hwritten.state.resolve (.error (.taskFailed id ‹Crash›.reason))
    exact ⟨hsent.state, (hrun.events.append hwritten.events).append hsent.events⟩

lemma lastRecord (h : t.Bears number) (now : Timestamp) : (t.lastRecord now).Bears number := by
  rw [Task.lastRecord]
  cases t.bound with
  | none => exact .pure h ()
  | some set => exact h.recordFailure now set

lemma drop (h : t.Bears number) (now : Timestamp) : (t.drop now).Bears number := by
  obtain ⟨hstate, hevents⟩ := h.lastRecord now
  rw [drop_eq]
  split
  · exact ⟨⟨hstate.own, hstate.written⟩, hevents.append (Log.bears_of_no_record (by simp))⟩
  · exact ⟨hstate, hevents.append (Log.bears_of_no_record (by simp))⟩
  · exact ⟨hstate, hevents⟩

lemma handling (h : t.Bears number) (hh : t.Handling set t' l) :
    t'.Bears number ∧ l.Bears number := by
  cases hh with
  | none => exact ⟨h, Log.bears_nil⟩
  | reject now status =>
    have hrejected := h.reject now status set
    exact ⟨hrejected.state, hrejected.events⟩
  | service operator id pickedUp ended draw =>
    have hserviced := h.service operator id pickedUp ended draw set
    exact ⟨hserviced.state, hserviced.events⟩

lemma departure (h : t.Bears number) (hd : t.Departure set l) : l.Bears number := by
  obtain ⟨t', l', now, hh, rfl⟩ := hd
  obtain ⟨ht', hl'⟩ := h.handling hh
  exact hl'.append (ht'.drop now).events

end Task.Bears

end Switchboard
