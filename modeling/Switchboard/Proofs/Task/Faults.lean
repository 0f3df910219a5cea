import Switchboard.Proofs.Task.Departure

/-! Crashes during the service of a call. Its units may be too many to count and any recorder may
crash; the operator catches what it can, and the rest of what it does with the call cannot crash. -/

namespace Switchboard

namespace Turn

variable {σ α β : Type}

def caught (u : Turn σ α) : Turn σ (Except Crash α) := ⟨u.state, u.events, .ok u.reply⟩

lemma events_subset_andThen (u : Turn σ α) (f : σ → α → Turn σ β) :
    u.events ⊆ (u.andThen f).events := by
  rw [andThen]
  split
  · exact List.Subset.refl u.events
  · exact List.subset_append_left ..

end Turn

def Log.served (log : Log) : List Recorder := log.records.flatMap fun (set, r) => set.reached r

lemma RecorderSet.reached_prefix (set : RecorderSet) (r : CallRecord) :
    set.reached r <+: set.members := by
  rw [reached]
  induction set.members with
  | nil => exact List.prefix_rfl
  | cons w ws ih =>
    rw [reached.go]
    split
    · exact List.cons_prefix_cons.2 ⟨rfl, List.nil_prefix⟩
    · exact List.cons_prefix_cons.2 ⟨rfl, ih⟩

lemma ServiceBounds.units_crash {b : ServiceBounds} {k : UInt32} {c : Crash}
    (h : b.units k = .error c) : c = tooLong := by
  rw [units] at h
  split at h
  · cases h
  · exact (Except.error.inj h).symm

lemma ServiceBounds.sample_crash {b : ServiceBounds} {draw : Nat} {c : Crash}
    (h : b.sample draw = .error c) : c = tooLong := by
  rw [sample] at h
  split at h
  · cases h
  · cases hu : b.units (b.pick draw) with
    | ok d =>
      rw [hu] at h
      cases h
    | error c' =>
      rw [hu] at h
      obtain rfl := Except.error.inj h
      exact units_crash hu

namespace Task

variable {t : Task} {p : PromiseId} {set : RecorderSet} {c : Crash}

def serviceBySteps (t : Task) (operator : UInt64) (id : CallId) (pickedUp ended : Timestamp)
    (draw : Nat) (set : RecorderSet) : Turn Task Unit :=
  ((t.assignOperator operator).execute pickedUp ended draw set).caught.andThen fun t reply =>
    match reply with
    | .ok (.ok result) => (t.resolve (.ok result)).andThen fun t _ => .pure t ()
    | .ok (.error _) => .pure t ()
    | .error c =>
      (t.recordFailure ended set).caught.andThen fun t _ =>
        (t.resolve (.error (.taskFailed id c.reason))).andThen fun t _ => .pure t ()

def attend (t : Task) (operator : UInt64) (id : CallId) (pickedUp ended gone : Timestamp)
    (draw : Nat) (set : RecorderSet) : Turn Task Unit :=
  (t.serviceBySteps operator id pickedUp ended draw set).andThen fun t _ => t.drop gone

lemma resolve_quietly (t : Task) (o : Outcome) :
    ((t.resolve o).andThen fun t _ => Turn.pure t ()) =
      ⟨(t.resolve o).state, (t.resolve o).events, .ok ()⟩ := by
  obtain ⟨reply, hr⟩ := resolve_reply t o
  simp [Turn.andThen, Turn.pure, hr]

lemma serviceBySteps_eq (t : Task) (operator : UInt64) (id : CallId) (pickedUp ended : Timestamp)
    (draw : Nat) (set : RecorderSet) :
    t.serviceBySteps operator id pickedUp ended draw set =
      t.service operator id pickedUp ended draw set := by
  rw [serviceBySteps, service]
  simp only [resolve_quietly]
  generalize (t.assignOperator operator).execute pickedUp ended draw set = run
  obtain ⟨state, events, reply⟩ := run
  cases reply with
  | error c => simp [Turn.caught, Turn.andThen]
  | ok outcome =>
    cases outcome with
    | ok result => rfl
    | error e => simp [Turn.caught, Turn.andThen, Turn.pure]

lemma answer_crash {pickedUp : Timestamp} {draw : Nat} (h : t.answer pickedUp draw = .error c) :
    c = ServiceBounds.tooLong := by
  rw [answer] at h
  cases hl : t.bounds.maxWait with
  | error c' =>
    rw [hl] at h
    obtain rfl := Except.error.inj h
    exact ServiceBounds.units_crash hl
  | ok limit =>
    rw [hl] at h
    change (if pickedUp.since t.record.start < limit.nanos then _ else _) = _ at h
    split at h
    · cases hs : t.bounds.sample draw with
      | error c' =>
        rw [hs] at h
        obtain rfl := Except.error.inj h
        exact ServiceBounds.sample_crash hs
      | ok hold =>
        rw [hs] at h
        cases h
    · cases h

lemma handOut_crashed {α : Type} {f : Task → Unit → Turn Task α}
    (hf : ∀ t, ∃ reply, (f t ()).reply = .ok reply)
    (h : ((t.handOut set).andThen f).reply = .error c) :
    ∃ r, .recorded set r ∈ ((t.handOut set).andThen f).events ∧ set.crash? r = some c := by
  cases hr : t.recorded with
  | true =>
    rw [handOut_of_recorded hr] at h
    obtain ⟨reply, hreply⟩ := hf t
    cases hreply.symm.trans h
  | false =>
    cases hc : set.crash? t.record with
    | none =>
      rw [handOut_calm hr hc] at h
      obtain ⟨reply, hreply⟩ := hf { t with recorded := true }
      cases hreply.symm.trans h
    | some c' =>
      rw [handOut_crash hr hc] at h ⊢
      obtain rfl := Except.error.inj h
      exact ⟨t.record, List.mem_singleton.2 rfl, hc⟩

lemma execute_crashed {pickedUp ended : Timestamp} {draw : Nat}
    (h : (t.execute pickedUp ended draw set).reply = .error c) :
    c = ServiceBounds.tooLong ∨
      ∃ r, .recorded set r ∈ (t.execute pickedUp ended draw set).events ∧
        set.crash? r = some c := by
  rw [execute] at h ⊢
  cases ha : t.answer pickedUp draw with
  | error c' =>
    simp only [ha] at h
    obtain rfl := Except.error.inj h
    exact .inl (answer_crash ha)
  | ok answer =>
    apply Or.inr
    cases answer with
    | ok answer =>
      simp only [ha] at h ⊢
      exact handOut_crashed (fun _ => ⟨_, rfl⟩) h
    | error e =>
      simp only [ha] at h ⊢
      -- What follows the record of the failure sends it to the caller, and sending never crashes.
      refine handOut_crashed (fun t => ?_) h
      obtain ⟨reply, hreply⟩ := resolve_reply t (.error e)
      exact ⟨.error e, by simp only [Turn.andThen, hreply, Turn.pure]⟩

lemma service_returns (t : Task) (operator : UInt64) (id : CallId) (pickedUp ended : Timestamp)
    (draw : Nat) (set : RecorderSet) :
    (t.service operator id pickedUp ended draw set).reply = .ok () := by
  rw [service]
  dsimp only
  split <;> rfl

lemma attend_eq (ht : t.IsOpen p) (operator : UInt64) (id : CallId)
    (pickedUp ended gone : Timestamp) (draw : Nat) (set : RecorderSet) :
    t.attend operator id pickedUp ended gone draw set =
      t.service operator id pickedUp ended draw set := by
  obtain ⟨recorded, promise, -⟩ := service_ended ht operator id pickedUp ended draw set
  have hr := t.service_returns operator id pickedUp ended draw set
  rw [attend, serviceBySteps_eq]
  generalize t.service operator id pickedUp ended draw set = run at recorded promise hr ⊢
  obtain ⟨state, events, reply⟩ := run
  obtain rfl : reply = .ok () := hr
  simp only [Turn.andThen, drop_of_ended recorded promise, Turn.pure, List.append_nil]

structure Contained (p : PromiseId) (id : CallId) (set : RecorderSet) (reply : Except Crash Outcome)
    (run : Turn Task Unit) : Prop where
  returns : run.reply = .ok ()
  recorded : run.state.recorded = true
  resolved : run.state.promise = none
  story : ∃ r, run.events = [.recorded set r, .settled p (.ofReply id reply)]
  served : run.events.served <+: set.members
  crash : ∀ c, reply = .error c → c = ServiceBounds.tooLong ∨
    ∃ r, .recorded set r ∈ run.events ∧ set.crash? r = some c

lemma attend_contained (ht : t.IsOpen p) (operator : UInt64) (id : CallId)
    (pickedUp ended gone : Timestamp) (draw : Nat) (set : RecorderSet) :
    Contained p id set ((t.assignOperator operator).execute pickedUp ended draw set).reply
      (t.attend operator id pickedUp ended gone draw set) := by
  have hexecute : ((t.assignOperator operator).execute pickedUp ended draw set).events ⊆
      (t.serviceBySteps operator id pickedUp ended draw set).events :=
    Turn.events_subset_andThen (Turn.caught _) _
  obtain ⟨recorded, promise, r, he, -, -⟩ := service_ended ht operator id pickedUp ended draw set
  rw [serviceBySteps_eq] at hexecute
  rw [attend_eq ht]
  refine ⟨service_returns .., recorded, promise, ⟨r, he⟩, ?_, ?_⟩
  · rw [he]
    simpa [Log.served, Log.records] using set.reached_prefix r
  · intro c hc
    refine (execute_crashed hc).imp_right ?_
    rintro ⟨r, hm, hcrash⟩
    exact ⟨r, hexecute hm, hcrash⟩

end Task

end Switchboard
