import Switchboard.Proofs.Exchange.Rejection
import Switchboard.Proofs.Queue.Push
import Switchboard.Proofs.Task.Execution
import Switchboard.Proofs.Task.Writing

/-! How records are closed. Those who turn calls away and those who let go of them leave no operator
in the record; an operator leaves itself in it and what came of the call. -/

namespace Switchboard

lemma Log.mem_records {l : Log} {set : RecorderSet} {r : CallRecord} :
    (set, r) ∈ l.records ↔ .recorded set r ∈ l := by
  rw [records, List.mem_filterMap]
  constructor
  · rintro ⟨e, he, hr⟩
    cases e with
    | recorded s q =>
      obtain ⟨rfl, rfl⟩ : s = set ∧ q = r := by simpa using hr
      exact he
    | _ => cases hr
  · intro hm
    exact ⟨_, hm, rfl⟩

namespace Task

def ClosedUnserviced (t : Task) (now : Timestamp) (r : CallRecord) : Prop :=
  r = t.record.finishFailed now ∨
    ∃ status ∈ [.overloaded, .duplication, .rejected], r = t.record.finishUnserviced now status

def ClosedServiced (t : Task) (pickedUp ended : Timestamp) (draw : Nat) (r : CallRecord) : Prop :=
  r = t.record.finishFailed ended ∨
    ∃ status hold, t.answer pickedUp draw = .ok (.ok (status, hold)) ∧
      r = ((t.notePickup pickedUp status hold).noteEnd ended).record

variable {t : Task} {set s : RecorderSet} {r : CallRecord} {now pickedUp ended : Timestamp}
  {status : CallStatus} {draw : Nat}

lemma resolve_records (t : Task) (o : Outcome) : (t.resolve o).events.records = [] := by
  rw [resolve]
  split <;> rfl

lemma handOut_records (h : t.recorded = false) (set : RecorderSet) :
    (t.handOut set).events.records = [(set, t.record)] := by
  simp [handOut, h, Log.records]

lemma recordFailure_records (h : t.recorded = false) (now : Timestamp) (set : RecorderSet) :
    (t.recordFailure now set).events.records = [(set, t.record.finishFailed now)] := by
  obtain ⟨reply, hf, -⟩ := recordFailure_of_unrecorded h now set
  rw [hf]
  rfl

lemma andThen_records {α β : Type} {u : Turn Task α} {f : Task → α → Turn Task β}
    (hf : ∀ t a, (f t a).events.records = []) :
    (u.andThen f).events.records = u.events.records := by
  rw [Turn.andThen]
  split
  · rfl
  · rw [Log.records_append, hf, List.append_nil]

lemma reject_record (h : (s, r) ∈ (t.reject now status set).events.records) :
    t.recorded = false ∧ r = t.record.finishUnserviced now status := by
  cases hr : t.recorded with
  | true =>
    rw [reject_of_recorded hr, resolve_records] at h
    cases h
  | false =>
    have hu : (t.closeUnserviced now status).recorded = false := by simp [closeUnserviced, hr]
    rw [reject, andThen_records fun t _ => t.resolve_records _, handOut_records hu,
      List.mem_singleton] at h
    refine ⟨rfl, (congrArg Prod.snd h).trans ?_⟩
    simp [closeUnserviced, hr]

lemma drop_record (h : (s, r) ∈ (t.drop now).events.records) :
    t.recorded = false ∧ r = t.record.finishFailed now := by
  rw [drop_records] at h
  split at h
  · cases h
  · obtain ⟨bound, -, he⟩ := List.mem_map.1 h
    exact ⟨Bool.eq_false_iff.2 ‹_›, (congrArg Prod.snd he).symm⟩

lemma execute_records (h : t.recorded = false) (pickedUp ended : Timestamp) (draw : Nat)
    (set : RecorderSet) :
    (∃ c, t.execute pickedUp ended draw set = ⟨t, [], .error c⟩) ∨
      (t.execute pickedUp ended draw set).state.recorded = true ∧
        ∃ r, (t.execute pickedUp ended draw set).events.records = [(set, r)] ∧
          t.ClosedServiced pickedUp ended draw r := by
  rw [execute]
  cases ha : t.answer pickedUp draw with
  | error c => exact .inl ⟨c, rfl⟩
  | ok answer =>
    apply Or.inr
    cases answer with
    | ok answer =>
      obtain ⟨status, hold⟩ := answer
      have hu : ((t.notePickup pickedUp status hold).noteEnd ended).recorded = false := h
      refine ⟨recorded_andThen (recorded_handOut _ set) fun _ _ hu => hu, _, ?_,
        .inr ⟨status, hold, ha, rfl⟩⟩
      exact (andThen_records fun _ _ => rfl).trans (handOut_records hu set)
    | error e =>
      refine ⟨?_, _, ?_, .inl rfl⟩
      · refine recorded_andThen (recorded_handOut _ set) fun u _ hu => ?_
        exact recorded_andThen (recorded_resolve hu _) fun _ _ hv => hv
      · have hresolve (u : Task) (a : Unit) :
            ((u.resolve (.error e)).andThen fun t _ =>
              (.pure t (.error e) : Turn Task (Except DispatchError CallResult))).events.records =
                [] :=
          (andThen_records fun _ _ => rfl).trans (u.resolve_records _)
        exact (andThen_records hresolve).trans (recordFailure_records h ended set)

lemma service_record (h : t.recorded = false) {operator : UInt64} {id : CallId}
    (hm : (s, r) ∈ (t.service operator id pickedUp ended draw set).events.records) :
    (t.assignOperator operator).ClosedServiced pickedUp ended draw r := by
  have hx := (t.assignOperator operator).execute_records h pickedUp ended draw set
  rw [service] at hm
  generalize (t.assignOperator operator).execute pickedUp ended draw set = run at hx hm
  obtain ⟨c, rfl⟩ | ⟨hrecorded, q, hq, hclosed⟩ := hx
  · simp only [Log.records_append, resolve_records, List.append_nil] at hm
    rw [recordFailure_records (t := t.assignOperator operator) h] at hm
    exact .inl (congrArg Prod.snd (List.mem_singleton.1 hm))
  · -- Whatever crashes from here on, the record is out and is not handed out again.
    have hrun : (s, r) ∈ run.events.records := by
      dsimp only at hm
      split at hm
      · simpa only [Log.records_append, resolve_records, List.append_nil] using hm
      · exact hm
      · simpa only [recordFailure_of_recorded hrecorded, Turn.pure, Log.records_append,
          resolve_records, List.append_nil] using hm
    rw [hq, List.mem_singleton] at hrun
    obtain rfl : r = q := congrArg Prod.snd hrun
    exact hclosed

end Task

namespace Exchange

structure Closes (C : Nat → Task → CallRecord → Prop) (x x' : Exchange) : Prop where
  task : ∀ k t, x'.task? k = some t → x.task? k = some t ∨ t.recorded = true
  record : ∀ k set r, (k, set, r) ∈ x'.records →
    (k, set, r) ∈ x.records ∨ ∃ t, x.task? k = some t ∧ t.recorded = false ∧ C k t r

variable {C D : Nat → Task → CallRecord → Prop} {x x₁ x₂ : Exchange} {now : Timestamp}

namespace Closes

lemma refl (C : Nat → Task → CallRecord → Prop) (x : Exchange) : x.Closes C x :=
  ⟨fun _ _ => .inl, fun _ _ _ => .inl⟩

lemma trans (h : x.Closes C x₁) (h' : x₁.Closes C x₂) : x.Closes C x₂ where
  task k t ht := (h'.task k t ht).elim (h.task k t) .inr
  record k set r hm := by
    rcases h'.record k set r hm with hm | ⟨t, ht, hr, hc⟩
    · exact h.record k set r hm
    · rcases h.task k t ht with ht | hr'
      · exact .inr ⟨t, ht, hr, hc⟩
      · cases hr.symm.trans hr'

lemma mono (h : x.Closes C x₁) (hcd : ∀ k t r, C k t r → D k t r) : x.Closes D x₁ where
  task := h.task
  record k set r hm :=
    (h.record k set r hm).imp_right fun ⟨t, ht, hr, hc⟩ => ⟨t, ht, hr, hcd k t r hc⟩

end Closes

abbrev Clears (now : Timestamp) : Exchange → Exchange → Prop :=
  Closes fun _ t => t.ClosedUnserviced now

lemma clears_reject (x : Exchange) (k : Nat) (now : Timestamp) {status : CallStatus}
    (hs : status ∈ [.overloaded, .duplication, .rejected]) (set : RecorderSet) :
    Clears now x (x.reject k now status set).1 := by
  rw [reject]
  cases ht : x.task? k with
  | none =>
    rw [turn_of_none ht]
    exact .refl _ x
  | some t =>
    rw [turn_of_some ht]
    constructor
    · intro j u hu
      rw [task?_set x _ _ _ (lt_length ht)] at hu
      split at hu
      · exact .inr (Option.some.inj hu ▸ t.recorded_reject now status set)
      · exact .inl hu
    · intro j s r hm
      rw [records_append, List.mem_append] at hm
      refine hm.imp_right fun hnew => ?_
      obtain ⟨⟨s', r'⟩, hrecord, he⟩ := List.mem_map.1 hnew
      obtain ⟨rfl, rfl, rfl⟩ : k = j ∧ s' = s ∧ r' = r := by simpa using he
      obtain ⟨hopen, hr⟩ := Task.reject_record hrecord
      exact ⟨t, ht, hopen, .inr ⟨status, hs, hr⟩⟩

lemma clears_release (x : Exchange) (k : Nat) (now : Timestamp) :
    Clears now x (x.release k now).1 := by
  have hspec := (release_spec x k now).2
  constructor
  · intro j t ht
    rw [(hspec j).1] at ht
    split at ht
    · cases ht
    · exact .inl ht
  · intro j s r hm
    rw [mem_records, (hspec j).2, List.mem_append] at hm
    refine hm.imp mem_records.2 fun hlast => ?_
    split at hlast
    · obtain rfl := ‹j = k›
      rw [lastWords] at hlast
      split at hlast
      · cases hlast
      · next t ht =>
        obtain ⟨hopen, hr⟩ := Task.drop_record (Log.mem_records.2 hlast)
        exact ⟨t, ht, hopen, .inl hr⟩
    · cases hlast

lemma clears_releaseAll (x : Exchange) (ks : List Nat) (now : Timestamp) :
    Clears now x (x.releaseAll ks now).1 := by
  induction ks generalizing x with
  | nil => exact .refl _ x
  | cons k ks ih => exact (clears_release x k now).trans (ih (x.release k now).1)

lemma clears_tearDown_go (q : CallQueue) (now : Timestamp) (x : Exchange) (es : List Entry) :
    Clears now x (CallQueue.tearDown.go q now x es).1 := by
  induction es generalizing x with
  | nil => exact .refl _ x
  | cons e es ih =>
    have hr : Clears now x (x.reject e.task now .rejected q.recorders).1 :=
      clears_reject x e.task now (by decide) q.recorders
    simp only [CallQueue.tearDown.go]
    generalize x.reject e.task now .rejected q.recorders = r at hr ⊢
    obtain ⟨y, crash⟩ := r
    cases crash with
    | none => exact hr.trans (ih y)
    | some c => exact hr

lemma clears_push (x : Exchange) (q : CallQueue) (now : Timestamp) (e : Entry) :
    Clears now x (q.push x now e).exchange := by
  have hp := q.push_ends x now e
  generalize q.push x now e = r at hp ⊢
  cases hp with
  | full | fullCrash => exact clears_reject x e.task now (by decide) q.recorders
  | new => exact .refl _ x
  | swap older | swapCrash older => exact clears_reject x older.task now (by decide) q.recorders

end Exchange

end Switchboard
