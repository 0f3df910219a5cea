import Switchboard.Proofs.Exchange.Rejection
import Switchboard.Proofs.Queue.Push

namespace Switchboard

namespace Task

lemma records_resolve (t : Task) (o : Outcome) : (t.resolve o).events.records = [] := by
  rw [resolve]
  split <;> rfl

lemma records_reject (t : Task) (now : Timestamp) (status : CallStatus) (set : RecorderSet) :
    (t.reject now status set).events.records =
      if t.recorded then [] else [(set, t.record.finishUnserviced now status)] := by
  rw [reject, Turn.andThen]
  cases hr : t.recorded with
  | true =>
    have hclosed : t.closeUnserviced now status = t := by simp [closeUnserviced, hr]
    rw [hclosed, handOut_of_recorded hr]
    exact records_resolve t _
  | false =>
    have hu : (t.closeUnserviced now status).recorded = false := by simp [closeUnserviced, hr]
    have hrecord : (t.closeUnserviced now status).record =
        t.record.finishUnserviced now status := by simp [closeUnserviced, hr]
    rw [← hrecord]
    cases hc : set.crash? (t.closeUnserviced now status).record with
    | none =>
      rw [handOut_calm hu hc]
      simp only [Log.records, List.cons_append, List.nil_append, List.filterMap_cons]
      exact congrArg _ (records_resolve _ _)
    | some c =>
      rw [handOut_crash hu hc]
      rfl

end Task

namespace Exchange

structure Tells (x x' : Exchange) (set : RecorderSet) (status : CallStatus) (ks : List Nat) :
    Prop where
  others : ∀ k ∉ ks, x'.task? k = x.task? k
  records : ∃ rs : List (Nat × CallRecord),
    x'.records = x.records ++ rs.map (fun (k, r) => (k, set, r)) ∧
      (∀ k r, (k, r) ∈ rs → k ∈ ks ∧ r.status = status) ∧
      ∀ k ∈ ks, ∀ t, x.task? k = some t → t.recorded = false → ∃ r, (k, r) ∈ rs

variable {x x₁ x₂ : Exchange} {set : RecorderSet} {status : CallStatus} {ks ks₁ ks₂ : List Nat}

lemma Tells.refl (x : Exchange) (set : RecorderSet) (status : CallStatus) :
    x.Tells x set status [] where
  others _ _ := rfl
  records := ⟨[], (List.append_nil _).symm, by simp, by simp⟩

lemma Tells.append (h : x.Tells x₁ set status ks₁) (h' : x₁.Tells x₂ set status ks₂) :
    x.Tells x₂ set status (ks₁ ++ ks₂) where
  others k hk := by
    obtain ⟨hk₁, hk₂⟩ := not_or.1 fun hm => hk (List.mem_append.2 hm)
    exact (h'.others k hk₂).trans (h.others k hk₁)
  records := by
    obtain ⟨rs, hrs, hall, htold⟩ := h.records
    obtain ⟨rs', hrs', hall', htold'⟩ := h'.records
    refine ⟨rs ++ rs', by rw [hrs', hrs, List.map_append, List.append_assoc], ?_, ?_⟩
    · intro k r hm
      rcases List.mem_append.1 hm with hm | hm
      · exact ⟨List.mem_append_left _ (hall k r hm).1, (hall k r hm).2⟩
      · exact ⟨List.mem_append_right _ (hall' k r hm).1, (hall' k r hm).2⟩
    · intro k hk t ht hr
      by_cases hk₁ : k ∈ ks₁
      · obtain ⟨r, hm⟩ := htold k hk₁ t ht hr
        exact ⟨r, List.mem_append_left _ hm⟩
      · have hk₂ := (List.mem_append.1 hk).resolve_left hk₁
        obtain ⟨r, hm⟩ := htold' k hk₂ t ((h.others k hk₁).trans ht) hr
        exact ⟨r, List.mem_append_right _ hm⟩

lemma tells_reject (x : Exchange) (k : Nat) (now : Timestamp) (status : CallStatus)
    (set : RecorderSet) : x.Tells (x.reject k now status set).1 set status [k] where
  others j hj := ((handles_reject x k now status set).others j hj).1
  records := by
    rw [reject]
    cases ht : x.task? k with
    | none =>
      rw [turn_of_none ht]
      refine ⟨[], (List.append_nil _).symm, by simp, ?_⟩
      intro j hj t hjt
      obtain rfl := List.mem_singleton.1 hj
      cases ht.symm.trans hjt
    | some t =>
      rw [turn_of_some ht]
      dsimp only
      rw [records_append, Task.records_reject]
      cases hr : t.recorded with
      | true =>
        refine ⟨[], rfl, by simp, ?_⟩
        intro j hj t' hjt hu
        obtain rfl := List.mem_singleton.1 hj
        obtain rfl := Option.some.inj (ht.symm.trans hjt)
        cases hr.symm.trans hu
      | false =>
        refine ⟨[(k, t.record.finishUnserviced now status)], rfl, ?_, ?_⟩
        · intro j r hm
          obtain ⟨rfl, rfl⟩ := Prod.mk.inj (List.mem_singleton.1 hm)
          exact ⟨List.mem_singleton_self _, rfl⟩
        · intro j hj t' _ _
          obtain rfl := List.mem_singleton.1 hj
          exact ⟨_, List.mem_singleton_self _⟩

end Exchange

namespace CallQueue

structure WritesTo (q : CallQueue) (set : RecorderSet) : Prop where
  overloaded : ∀ (x : Exchange) now e, q.isFull = true →
    x.Tells (q.push x now e).exchange set .overloaded [e.task]
  duplication : ∀ (x : Exchange) now e, q.isFull = false →
    x.Tells (q.push x now e).exchange set .duplication ((q.find? e.number).toList.map Entry.task)
  rejected : ∀ (x : Exchange) now, ∃ told, told <+: q.waiting ∧
    ((q.tearDown x now).2 = none → told = q.waiting) ∧
      x.Tells (q.tearDown x now).1 set .rejected (told.map Entry.task)

lemma tells_tearDown (q : CallQueue) (now : Timestamp) (x : Exchange) (es : List Entry) :
    ∃ told, told <+: es ∧ ((tearDown.go q now x es).2 = none → told = es) ∧
      x.Tells (tearDown.go q now x es).1 q.recorders .rejected (told.map Entry.task) := by
  induction es generalizing x with
  | nil => exact ⟨[], List.prefix_refl [], fun _ => rfl, .refl x q.recorders .rejected⟩
  | cons e es ih =>
    have hr := x.tells_reject e.task now .rejected q.recorders
    simp only [tearDown.go]
    generalize x.reject e.task now .rejected q.recorders = r at hr ⊢
    obtain ⟨y, crash⟩ := r
    cases crash with
    | none =>
      obtain ⟨told, hprefix, hall, htells⟩ := ih y
      refine ⟨e :: told, List.cons_prefix_cons.2 ⟨rfl, hprefix⟩, ?_, hr.append htells⟩
      exact fun hcalm => by rw [hall hcalm]
    | some c => exact ⟨[e], by simp, by simp, hr⟩

theorem writesTo_recorders (q : CallQueue) : q.WritesTo q.recorders where
  overloaded x now e hfull := by
    have hp := q.push_ends x now e
    generalize q.push x now e = entering at hp ⊢
    cases hp with
    | full | fullCrash => exact x.tells_reject e.task now .overloaded q.recorders
    | new notFull | swap _ notFull | swapCrash _ _ notFull => cases hfull.symm.trans notFull
  duplication x now e hopen := by
    have hp := q.push_ends x now e
    generalize q.push x now e = entering at hp ⊢
    cases hp with
    | full isFull | fullCrash _ isFull => cases hopen.symm.trans isFull
    | new _ isNew =>
      rw [find?_of_isNew isNew]
      exact .refl x q.recorders .duplication
    | swap older _ isOlder | swapCrash older _ _ isOlder =>
      rw [isOlder]
      exact x.tells_reject older.task now .duplication q.recorders
  rejected x now := q.tells_tearDown now x q.waiting

end CallQueue

end Switchboard
