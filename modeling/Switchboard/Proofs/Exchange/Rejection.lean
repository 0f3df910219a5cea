import Switchboard.Proofs.Exchange.Journal

/-! Turning calls away. The record of such a call is handed out and its promise is settled with the
same status; the other calls notice nothing, also when a whole queue is torn down. -/

namespace Switchboard

namespace Task

variable {t : Task} {p : PromiseId} {set : RecorderSet}

def IsEnded (t : Task) : Prop := t.recorded = true ∧ t.promise = none

lemma promise_resolve (t : Task) (o : Outcome) : (t.resolve o).state.promise = none := by
  rw [resolve]
  split
  · assumption
  · rfl

lemma reject_isEnded (t : Task) (now : Timestamp) (status : CallStatus) (hc : set.Calm) :
    (t.reject now status set).state.IsEnded := by
  refine ⟨recorded_reject t now status set, ?_⟩
  obtain ⟨reply, hreply⟩ := reject_calm t now status hc
  rw [reject, Turn.andThen] at hreply ⊢
  split at hreply
  · cases hreply
  · exact promise_resolve _ _

lemma reject_of_isOpen (ht : t.IsOpen p) (hc : set.Calm) (now : Timestamp) (status : CallStatus) :
    ∃ t' r, t.reject now status set =
        ⟨t', [.recorded set r, .settled p (.ok (.unserviced status t.callId))], .ok (.ok ())⟩ ∧
      t'.IsEnded ∧ r.callId = t.callId ∧ r.status = status ∧ r.duration = .zero := by
  obtain ⟨hr, ⟨taken, hp⟩, hid⟩ := ht
  have hu : (t.closeUnserviced now status).recorded = false := by simp [closeUnserviced, hr]
  rw [reject, handOut_calm hu (hc _)]
  simp only [Turn.andThen, resolve, closeUnserviced, hr, hp, Bool.false_eq_true, if_false]
  exact ⟨_, _, rfl, ⟨rfl, rfl⟩, hid, rfl, rfl⟩

end Task

namespace Exchange

variable {x x' : Exchange} {e : Entry} {set : RecorderSet} {status : CallStatus} {k : Nat}

lemma reject_isEnded {t : Task} (x : Exchange) (k : Nat) (now : Timestamp) (status : CallStatus)
    (hc : set.Calm) (ht : (x.reject k now status set).1.task? k = some t) : t.IsEnded := by
  rw [reject] at ht
  cases htask : x.task? k with
  | none =>
    rw [turn_of_none htask] at ht
    cases htask.symm.trans ht
  | some t' =>
    rw [turn_of_some htask] at ht
    dsimp only at ht
    rw [task?_set x _ _ _ (lt_length htask), if_pos rfl] at ht
    exact Option.some.inj ht ▸ t'.reject_isEnded now status hc

structure Awaits (x : Exchange) (e : Entry) : Prop where
  task : ∃ t, x.task? e.task = some t ∧ t.IsOpen e.task ∧ t.callId = e.id
  silent : x.story e.task = []

structure TurnedAway (x : Exchange) (set : RecorderSet) (status : CallStatus) (e : Entry) :
    Prop where
  story : ∃ r, x.story e.task =
      [.recorded set r, .settled e.task (.ok (.unserviced status e.id))] ∧
    r.callId = e.id ∧ r.status = status ∧ r.duration = .zero
  ended : ∀ t, x.task? e.task = some t → t.IsEnded

lemma Awaits.of_same (h : x.Awaits e) (ht : x'.task? e.task = x.task? e.task)
    (hs : x'.story e.task = x.story e.task) : x'.Awaits e := by
  obtain ⟨t, htask, hopen⟩ := h.task
  exact ⟨⟨t, ht.trans htask, hopen⟩, hs.trans h.silent⟩

lemma TurnedAway.of_same (h : x.TurnedAway set status e)
    (ht : x'.task? e.task = x.task? e.task ∨ x'.task? e.task = none)
    (hs : x'.story e.task = x.story e.task) : x'.TurnedAway set status e := by
  refine ⟨hs ▸ h.story, ?_⟩
  intro t htask
  rcases ht with ht | ht
  · exact h.ended t (ht ▸ htask)
  · cases ht.symm.trans htask

structure Rejects (x x' : Exchange) (set : RecorderSet) (status : CallStatus) (es : List Entry) :
    Prop extends x.Keeps x' where
  known : ∀ e ∈ es, e.task < x.tasks.length
  others : ∀ k ∉ es.map Entry.task, x'.task? k = x.task? k ∧ x'.story k = x.story k
  turnedAway : ∀ e ∈ es, x'.TurnedAway set status e
  records : x'.records.map Prod.fst = x.records.map Prod.fst ++ es.map Entry.task

lemma Rejects.refl (x : Exchange) (set : RecorderSet) (status : CallStatus) :
    x.Rejects x set status [] where
  toKeeps := .refl x
  known _ h := absurd h List.not_mem_nil
  others _ _ := ⟨rfl, rfl⟩
  turnedAway _ h := absurd h List.not_mem_nil
  records := (List.append_nil _).symm

lemma Rejects.proper {es : List Entry} (h : x.Rejects x' set status es) (hp : x.Proper) :
    x'.Proper := by
  refine ⟨h.aligned hp.aligned, ?_⟩
  intro k event hm
  rw [← mem_story] at hm
  by_cases hk : k ∈ es.map Entry.task
  · obtain ⟨e, he, rfl⟩ := List.mem_map.1 hk
    obtain ⟨r, hs, -⟩ := (h.turnedAway e he).story
    rw [hs, List.mem_cons, List.mem_singleton] at hm
    rcases hm with rfl | rfl
    · trivial
    · exact rfl
  · rw [(h.others k hk).2, mem_story] at hm
    exact hp.own k event hm

lemma records_append (x : Exchange) (ts : List (Option Task)) (log es : Log) (n k : Nat) :
    (⟨ts, log, x.journal ++ es.map fun e => (k, e), n⟩ : Exchange).records =
      x.records ++ es.records.map fun (set, r) => (k, set, r) := by
  simp only [records, Log.records, List.filterMap_append, List.filterMap_map, List.map_filterMap]
  congr 1
  apply List.filterMap_congr
  intro event _
  cases event <;> rfl

lemma reject_of_awaits (h : x.Awaits e) (hc : set.Calm) (now : Timestamp) (status : CallStatus) :
    (x.reject e.task now status set).2 = none ∧
      x.Rejects (x.reject e.task now status set).1 set status [e] := by
  obtain ⟨t, ht, hopen, hid⟩ := h.task
  obtain ⟨t', r, he, hend, hr, hst, hd⟩ := Task.reject_of_isOpen hopen hc now status
  have hk := lt_length ht
  rw [reject, turn_of_some ht, he]
  refine ⟨rfl, ⟨List.length_set .., rfl, fun h => aligned_append h _ _ _ _⟩, ?_, ?_, ?_, ?_⟩
  · intro d hd
    obtain rfl := List.mem_singleton.1 hd
    exact hk
  · intro k hne
    rw [task?_set x _ _ _ hk, story_append]
    have hne : k ≠ e.task := by simpa using hne
    simp [hne]
  · intro d hd'
    obtain rfl := List.mem_singleton.1 hd'
    refine ⟨⟨r, ?_, hr.trans hid, hst, hd⟩, ?_⟩
    · rw [story_append, if_pos rfl, h.silent, hid]
      rfl
    · intro u hu
      rw [task?_set x _ _ _ hk, if_pos rfl] at hu
      exact Option.some.inj hu ▸ hend
  · rw [records_append]
    simp [Log.records]

lemma rejects_tearDown_go {q : CallQueue} (hc : q.recorders.Calm) (now : Timestamp)
    {es : List Entry} (x : Exchange) (hn : (es.map Entry.task).Nodup)
    (ha : ∀ e ∈ es, x.Awaits e) :
    (CallQueue.tearDown.go q now x es).2 = none ∧
      x.Rejects (CallQueue.tearDown.go q now x es).1 q.recorders .rejected es := by
  induction es generalizing x with
  | nil => exact ⟨rfl, .refl x q.recorders .rejected⟩
  | cons e es ih =>
    obtain ⟨he, hes⟩ := List.nodup_cons.1 hn
    obtain ⟨hcalm, hr⟩ := reject_of_awaits (ha e (List.mem_cons_self ..)) hc now .rejected
    simp only [CallQueue.tearDown.go]
    generalize x.reject e.task now .rejected q.recorders = r at hcalm hr ⊢
    obtain ⟨y, crash⟩ := r
    obtain rfl : crash = none := hcalm
    -- Those that are still to be turned away noticed nothing so far.
    have hay : ∀ d ∈ es, y.Awaits d := by
      intro d hd
      have hde : d.task ∉ [e].map Entry.task := by
        intro hm
        obtain hm : d.task = e.task := by simpa using hm
        exact he (hm ▸ List.mem_map_of_mem hd)
      obtain ⟨ht, hs⟩ := hr.others d.task hde
      exact (ha d (List.mem_cons_of_mem _ hd)).of_same ht hs
    obtain ⟨hcalm', hr'⟩ := ih y hes hay
    refine ⟨hcalm', hr.toKeeps.trans hr'.toKeeps, ?_, ?_, ?_, ?_⟩
    · intro d hd
      rcases List.mem_cons.1 hd with rfl | hd
      · exact hr.known d (List.mem_singleton.2 rfl)
      · exact hr.length ▸ hr'.known d hd
    · intro k hk
      rw [List.map_cons, List.mem_cons, not_or] at hk
      obtain ⟨ht, hs⟩ := hr.others k (by simpa using hk.1)
      obtain ⟨ht', hs'⟩ := hr'.others k hk.2
      exact ⟨ht'.trans ht, hs'.trans hs⟩
    · intro d hd
      rcases List.mem_cons.1 hd with rfl | hd
      · obtain ⟨ht, hs⟩ := hr'.others d.task he
        exact (hr.turnedAway d (List.mem_singleton.2 rfl)).of_same (.inl ht) hs
      · exact hr'.turnedAway d hd
    · rw [hr'.records, hr.records]
      simp

lemma rejects_tearDown {q : CallQueue} (hc : q.recorders.Calm) (now : Timestamp) (x : Exchange)
    (hn : (q.waiting.map Entry.task).Nodup) (ha : ∀ e ∈ q.waiting, x.Awaits e) :
    (q.tearDown x now).2 = none ∧ x.Rejects (q.tearDown x now).1 q.recorders .rejected q.waiting :=
  rejects_tearDown_go hc now x hn ha

def partWith (x : Exchange) (kept : Bool) (ks : List Nat) (now : Timestamp) : Exchange :=
  if kept then x else (x.releaseAll ks now).1

lemma releaseAll_of_ended {ks : List Nat} (x : Exchange)
    (h : ∀ k ∈ ks, ∀ t, x.task? k = some t → t.IsEnded) (now : Timestamp) :
    (x.releaseAll ks now).1.journal = x.journal ∧ (x.releaseAll ks now).2 = none := by
  induction ks generalizing x with
  | nil => exact ⟨rfl, rfl⟩
  | cons k ks ih =>
    have hk := release_of_ended (h k (List.mem_cons_self ..)) now
    have hs := (release_spec x k now).2
    have hrest : ∀ j ∈ ks, ∀ t, (x.release k now).1.task? j = some t → t.IsEnded := by
      intro j hj t ht
      rw [(hs j).1] at ht
      split at ht
      · cases ht
      · exact h j (List.mem_cons_of_mem _ hj) t ht
    obtain ⟨hj, hcalm⟩ := ih (x.release k now).1 hrest
    simp only [releaseAll, hcalm]
    exact ⟨hj.trans (by rw [hk]), by rw [hk]; rfl⟩

lemma Rejects.partWith {es : List Entry} (h : x.Rejects x' set status es) (kept : Bool)
    (now : Timestamp) : x.Rejects (x'.partWith kept (es.map Entry.task) now) set status es := by
  cases kept with
  | true => exact h
  | false =>
    have hended : ∀ k ∈ es.map Entry.task, ∀ t, x'.task? k = some t → t.IsEnded := by
      intro k hk
      obtain ⟨e, he, rfl⟩ := List.mem_map.1 hk
      exact (h.turnedAway e he).ended
    obtain ⟨hkeeps, htasks⟩ := releaseAll_spec x' (es.map Entry.task) now
    obtain ⟨hj, -⟩ := releaseAll_of_ended x' hended now
    have hs (k : Nat) : (x'.releaseAll (es.map Entry.task) now).1.story k = x'.story k := by
      rw [story, hj, story]
    refine ⟨h.toKeeps.trans hkeeps, h.known, ?_, ?_, ?_⟩
    · intro k hk
      obtain ⟨ht, hstory⟩ := h.others k hk
      exact ⟨((htasks k).1.trans (if_neg hk)).trans ht, (hs k).trans hstory⟩
    · intro e he
      have hgone := (htasks e.task).1.trans (if_pos (List.mem_map_of_mem he))
      exact (h.turnedAway e he).of_same (.inr hgone) (hs e.task)
    · have hr : (x'.releaseAll (es.map Entry.task) now).1.records = x'.records := by
        rw [Exchange.records, hj, Exchange.records]
      exact (congrArg _ hr).trans h.records

end Exchange

end Switchboard
