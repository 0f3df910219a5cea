import Switchboard.Proofs.Floor.Leading

/-! Exchanges that differ in their moments only. A clock says which moments are told apart; what the
calls of an exchange do depends on moments no further than the recorders do. -/

namespace Switchboard

def CallRecord.seen (clock : Timestamp → Timestamp) (r : CallRecord) : CallRecord :=
  { r with start := clock r.start, ended := r.ended.map clock, pickedUp := r.pickedUp.map clock }

def Event.seen (clock : Timestamp → Timestamp) : Event → Event
  | .recorded set r => .recorded set (r.seen clock)
  | e => e

def Task.seen (clock : Timestamp → Timestamp) (t : Task) : Task :=
  { t with record := t.record.seen clock }

def Turn.seen (clock : Timestamp → Timestamp) {α : Type} (r : Turn Task α) : Turn Task α :=
  ⟨r.state.seen clock, r.events.map (Event.seen clock), r.reply⟩

def Exchange.seen (clock : Timestamp → Timestamp) (x : Exchange) : Exchange where
  tasks := x.tasks.map (Option.map (Task.seen clock))
  log := x.log.map (Event.seen clock)
  journal := x.journal.map fun (k, e) => (k, e.seen clock)
  promises := x.promises

/-- Whether a recorder crashes does not depend on moments that the clock does not tell apart. -/
def RecorderSet.Blind (clock : Timestamp → Timestamp) (s : RecorderSet) : Prop :=
  ∀ r r' : CallRecord, r.seen clock = r'.seen clock → s.crash? r = s.crash? r'

variable {clock : Timestamp → Timestamp} {now now' : Timestamp} {set : RecorderSet}

namespace Turn

variable {α β : Type} {r r' : Turn Task α}

lemma seen_ext (hs : r.state.seen clock = r'.state.seen clock)
    (he : r.events.map (Event.seen clock) = r'.events.map (Event.seen clock))
    (hr : r.reply = r'.reply) : r.seen clock = r'.seen clock := by
  rw [seen, seen, hs, he, hr]

lemma seen_andThen {f f' : Task → α → Turn Task β} (h : r.seen clock = r'.seen clock)
    (hf : ∀ t t' a, t.seen clock = t'.seen clock → (f t a).seen clock = (f' t' a).seen clock) :
    (r.andThen f).seen clock = (r'.andThen f').seen clock := by
  obtain ⟨hs, he, hr⟩ := Turn.mk.inj h
  rw [andThen, andThen, ← hr]
  cases r.reply with
  | error c => exact seen_ext hs he rfl
  | ok a =>
    obtain ⟨hs', he', hr'⟩ := Turn.mk.inj (hf r.state r'.state a hs)
    exact seen_ext hs' (by rw [List.map_append, List.map_append, he, he']) hr'

end Turn

namespace Task

variable {t t' : Task}

def Discreet (clock : Timestamp → Timestamp) (t : Task) : Prop :=
  t.recorded = true ∨ ∀ set, t.bound = some set → set.Blind clock

lemma same_of_seen (h : t.seen clock = t'.seen clock) :
    t.callId = t'.callId ∧ t.promise = t'.promise ∧ t.recorded = t'.recorded ∧
      t.bound = t'.bound ∧ t.record.seen clock = t'.record.seen clock := by
  obtain ⟨-, -, hid, hrecord, hpromise, -, -, hrecorded, hbound⟩ := Task.mk.inj h
  exact ⟨hid, hpromise, hrecorded, hbound, hrecord⟩

lemma seen_closeUnserviced (t : Task) (now : Timestamp) (status : CallStatus) :
    (t.closeUnserviced now status).seen clock =
      (t.seen clock).closeUnserviced (clock now) status := by
  rw [closeUnserviced, closeUnserviced]
  show _ = if t.recorded = true then _ else _
  split <;> rfl

lemma seen_finishFailed (r : CallRecord) (now : Timestamp) :
    (r.finishFailed now).seen clock = (r.seen clock).finishFailed (clock now) := by
  obtain ⟨start, ended, callId, status, pickedUp, operatorId, duration, number⟩ := r
  cases pickedUp <;> rfl

lemma seen_closeFailed (t : Task) (now : Timestamp) :
    (t.closeFailed now).seen clock = (t.seen clock).closeFailed (clock now) := by
  rw [closeFailed, closeFailed]
  show _ = if t.recorded = true then _ else _
  split
  · rfl
  · exact congrArg (fun r : CallRecord => { t with record := r }) (seen_finishFailed t.record now)

lemma seen_resolve (t : Task) (o : Outcome) :
    (t.resolve o).seen clock = (t.seen clock).resolve o := by
  obtain ⟨bounds, number, callId, record, promise, replaced, hasId, recorded, bound⟩ := t
  cases promise <;> rfl

lemma seen_handOut (hs : set.Blind clock) (h : t.seen clock = t'.seen clock) :
    (t.handOut set).seen clock = (t'.handOut set).seen clock := by
  obtain ⟨-, -, hr, -, hrecord⟩ := same_of_seen h
  rw [handOut, handOut, ← hr, ← hs t.record t'.record hrecord]
  split
  · exact Turn.seen_ext h rfl rfl
  · refine Turn.seen_ext ?_ ?_ rfl
    · exact congrArg (fun t : Task => { t with recorded := true }) h
    · exact congrArg (fun r => [Event.recorded set r]) hrecord

lemma seen_reject (hs : set.Blind clock) (hn : clock now = clock now') (status : CallStatus)
    (h : t.seen clock = t'.seen clock) :
    (t.reject now status set).seen clock = (t'.reject now' status set).seen clock := by
  have hclosed : (t.closeUnserviced now status).seen clock =
      (t'.closeUnserviced now' status).seen clock := by
    rw [seen_closeUnserviced, seen_closeUnserviced, h, hn]
  refine Turn.seen_andThen (seen_handOut hs hclosed) ?_
  intro u u' _ hu
  rw [seen_resolve, seen_resolve, hu, (same_of_seen hu).1]

lemma seen_recordFailure (hs : set.Blind clock) (hn : clock now = clock now')
    (h : t.seen clock = t'.seen clock) :
    (t.recordFailure now set).seen clock = (t'.recordFailure now' set).seen clock := by
  have hclosed : (t.closeFailed now).seen clock = (t'.closeFailed now').seen clock := by
    rw [seen_closeFailed, seen_closeFailed, h, hn]
  exact seen_handOut hs hclosed

lemma seen_execute (hs : set.Blind clock) (hn : clock now = clock now') (t : Task)
    (pickedUp : Timestamp) (draw : Nat) :
    (t.execute pickedUp now draw set).seen clock =
      (t.execute pickedUp now' draw set).seen clock := by
  rw [execute, execute]
  cases t.answer pickedUp draw with
  | error c => rfl
  | ok answer =>
    cases answer with
    | ok answer =>
      obtain ⟨status, hold⟩ := answer
      let u := t.notePickup pickedUp status hold
      have hended : (u.noteEnd now).seen clock = (u.noteEnd now').seen clock :=
        congrArg (fun m => { u.seen clock with
          record := { u.record.seen clock with ended := some m } }) hn
      refine Turn.seen_andThen (seen_handOut hs hended) ?_
      intro u u' _ hu
      exact Turn.seen_ext hu rfl (by rw [Turn.pure, Turn.pure, (same_of_seen hu).1])
    | error e =>
      refine Turn.seen_andThen (seen_recordFailure hs hn rfl) ?_
      intro u u' _ hu
      refine Turn.seen_andThen ?_ ?_
      · rw [seen_resolve, seen_resolve, hu]
      · intro v v' _ hv
        exact Turn.seen_ext hv rfl rfl

lemma seen_service (hs : set.Blind clock) (hn : clock now = clock now') (t : Task)
    (operator : UInt64) (id : CallId) (since : Timestamp) (draw : Nat) :
    (t.service operator id since now draw set).seen clock =
      (t.service operator id since now' draw set).seen clock := by
  have hx := seen_execute hs hn (t.assignOperator operator) since draw
  rw [service, service]
  generalize (t.assignOperator operator).execute since now draw set = run at hx ⊢
  generalize (t.assignOperator operator).execute since now' draw set = run' at hx ⊢
  obtain ⟨hstate, hevents, hreply⟩ := Turn.mk.inj hx
  have settles (u u' : Task) (o : Outcome) (hu : u.seen clock = u'.seen clock) :
      (u.resolve o).seen clock = (u'.resolve o).seen clock := by
    rw [seen_resolve, seen_resolve, hu]
  dsimp only
  rw [← hreply]
  split
  · obtain ⟨hs', he', -⟩ := Turn.mk.inj (settles _ _ (.ok _) hstate)
    exact Turn.seen_ext hs' (by rw [List.map_append, List.map_append, hevents, he']) rfl
  · exact Turn.seen_ext hstate hevents rfl
  · rename_i c _
    obtain ⟨hw, hwe, -⟩ := Turn.mk.inj (seen_recordFailure hs hn hstate)
    obtain ⟨hs', he', -⟩ := Turn.mk.inj (settles _ _ (.error (.taskFailed id c.reason)) hw)
    refine Turn.seen_ext hs' ?_ rfl
    simp only [List.map_append, hevents, hwe, he']

lemma seen_lastRecord (hd : t.Discreet clock) (hn : clock now = clock now')
    (h : t.seen clock = t'.seen clock) :
    (t.lastRecord now).seen clock = (t'.lastRecord now').seen clock := by
  obtain ⟨-, -, hrecorded, hbound, -⟩ := same_of_seen h
  unfold lastRecord
  rw [← hbound]
  cases hb : t.bound with
  | none => exact Turn.seen_ext h rfl rfl
  | some set =>
    rcases hd with hr | hs
    · dsimp only
      rw [recordFailure_of_recorded hr, recordFailure_of_recorded (hrecorded.symm.trans hr)]
      exact Turn.seen_ext h rfl rfl
    · exact seen_recordFailure (hs set hb) hn h

lemma seen_drop (hd : t.Discreet clock) (hn : clock now = clock now')
    (h : t.seen clock = t'.seen clock) :
    (t.drop now).seen clock = (t'.drop now').seen clock := by
  have hlast := seen_lastRecord hd hn h
  rw [drop_eq, drop_eq, ← (same_of_seen h).1]
  generalize t.lastRecord now = last at hlast ⊢
  generalize t'.lastRecord now' = last' at hlast ⊢
  obtain ⟨hstate, hevents, hreply⟩ := Turn.mk.inj hlast
  rw [← hreply, ← (same_of_seen hstate).2.1]
  split
  · refine Turn.seen_ext ?_ ?_ rfl
    · exact congrArg (fun t : Task => { t with promise := none }) hstate
    · rw [List.map_append, List.map_append, hevents]
  · exact Turn.seen_ext hstate (by rw [List.map_append, List.map_append, hevents]) hreply
  · exact hlast

end Task

namespace Exchange

variable {x x' : Exchange} {k : Nat}

def Discreet (clock : Timestamp → Timestamp) (x : Exchange) (k : Nat) : Prop :=
  ∀ t, x.task? k = some t → t.Discreet clock

lemma task?_seen (x : Exchange) (k : Nat) :
    (x.seen clock).task? k = (x.task? k).map (Task.seen clock) := by
  rw [task?, task?, seen, List.getElem?_map]
  cases x.tasks[k]? <;> rfl

lemma same_length (h : x.seen clock = x'.seen clock) : x.tasks.length = x'.tasks.length := by
  have hl := congrArg (fun x : Exchange => x.tasks.length) h
  simpa [seen] using hl

lemma same_task? (h : x.seen clock = x'.seen clock) (k : Nat) :
    (x.task? k).map (Task.seen clock) = (x'.task? k).map (Task.seen clock) := by
  rw [← task?_seen, ← task?_seen, h]

lemma seen_set (x : Exchange) (k : Nat) (a : Option Task) (es : Log) :
    (⟨x.tasks.set k a, x.log ++ es, x.journal ++ es.map fun e => (k, e), x.promises⟩ :
        Exchange).seen clock =
      ⟨(x.seen clock).tasks.set k (a.map (Task.seen clock)),
        (x.seen clock).log ++ es.map (Event.seen clock),
        (x.seen clock).journal ++ (es.map (Event.seen clock)).map fun e => (k, e), x.promises⟩ := by
  simp [seen, List.map_set, Function.comp_def]

lemma seen_turn {α : Type} (f f' : Task → Turn Task α) (h : x.seen clock = x'.seen clock)
    (hf : ∀ t t', x.task? k = some t → x'.task? k = some t' → t.seen clock = t'.seen clock →
      (f t).seen clock = (f' t').seen clock) :
    (x.turn k f).1.seen clock = (x'.turn k f').1.seen clock ∧
      (x.turn k f).2 = (x'.turn k f').2 := by
  have hk := same_task? h k
  cases ht : x.task? k with
  | none =>
    have ht' : x'.task? k = none := by
      rw [ht] at hk
      exact Option.map_eq_none_iff.1 hk.symm
    rw [turn_of_none ht, turn_of_none ht']
    exact ⟨h, rfl⟩
  | some t =>
    rw [ht] at hk
    obtain ⟨t', ht', hseen⟩ := Option.map_eq_some_iff.1 hk.symm
    obtain ⟨hs, he, hr⟩ := Turn.mk.inj (hf t t' ht ht' hseen.symm)
    have hpromises : x.promises = x'.promises := (Exchange.mk.inj h).2.2.2
    rw [turn_of_some ht, turn_of_some ht', hr, seen_set, seen_set, h, he, hpromises,
      Option.map_some, Option.map_some, hs]
    exact ⟨rfl, rfl⟩

lemma seen_reject (hs : set.Blind clock) (hn : clock now = clock now') (status : CallStatus)
    (h : x.seen clock = x'.seen clock) :
    (x.reject k now status set).1.seen clock = (x'.reject k now' status set).1.seen clock ∧
      (x.reject k now status set).2 = (x'.reject k now' status set).2 := by
  obtain ⟨hx, hr⟩ := seen_turn (k := k) (·.reject now status set) (·.reject now' status set) h
    fun t t' _ _ ht => Task.seen_reject hs hn status ht
  exact ⟨hx, congrArg crashOf hr⟩

lemma seen_release (hd : x.Discreet clock k) (hn : clock now = clock now')
    (h : x.seen clock = x'.seen clock) :
    (x.release k now).1.seen clock = (x'.release k now').1.seen clock ∧
      (x.release k now).2 = (x'.release k now').2 := by
  obtain ⟨hx, hr⟩ := seen_turn (k := k) (·.drop now) (·.drop now') h
    fun t t' ht _ hseen => Task.seen_drop (hd t ht) hn hseen
  refine ⟨?_, congrArg crashOf hr⟩
  have hgone (y : Exchange) : ({ y with tasks := y.tasks.set k none } : Exchange).seen clock =
      { y.seen clock with tasks := (y.seen clock).tasks.set k none } := by
    simp [seen, List.map_set]
  exact (hgone _).trans ((congrArg (fun y : Exchange =>
    { y with tasks := y.tasks.set k none }) hx).trans (hgone _).symm)

lemma Discreet.release {j : Nat} (hd : x.Discreet clock j) (k : Nat) (now : Timestamp) :
    (x.release k now).1.Discreet clock j := by
  intro t ht
  rw [((release_spec x k now).2 j).1] at ht
  split at ht
  · cases ht
  · exact hd t ht

lemma seen_releaseAll {ks : List Nat} (hd : ∀ k ∈ ks, x.Discreet clock k)
    (hn : clock now = clock now') (h : x.seen clock = x'.seen clock) :
    (x.releaseAll ks now).1.seen clock = (x'.releaseAll ks now').1.seen clock ∧
      (x.releaseAll ks now).2 = (x'.releaseAll ks now').2 := by
  induction ks generalizing x x' with
  | nil => exact ⟨h, rfl⟩
  | cons k ks ih =>
    obtain ⟨hx, hr⟩ := seen_release (hd k (List.mem_cons_self ..)) hn h
    obtain ⟨hx', hr'⟩ := ih (fun j hj => (hd j (List.mem_cons_of_mem _ hj)).release k now) hx
    refine ⟨hx', ?_⟩
    rw [releaseAll, releaseAll]
    exact congrArg₂ Option.or hr hr'

lemma discreet_turn {α : Type} {f : Task → Turn Task α} (hf : ∀ t, (f t).state.recorded = true)
    {j : Nat} (hj : j = k ∨ x.Discreet clock j) : (x.turn k f).1.Discreet clock j := by
  intro t ht
  cases hk : x.task? k with
  | none =>
    rw [turn_of_none hk] at ht
    rcases hj with rfl | hj
    · cases hk.symm.trans ht
    · exact hj t ht
  | some u =>
    rw [turn_of_some hk] at ht
    have ht := (task?_set x _ _ _ (lt_length hk) _ j).symm.trans ht
    split at ht
    · obtain rfl := Option.some.inj ht
      exact .inl (hf u)
    · exact (hj.resolve_left ‹_›) t ht

lemma seen_welcome {t t' : Task} (h : x.seen clock = x'.seen clock)
    (ht : t.seen clock = t'.seen clock) :
    (x.welcome t).seen clock = (x'.welcome t').seen clock := by
  obtain ⟨htasks, hlog, hjournal, hpromises⟩ := Exchange.mk.inj h
  have hpromises : x.promises = x'.promises := hpromises
  simp only [seen, welcome, List.map_append, List.map_cons, List.map_nil, Option.map_some, ht,
    htasks, hlog, hjournal, hpromises]

end Exchange

section Deeds

variable {x x' : Exchange}

lemma CallQueue.seen_push (queue : CallQueue) {e : Entry} (hs : queue.recorders.Blind clock)
    (hd : x.Discreet clock e.task) (hn : clock now = clock now')
    (h : x.seen clock = x'.seen clock) :
    let r := queue.push x now e
    let r' := queue.push x' now' e
    (r.queue = r'.queue ∧ r.left = r'.left ∧ r.reply = r'.reply) ∧
      r.exchange.seen clock = r'.exchange.seen clock ∧
      ∀ k ∈ r.left, r.exchange.Discreet clock k := by
  have discreet (k : Nat) (status : CallStatus) {j : Nat} (hj : j = k ∨ x.Discreet clock j) :
      (x.reject k now status queue.recorders).1.Discreet clock j :=
    Exchange.discreet_turn (fun t => t.recorded_reject now status queue.recorders) hj
  cases hq : queue.isFull with
  | true =>
    obtain ⟨hx, hc⟩ := Exchange.seen_reject (k := e.task) hs hn .overloaded h
    simp only [push, hq, if_true, hc]
    refine ⟨⟨trivial, trivial, trivial⟩, hx, ?_⟩
    intro k hk
    exact discreet _ _ (.inl (List.mem_singleton.1 hk))
  | false =>
    cases hf : queue.find? e.number with
    | none =>
      simp only [push, hq, hf, Bool.false_eq_true, if_false]
      exact ⟨⟨trivial, trivial, trivial⟩, h, fun k hk => absurd hk List.not_mem_nil⟩
    | some older =>
      obtain ⟨hx, hc⟩ := Exchange.seen_reject (k := older.task) hs hn .duplication h
      cases hcrash : (x'.reject older.task now' .duplication queue.recorders).2 with
      | none =>
        simp only [push, hq, hf, Bool.false_eq_true, if_false, hc, hcrash]
        refine ⟨⟨trivial, trivial, trivial⟩, hx, ?_⟩
        intro k hk
        exact discreet _ _ (.inl (List.mem_singleton.1 hk))
      | some c =>
        simp only [push, hq, hf, Bool.false_eq_true, if_false, hc, hcrash]
        refine ⟨⟨trivial, trivial, trivial⟩, hx, ?_⟩
        intro k hk
        rcases List.mem_cons.1 hk with rfl | hk
        · exact discreet _ _ (.inl rfl)
        · obtain rfl := List.mem_singleton.1 hk
          exact discreet _ _ (.inr hd)

lemma Floor.seen_receive (queue : CallQueue) (id : CallId) (bounds : ServiceBounds)
    (number : String) (hs : queue.recorders.Blind clock) (hn : clock now = clock now')
    (h : x.seen clock = x'.seen clock) :
    let r := receive x queue id bounds number now
    let r' := receive x' queue id bounds number now'
    (r.queue = r'.queue ∧ r.reply = r'.reply) ∧
      (r.exchange.releaseAll r.left now).1.seen clock =
        (r'.exchange.releaseAll r'.left now').1.seen clock ∧
      (r.exchange.releaseAll r.left now).2 = (r'.exchange.releaseAll r'.left now').2 := by
  intro r r'
  have hpromises : x.promises = x'.promises := (Exchange.mk.inj h).2.2.2
  have hlength := Exchange.same_length h
  let t (x : Exchange) (now : Timestamp) : Task :=
    (Task.newcomer x.promises bounds number now false).admitted x.promises id queue.recorders
  have ht : (t x now).seen clock = (t x' now').seen clock := by
    simp only [t, hpromises]
    exact congrArg (fun m => { (t x' now').seen clock with
      record := { ((t x' now').record.seen clock) with start := m } }) hn
  have hd : (x.welcome (t x now)).Discreet clock x.tasks.length := by
    intro u hu
    rw [Exchange.task?_welcome, if_pos rfl] at hu
    obtain rfl := Option.some.inj hu
    refine .inr ?_
    intro set hset
    obtain rfl := Option.some.inj hset
    exact hs
  obtain ⟨⟨hqueue, hleft, hreply⟩, hx, hdiscreet⟩ := queue.seen_push
    (e := ⟨x.tasks.length, id, number⟩) hs hd hn (Exchange.seen_welcome h ht)
  have hr' : r' = queue.push (x'.welcome (t x' now')) now' ⟨x.tasks.length, id, number⟩ := by
    rw [hlength]
    rfl
  obtain ⟨hx', hcrash⟩ := Exchange.seen_releaseAll hdiscreet hn hx
  rw [hr', ← hleft]
  exact ⟨⟨hqueue, hreply⟩, hx', hcrash⟩

lemma Floor.seen_hangUp (id : UInt64) (e : Entry) (since : Timestamp) (draw : Nat)
    (hs : set.Blind clock) (hn : clock now = clock now') (h : x.seen clock = x'.seen clock)
    (ht : x.task? e.task = x'.task? e.task) :
    (hangUp x id e set since now draw).seen clock =
      (hangUp x' id e set since now' draw).seen clock := by
  have hserved : ∀ t t', x.task? e.task = some t → x'.task? e.task = some t' →
      t.seen clock = t'.seen clock →
      (t.service id e.id since now draw set).seen clock =
        (t'.service id e.id since now' draw set).seen clock := by
    intro t t' htask htask' _
    obtain rfl := Option.some.inj (htask.symm.trans (ht.trans htask'))
    exact Task.seen_service hs hn t id e.id since draw
  have hdiscreet : (x.turn e.task (·.service id e.id since now draw set)).1.Discreet clock e.task :=
    Exchange.discreet_turn (fun t => t.recorded_service id e.id since now draw set) (.inl rfl)
  exact (Exchange.seen_release hdiscreet hn (Exchange.seen_turn _ _ h hserved).1).1

end Deeds

end Switchboard
