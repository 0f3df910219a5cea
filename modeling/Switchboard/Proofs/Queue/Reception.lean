import Switchboard.Proofs.Exchange.Rejection
import Switchboard.Proofs.Floor.Arrivals
import Switchboard.Proofs.Queue.Refinement

/-! No call leaves a queue silently. One that goes otherwise than to an operator is recorded and
answered at once, and one that waits or went to an operator has heard nothing from the queue. -/

namespace Switchboard

open scoped List

structure Reception where
  history : CallQueue.History
  exchange : Exchange
  callers : List (Entry × CallFuture)

namespace Reception

structure Coming where
  bounds : ServiceBounds
  number : String
  start : Timestamp
  id : CallId
  taken : Bool
  bound : Option RecorderSet

def Coming.task (c : Coming) (promise : PromiseId) : Task :=
  let t := (Task.fresh promise c.bounds c.number c.start).assignCallId c.id
  let t := match c.bound with
    | none => t
    | some set => t.bind set
  if c.taken then t.takeFuture.1 else t

inductive Deed
  | push (c : Coming) (kept : Bool) (now : Timestamp)
  | pop
  | update (capacity : UInt64)

def start (capacity : UInt64) (recorders : RecorderSet) : Reception :=
  ⟨.start capacity recorders, .empty, []⟩

def act (r : Reception) : Deed → Reception
  | .push c kept now =>
    let (promise, x) := r.exchange.newPromise
    let (k, x) := x.enter (c.task promise)
    let e : Entry := ⟨k, c.id, c.number⟩
    let entering := r.history.queue.push x now e
    { history := r.history.act (.push x now e)
      exchange := entering.exchange.partWith kept entering.left now
      callers := r.callers ++ [(e, .of promise)] }
  | .pop => { r with history := r.history.act .pop }
  | .update capacity => { r with history := r.history.act (.update capacity) }

def after (capacity : UInt64) (recorders : RecorderSet) (deeds : List Deed) : Reception :=
  deeds.foldl act (start capacity recorders)

lemma after_concat (capacity : UInt64) (recorders : RecorderSet) (deeds : List Deed) (deed : Deed) :
    after capacity recorders (deeds ++ [deed]) = (after capacity recorders deeds).act deed :=
  List.foldl_concat ..

def close (r : Reception) (kept : Bool) (now : Timestamp) : Exchange × Option Crash :=
  let (x, crash) := r.history.queue.tearDown r.exchange now
  (x.partWith kept (r.history.queue.waiting.map Entry.task) now, crash)

end Reception

namespace Exchange

structure Answers (x : Exchange) (set : RecorderSet) (status : CallStatus) (e : Entry)
    (future : CallFuture) : Prop where
  record : ∃ r, x.records.filter (·.1 = e.task) = [(e.task, set, r)] ∧ r.callId = e.id ∧
    r.status = status ∧ r.duration = .zero
  outcomes : x.log.outcomes future.promise = [.ok ⟨status, .zero, e.id⟩]
  shown : (future.tryResult x.log).1 = some (.ok ⟨status, .zero, e.id⟩)

structure LeavesOpen (x : Exchange) (e : Entry) (future : CallFuture) : Prop where
  task : ∃ t, x.task? e.task = some t ∧ t.recorded = false ∧ t.isResolved = false
  records : x.records.filter (·.1 = e.task) = []
  shown : (future.tryResult x.log).1 = none

variable {x x' : Exchange} {e : Entry} {set : RecorderSet} {status : CallStatus}

lemma TurnedAway.answers (h : x.TurnedAway set status e) (hp : x.Proper) :
    x.Answers set status e (.of e.task) := by
  obtain ⟨r, hs, hid, hst, hd⟩ := h.story
  have hr := x.records_story e.task
  rw [hs] at hr
  obtain ⟨⟨k, s, q⟩, hl, hsq⟩ := List.map_eq_singleton_iff.1 hr
  obtain ⟨rfl, rfl⟩ : s = set ∧ q = r := by simpa using hsq
  obtain rfl : k = e.task := by
    have hm : (k, s, q) ∈ x.records.filter (·.1 = e.task) := hl ▸ List.mem_singleton.2 rfl
    simpa using (List.mem_filter.1 hm).2
  refine ⟨⟨q, hl, hid, hst, hd⟩, ?_, ?_⟩
  · rw [hp.outcomes_log]
    simp [CallFuture.of, hs, Log.outcomes, CallResult.unserviced]
  · have he : x.log.ending? e.task = some (some (.ok ⟨status, .zero, e.id⟩)) := by
      rw [hp.ending?_log, hs]
      simp [Log.ending?, CallResult.unserviced]
    simp [CallFuture.tryResult, CallFuture.of, he]

lemma Awaits.leavesOpen (h : x.Awaits e) (hp : x.Proper) : x.LeavesOpen e (.of e.task) := by
  obtain ⟨t, ht, hopen⟩ := h.task
  obtain ⟨taken, hpromise⟩ := hopen.1.promised
  refine ⟨⟨t, ht, hopen.1.unrecorded, by simp [Task.isResolved, hpromise]⟩, ?_, ?_⟩
  · have hr := x.records_story e.task
    rw [h.silent] at hr
    exact List.map_eq_nil_iff.1 hr
  · have he : x.log.ending? e.task = none := by
      rw [hp.ending?_log, h.silent]
      rfl
    simp [CallFuture.tryResult, CallFuture.of, he]

def Told (x : Exchange) (set : RecorderSet) (line : Entry × Fate) : Prop :=
  match line.2 with
  | .waiting | .popped => x.Awaits line.1
  | .evicted => x.TurnedAway set .duplication line.1
  | .refused => x.TurnedAway set .overloaded line.1
  | .lost => False

lemma Told.of_same {line : Entry × Fate} (h : x.Told set line)
    (ht : x'.task? line.1.task = x.task? line.1.task)
    (hs : x'.story line.1.task = x.story line.1.task) : x'.Told set line := by
  obtain ⟨e, fate⟩ := line
  cases fate with
  | waiting | popped => exact Awaits.of_same h ht hs
  | evicted | refused => exact TurnedAway.of_same h (.inl ht) hs
  | lost => exact h

end Exchange

namespace Reception

variable {r : Reception} {set : RecorderSet}

structure Sound (set : RecorderSet) (r : Reception) : Prop where
  follows : r.history.Follows
  recorders : r.history.queue.recorders = set
  proper : r.exchange.Proper
  promises : r.exchange.promises = r.exchange.tasks.length
  unborn : ∀ k, r.exchange.tasks.length ≤ k → r.exchange.story k = []
  numbers : r.history.brought.map Entry.task = List.range r.exchange.tasks.length
  callers : r.callers = r.history.brought.map fun e => (e, .of e.task)
  told : ∀ line ∈ r.history.log.lines, r.exchange.Told set line

lemma sound_start (capacity : UInt64) (set : RecorderSet) : (start capacity set).Sound set where
  follows := CallQueue.History.follows_start capacity set
  recorders := rfl
  proper := ⟨rfl, fun _ _ h => absurd h List.not_mem_nil⟩
  promises := rfl
  unborn _ _ := rfl
  numbers := rfl
  callers := rfl
  told _ h := absurd h List.not_mem_nil

lemma told_popFirst {x : Exchange} {lines : List (Entry × Fate)}
    (h : ∀ line ∈ lines, x.Told set line) :
    ∀ line ∈ AdmissionLog.popFirst lines, x.Told set line := by
  fun_induction AdmissionLog.popFirst lines with
  | case1 => exact h
  | case2 e ls =>
    obtain ⟨he, hls⟩ := List.forall_mem_cons.1 h
    exact List.forall_mem_cons.2 ⟨he, hls⟩
  | case3 line ls hl ih =>
    obtain ⟨hline, hls⟩ := List.forall_mem_cons.1 h
    exact List.forall_mem_cons.2 ⟨hline, ih hls⟩

lemma sound_pop (h : r.Sound set) : (r.act .pop).Sound set :=
  { h with
    follows := CallQueue.History.follows_pop h.follows
    recorders := (CallQueue.pop_recorders r.history.queue).trans h.recorders
    told := told_popFirst h.told }

lemma sound_update (h : r.Sound set) (capacity : UInt64) :
    (r.act (.update capacity)).Sound set :=
  { h with follows := CallQueue.History.follows_update h.follows capacity }

namespace Coming

lemma task_eq (c : Coming) (promise : PromiseId) :
    c.task promise =
      { (Task.newcomer promise c.bounds c.number c.start c.taken).assignCallId c.id with
        bound := c.bound } := by
  obtain ⟨bounds, number, start, id, taken, bound⟩ := c
  cases bound <;> cases taken <;> rfl

lemma task_isOpen (c : Coming) (promise : PromiseId) : (c.task promise).IsOpen promise := by
  rw [task_eq]
  exact ⟨rfl, ⟨c.taken, rfl⟩, rfl⟩

lemma task_callId (c : Coming) (promise : PromiseId) : (c.task promise).callId = c.id := by
  rw [task_eq]
  rfl

end Coming

section Push

variable {q : CallQueue} {x : Exchange} {e : Entry}

lemma push_rejects_newcomer (hq : q.isFull = true) (hc : q.recorders.Calm) (he : x.Awaits e)
    (now : Timestamp) :
    x.Rejects (q.push x now e).exchange q.recorders .overloaded [e] ∧
      (q.push x now e).left = [e.task] := by
  obtain ⟨hcalm, hr⟩ := Exchange.reject_of_awaits he hc now .overloaded
  have hp := q.push_ends x now e
  generalize q.push x now e = entering at hp ⊢
  cases hp with
  | full => exact ⟨hr, rfl⟩
  | fullCrash c _ crashes => cases hcalm.symm.trans crashes
  | new notFull | swap _ notFull | swapCrash _ _ notFull => cases hq.symm.trans notFull

lemma push_rejects_older (hq : q.isFull = false) (hc : q.recorders.Calm)
    (hw : ∀ d ∈ q.waiting, x.Awaits d) (e : Entry) (now : Timestamp) :
    x.Rejects (q.push x now e).exchange q.recorders .duplication (q.find? e.number).toList ∧
      (q.push x now e).left = (q.find? e.number).toList.map Entry.task := by
  have hp := q.push_ends x now e
  generalize q.push x now e = entering at hp ⊢
  cases hp with
  | full isFull | fullCrash _ isFull => cases hq.symm.trans isFull
  | new _ isNew =>
    rw [CallQueue.find?_of_isNew isNew]
    exact ⟨.refl x q.recorders .duplication, rfl⟩
  | swap older _ isOlder =>
    obtain ⟨-, hr⟩ := Exchange.reject_of_awaits (hw older (List.mem_of_find?_eq_some isOlder)) hc
      now .duplication
    rw [isOlder]
    exact ⟨hr, rfl⟩
  | swapCrash older c _ isOlder crashes =>
    obtain ⟨hcalm, -⟩ := Exchange.reject_of_awaits (hw older (List.mem_of_find?_eq_some isOlder)) hc
      now .duplication
    cases hcalm.symm.trans crashes

end Push

section Lines

variable {h : CallQueue.History} {x x' : Exchange} {e : Entry}

lemma lines_push (hf : h.Follows) (hc : h.queue.recorders.Calm) (x : Exchange) (now : Timestamp)
    (e : Entry) :
    (h.act (.push x now e)).log.lines =
      if h.queue.isFull then h.log.lines ++ [(e, .refused)]
      else h.log.lines.map (AdmissionLog.displaced e.number) ++ [(e, .waiting)] := by
  have hcrashed : (h.queue.push x now e).crashed = false := by
    simp only [CallQueue.Entering.crashed, CallQueue.push_calm hc x now e]
  simp only [CallQueue.History.act, AdmissionLog.bring, hf.isFull, hcrashed]
  split <;> rfl

lemma told_refused (hr : x.Rejects x' set .overloaded [e])
    (hold : ∀ line ∈ h.log.lines, x.Told set line ∧ line.1.task ≠ e.task) :
    ∀ line ∈ h.log.lines ++ [(e, .refused)], x'.Told set line := by
  intro line hl
  rcases List.mem_append.1 hl with hl | hl
  · obtain ⟨ht, hne⟩ := hold line hl
    obtain ⟨htask, hstory⟩ := hr.others line.1.task (by simpa using hne)
    exact ht.of_same htask hstory
  · obtain rfl := List.mem_singleton.1 hl
    exact hr.turnedAway e (List.mem_singleton.2 rfl)

lemma find?_iff (hf : h.Follows) {d : Entry} {number : String} :
    h.queue.find? number = some d ↔ (d, .waiting) ∈ h.log.lines ∧ d.number = number := by
  have hm : d ∈ h.queue.waiting ↔ (d, .waiting) ∈ h.log.lines := by
    simp [hf.waiting, AdmissionLog.those]
  rw [← hm]
  constructor
  · intro hd
    exact ⟨List.mem_of_find?_eq_some hd, by simpa using List.find?_some hd⟩
  · rintro ⟨hd, rfl⟩
    obtain ⟨c, hc⟩ : ∃ c, h.queue.find? d.number = some c := by
      apply Option.isSome_iff_exists.1
      rw [CallQueue.find?, List.find?_isSome]
      exact ⟨d, hd, by simp⟩
    have hn : c.number = d.number := by simpa using List.find?_some hc
    obtain rfl := List.inj_on_of_nodup_map hf.numbers (List.mem_of_find?_eq_some hc) hd hn
    exact hc

lemma told_displaced (hf : h.Follows) (hn : (h.brought.map Entry.task).Nodup)
    (hr : x.Rejects x' set .duplication (h.queue.find? e.number).toList) (he : x.Awaits e)
    (hold : ∀ line ∈ h.log.lines, x.Told set line ∧ line.1.task ≠ e.task) :
    ∀ line ∈ h.log.lines.map (AdmissionLog.displaced e.number) ++ [(e, .waiting)],
      x'.Told set line := by
  have hlines : (h.log.lines.map (Entry.task ∘ Prod.fst)).Nodup := by
    rw [← List.map_map, hf.brought]
    exact hn
  intro line hl
  rcases List.mem_append.1 hl with hl | hl
  · obtain ⟨⟨d, fate⟩, hd, rfl⟩ := List.mem_map.1 hl
    obtain ⟨ht, -⟩ := hold _ hd
    by_cases hw : fate = .waiting ∧ d.number = e.number
    · obtain ⟨rfl, hnum⟩ := hw
      have hfind : h.queue.find? e.number = some d := (find?_iff hf).2 ⟨hd, hnum⟩
      rw [AdmissionLog.displaced, if_pos ⟨rfl, hnum⟩]
      exact hr.turnedAway d (by simp [hfind])
    · rw [AdmissionLog.displaced, if_neg hw]
      have hne : d.task ∉ (h.queue.find? e.number).toList.map Entry.task := by
        intro hm
        obtain ⟨c, hc, hct⟩ := List.mem_map.1 hm
        obtain ⟨hcl, hcn⟩ := (find?_iff hf).1 (Option.mem_toList.1 hc)
        have hsame := List.inj_on_of_nodup_map hlines hcl hd hct
        obtain ⟨rfl, rfl⟩ := Prod.mk.inj hsame
        exact hw ⟨rfl, hcn⟩
      obtain ⟨htask, hstory⟩ := hr.others d.task hne
      exact ht.of_same htask hstory
  · obtain rfl := List.mem_singleton.1 hl
    have hne : e.task ∉ (h.queue.find? e.number).toList.map Entry.task := by
      intro hm
      obtain ⟨c, hc, hct⟩ := List.mem_map.1 hm
      obtain ⟨hcl, -⟩ := (find?_iff hf).1 (Option.mem_toList.1 hc)
      exact (hold _ hcl).2 hct
    obtain ⟨htask, hstory⟩ := hr.others e.task hne
    exact he.of_same htask hstory

end Lines

lemma told_push {h : CallQueue.History} (hf : h.Follows) (hset : h.queue.recorders = set)
    (hc : set.Calm) (hn : (h.brought.map Entry.task).Nodup) {x : Exchange} {e : Entry}
    (he : x.Awaits e) (hold : ∀ line ∈ h.log.lines, x.Told set line ∧ line.1.task ≠ e.task)
    (kept : Bool) (now : Timestamp) :
    ∃ status gone y, x.Rejects y set status gone ∧
      y = (h.queue.push x now e).exchange.partWith kept (h.queue.push x now e).left now ∧
      ∀ line ∈ (h.act (.push x now e)).log.lines, y.Told set line := by
  subst hset
  rw [lines_push hf hc]
  cases hq : h.queue.isFull with
  | true =>
    obtain ⟨hr, hleft⟩ := push_rejects_newcomer hq hc he now
    have hr := hr.partWith kept now
    rw [if_pos rfl]
    exact ⟨.overloaded, [e], _, hr, by rw [hleft]; rfl, told_refused hr hold⟩
  | false =>
    have hw : ∀ d ∈ h.queue.waiting, x.Awaits d := by
      intro d hd
      rw [hf.waiting] at hd
      obtain ⟨⟨c, fate⟩, hm, rfl⟩ := List.mem_map.1 hd
      obtain ⟨hm, hfate⟩ := List.mem_filter.1 hm
      obtain rfl : fate = .waiting := by simpa using hfate
      exact (hold _ hm).1
    obtain ⟨hr, hleft⟩ := push_rejects_older hq hc hw e now
    have hr := hr.partWith kept now
    rw [if_neg Bool.false_ne_true]
    exact ⟨.duplication, _, _, hr, by rw [hleft], told_displaced hf hn hr he hold⟩

lemma sound_push (h : r.Sound set) (hc : set.Calm) (c : Coming) (kept : Bool) (now : Timestamp) :
    (r.act (.push c kept now)).Sound set := by
  let n := r.exchange.tasks.length
  let t := c.task r.exchange.promises
  let x := r.exchange.welcome t
  let e : Entry := ⟨n, c.id, c.number⟩
  have hlength : x.tasks.length = n + 1 := by simp [x, n, Exchange.welcome]
  have hopen : t.IsOpen n := by
    rw [← show r.exchange.promises = n from h.promises]
    exact c.task_isOpen _
  have htask : x.task? n = some t := by rw [Exchange.task?_welcome, if_pos rfl]
  have he : x.Awaits e := ⟨⟨t, htask, hopen, c.task_callId _⟩, h.unborn n (Nat.le_refl n)⟩
  have hold : ∀ line ∈ r.history.log.lines, x.Told set line ∧ line.1.task ≠ e.task := by
    intro line hl
    have hm : line.1.task ∈ List.range n := by
      rw [← h.numbers, ← h.follows.brought]
      exact List.mem_map_of_mem (List.mem_map_of_mem hl)
    have hne : line.1.task ≠ n := Nat.ne_of_lt (List.mem_range.1 hm)
    have hsame : x.task? line.1.task = r.exchange.task? line.1.task := by
      rw [Exchange.task?_welcome, if_neg hne]
    exact ⟨(h.told line hl).of_same hsame rfl, hne⟩
  have hn : (r.history.brought.map Entry.task).Nodup := h.numbers ▸ List.nodup_range
  obtain ⟨status, gone, y, hr, hy, htold⟩ :=
    told_push h.follows h.recorders hc hn he hold kept now
  have hact : r.act (.push c kept now) =
      ⟨r.history.act (.push x now e), y, r.callers ++ [(e, .of r.exchange.promises)]⟩ := by
    rw [hy]
    rfl
  have hylength : y.tasks.length = n + 1 := hr.length.trans hlength
  rw [hact]
  constructor
  · exact CallQueue.History.follows_push h.follows x now e
  · exact (CallQueue.push_frame r.history.queue x now e).2.trans h.recorders
  · exact hr.proper ⟨h.proper.aligned, h.proper.own⟩
  · calc y.promises
      _ = r.exchange.promises + 1 := hr.promises
      _ = y.tasks.length := by rw [hylength, h.promises]
  · intro k hk
    have hk : n + 1 ≤ k := hylength ▸ hk
    have hne : k ∉ gone.map Entry.task := by
      intro hm
      obtain ⟨d, hd, rfl⟩ := List.mem_map.1 hm
      have hlt := hr.known d hd
      omega
    exact (hr.others k hne).2.trans (h.unborn k (by omega))
  · calc (r.history.brought ++ [e]).map Entry.task
      _ = List.range n ++ [n] := by rw [List.map_append, h.numbers]; rfl
      _ = List.range (n + 1) := List.range_succ.symm
      _ = List.range y.tasks.length := by rw [hylength]
  · calc r.callers ++ [(e, .of r.exchange.promises)]
      _ = (r.history.brought.map fun e => (e, .of e.task)) ++ [(e, .of e.task)] := by
          rw [h.callers, h.promises]
      _ = (r.history.brought ++ [e]).map fun e => (e, .of e.task) := by rw [List.map_append]; rfl
  · exact htold

lemma sound_act (h : r.Sound set) (hc : set.Calm) (deed : Deed) : (r.act deed).Sound set := by
  cases deed with
  | push c kept now => exact sound_push h hc c kept now
  | pop => exact sound_pop h
  | update capacity => exact sound_update h capacity

lemma sound_after (hc : set.Calm) (capacity : UInt64) (deeds : List Deed) :
    (after capacity set deeds).Sound set := by
  induction deeds using List.reverseRecOn with
  | nil => exact sound_start capacity set
  | append_singleton deeds deed ih =>
    rw [after_concat]
    exact sound_act ih hc deed

lemma history_after (capacity : UInt64) (recorders : RecorderSet) (deeds : List Deed) :
    ∃ acts, (after capacity recorders deeds).history = .after capacity recorders acts := by
  induction deeds using List.reverseRecOn with
  | nil => exact ⟨[], rfl⟩
  | append_singleton deeds deed ih =>
    obtain ⟨acts, ih⟩ := ih
    obtain ⟨act, ha⟩ : ∃ act, ((after capacity recorders deeds).act deed).history =
        (after capacity recorders deeds).history.act act := by
      cases deed with
      | push c kept now => exact ⟨.push _ _ _, rfl⟩
      | pop => exact ⟨.pop, rfl⟩
      | update capacity => exact ⟨.update capacity, rfl⟩
    refine ⟨acts ++ [act], ?_⟩
    rw [after_concat, CallQueue.History.after_concat, ha, ih]

lemma orderly_after (capacity : UInt64) (recorders : RecorderSet) (deeds : List Deed) :
    (after capacity recorders deeds).history.Orderly := by
  obtain ⟨acts, hacts⟩ := history_after capacity recorders deeds
  rw [hacts]
  exact (CallQueue.History.follows_after capacity recorders acts).orderly
    (CallQueue.History.displaced_after capacity recorders acts)

lemma Sound.told_of_fate (h : r.Sound set) {e : Entry} {fate : Fate}
    (he : e ∈ r.history.log.those fate) : r.exchange.Told set (e, fate) := by
  obtain ⟨⟨d, s⟩, hm, rfl⟩ := List.mem_map.1 he
  obtain ⟨hl, hs⟩ := List.mem_filter.1 hm
  obtain rfl : s = fate := by simpa using hs
  exact h.told _ hl

lemma Sound.crashed (h : r.Sound set) : r.history.crashed = [] := by
  rw [h.follows.crashed, List.eq_nil_iff_forall_not_mem]
  intro e he
  exact h.told_of_fate he

lemma Sound.future (h : r.Sound set) {e : Entry} {future : CallFuture}
    (hm : (e, future) ∈ r.callers) : future = .of e.task := by
  rw [h.callers] at hm
  obtain ⟨d, -, hd⟩ := List.mem_map.1 hm
  obtain ⟨rfl, rfl⟩ := Prod.mk.inj hd
  rfl

lemma Sound.nodup_tasks (h : r.Sound set) : (r.history.brought.map Entry.task).Nodup :=
  h.numbers ▸ List.nodup_range

lemma Sound.awaits (h : r.Sound set) {e : Entry} (he : e ∈ r.history.queue.waiting) :
    r.exchange.Awaits e := by
  rw [h.follows.waiting] at he
  exact h.told_of_fate he

structure Informs (r : Reception) (set : RecorderSet) (x : Exchange) (e : Entry)
    (future : CallFuture) : Prop where
  refused : e ∈ r.history.refused → x.Answers set .overloaded e future
  evicted : e ∈ r.history.log.those .evicted → x.Answers set .duplication e future
  popped : e ∈ r.history.popped → x.LeavesOpen e future

lemma Sound.informs (h : r.Sound set) {x : Exchange} (hp : x.Proper)
    (ht : ∀ fate, fate ≠ .waiting → ∀ e ∈ r.history.log.those fate, x.Told set (e, fate))
    (e : Entry) : r.Informs set x e (.of e.task) := by
  constructor
  · intro he
    have hr : x.TurnedAway set .overloaded e :=
      ht .refused (by simp) e (h.follows.refused ▸ he)
    exact hr.answers hp
  · intro he
    have hr : x.TurnedAway set .duplication e := ht .evicted (by simp) e he
    exact hr.answers hp
  · intro he
    have ha : x.Awaits e := ht .popped (by simp) e (h.follows.popped ▸ he)
    exact ha.leavesOpen hp

lemma Sound.rejects_close (h : r.Sound set) (hc : set.Calm) (kept : Bool) (now : Timestamp) :
    (r.close kept now).2 = none ∧
      r.exchange.Rejects (r.close kept now).1 set .rejected r.history.queue.waiting := by
  have hw : r.history.queue.waiting <+ r.history.brought := by
    rw [h.follows.waiting, ← h.follows.brought]
    exact r.history.log.those_sublist .waiting
  have hn : (r.history.queue.waiting.map Entry.task).Nodup := h.nodup_tasks.sublist (hw.map _)
  have hq : r.history.queue.recorders.Calm := h.recorders ▸ hc
  obtain ⟨hcalm, hr⟩ := Exchange.rejects_tearDown hq now r.exchange hn fun e he => h.awaits he
  rw [h.recorders] at hr
  exact ⟨hcalm, hr.partWith kept now⟩

lemma Sound.told_close (h : r.Sound set) {x : Exchange}
    (hr : r.exchange.Rejects x set .rejected r.history.queue.waiting) :
    ∀ fate, fate ≠ .waiting → ∀ e ∈ r.history.log.those fate, x.Told set (e, fate) := by
  intro fate hfate e he
  have hne : e.task ∉ r.history.queue.waiting.map Entry.task := by
    intro hm
    obtain ⟨d, hd, hdt⟩ := List.mem_map.1 hm
    have hlines : (r.history.log.lines.map (Entry.task ∘ Prod.fst)).Nodup := by
      rw [← List.map_map, h.follows.brought]
      exact h.nodup_tasks
    rw [h.follows.waiting] at hd
    obtain ⟨⟨d, s⟩, hdl, rfl⟩ := List.mem_map.1 hd
    obtain ⟨⟨e, t⟩, hel, rfl⟩ := List.mem_map.1 he
    obtain ⟨hdl, hs⟩ := List.mem_filter.1 hdl
    obtain ⟨hel, ht⟩ := List.mem_filter.1 hel
    have hsame := List.inj_on_of_nodup_map hlines hdl hel hdt
    obtain ⟨-, rfl⟩ := Prod.mk.inj hsame
    simp only [decide_eq_true_eq] at hs ht
    exact hfate (ht.symm.trans hs)
  obtain ⟨htask, hstory⟩ := hr.others e.task hne
  exact (h.told_of_fate he).of_same htask hstory

end Reception

theorem no_call_leaves_silently (capacity : UInt64) {recorders : RecorderSet}
    (hc : recorders.Calm) (deeds : List Reception.Deed) :
    let r := Reception.after capacity recorders deeds
    let h := r.history
    r.callers.map Prod.fst = h.brought ∧ (h.brought.map Entry.task).Nodup ∧
      h.brought ~ h.popped ++ h.log.those .evicted ++ h.refused ++ h.queue.waiting ∧
      (∀ e ∈ h.log.those .evicted, ∃ d, d.number = e.number ∧ [e, d] <+ h.brought) ∧
      r.exchange.log.records = r.exchange.records.map Prod.snd ∧
      (∀ e future, (e, future) ∈ r.callers → r.Informs recorders r.exchange e future ∧
        (e ∈ h.queue.waiting → r.exchange.LeavesOpen e future)) ∧
      ∀ kept now, ∃ x, r.close kept now = (x, none) ∧
        x.log.records = x.records.map Prod.snd ∧
        x.records.map Prod.fst =
          r.exchange.records.map Prod.fst ++ h.queue.waiting.map Entry.task ∧
        ∀ e future, (e, future) ∈ r.callers → r.Informs recorders x e future ∧
          (e ∈ h.queue.waiting → x.Answers recorders .rejected e future) := by
  intro r h
  have hs : r.Sound recorders := Reception.sound_after hc capacity deeds
  have ho : h.Orderly := Reception.orderly_after capacity recorders deeds
  refine ⟨?_, hs.nodup_tasks, ?_, ho.displaced, Exchange.records_log hs.proper.aligned, ?_, ?_⟩
  · rw [hs.callers, List.map_map]
    exact List.map_id _
  · have hsplit := ho.split
    rwa [hs.crashed, List.append_nil] at hsplit
  · intro e future hm
    obtain rfl := hs.future hm
    refine ⟨hs.informs hs.proper (fun fate _ e he => hs.told_of_fate he) e, ?_⟩
    intro he
    exact (hs.awaits he).leavesOpen hs.proper
  · intro kept now
    obtain ⟨hcalm, hr⟩ := hs.rejects_close hc kept now
    have hp := hr.proper hs.proper
    refine ⟨_, Prod.ext rfl hcalm, Exchange.records_log hp.aligned, hr.records, ?_⟩
    intro e future hm
    obtain rfl := hs.future hm
    refine ⟨hs.informs hp (hs.told_close hr) e, ?_⟩
    intro he
    exact (hr.turnedAway e he).answers hp

def Reception.ofFour : List Reception.Deed :=
  let midnight := Timestamp.ofPosition 0
  let call (number : String) (id : CallId) : Reception.Deed :=
    .push ⟨⟨1, 2, .zero⟩, number, midnight, id, true, none⟩ false midnight
  [call "555-0100" 1, call "555-0100" 2, call "555-0101" 3, call "555-0102" 4, .pop]

theorem no_call_leaves_silently_of_four :
    let set : RecorderSet := ⟨7, [.keeping "cdr"]⟩
    let r := Reception.after 2 set Reception.ofFour
    set.Calm ∧ r.exchange.Answers set .duplication ⟨0, 1, "555-0100"⟩ (.of 0) ∧
      r.exchange.LeavesOpen ⟨1, 2, "555-0100"⟩ (.of 1) ∧
      r.exchange.Answers set .overloaded ⟨3, 4, "555-0102"⟩ (.of 3) ∧
      (r.close false (.ofPosition 0)).1.Answers set .rejected ⟨2, 3, "555-0101"⟩ (.of 2) := by
  intro set r
  have hc : set.Calm := fun _ => rfl
  obtain ⟨-, -, -, -, -, hnow, hclose⟩ := no_call_leaves_silently 2 hc Reception.ofFour
  obtain ⟨x, hx, -, -, hthen⟩ := hclose false (.ofPosition 0)
  refine ⟨hc, ?_, ?_, ?_, ?_⟩
  · exact (hnow ⟨0, 1, "555-0100"⟩ (.of 0) (by decide)).1.evicted (by decide)
  · exact (hnow ⟨1, 2, "555-0100"⟩ (.of 1) (by decide)).1.popped (by decide)
  · exact (hnow ⟨3, 4, "555-0102"⟩ (.of 3) (by decide)).1.refused (by decide)
  · have hclosed : (r.close false (.ofPosition 0)).1 = x := congrArg Prod.fst hx
    rw [hclosed]
    exact (hthen ⟨2, 3, "555-0101"⟩ (.of 2) (by decide)).2 (by decide)

end Switchboard
