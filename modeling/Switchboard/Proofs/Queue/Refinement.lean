import Mathlib.Data.List.Induction
import Switchboard.Proofs.Queue.AdmissionLog
import Switchboard.Proofs.Queue.Push
import Switchboard.Proofs.Task.Departure

/-! A queue follows its admission log: whatever is done to it, its calls are those that wait by the
log, and they come out in the order in which they were brought. -/

namespace Switchboard.CallQueue

open scoped List

lemma pop_waiting (q : CallQueue) : q.pop.2.waiting = q.waiting.tail := by
  cases hw : q.waiting <;> simp [pop, hw]

lemma pop_head (q : CallQueue) : q.pop.1 = q.waiting.head? := by
  cases hw : q.waiting <;> simp [pop, hw]

lemma pop_capacity (q : CallQueue) : q.pop.2.capacity = q.capacity := by
  cases hw : q.waiting <;> simp [pop, hw]

lemma pop_recorders (q : CallQueue) : q.pop.2.recorders = q.recorders := by
  cases hw : q.waiting <;> simp [pop, hw]

inductive Deed
  | push (x : Exchange) (now : Timestamp) (e : Entry)
  | pop
  | update (capacity : UInt64)

structure History where
  queue : CallQueue
  log : AdmissionLog
  brought : List Entry
  popped : List Entry
  /-- The calls to which the answer was `false`. -/
  refused : List Entry
  /-- The calls to which there was no answer. -/
  crashed : List Entry
  /-- The capacities that were in force, the latest first. -/
  capacities : List UInt64

namespace History

def start (capacity : UInt64) (recorders : RecorderSet) : History :=
  ⟨.empty capacity recorders, .empty capacity, [], [], [], [], [capacity]⟩

def act (h : History) : Deed → History
  | .push x now e =>
    let r := h.queue.push x now e
    { h with
      queue := r.queue
      log := h.log.bring e r.crashed
      brought := h.brought ++ [e]
      refused := h.refused ++ if r.reply matches .ok false then [e] else []
      crashed := h.crashed ++ if r.crashed then [e] else [] }
  | .pop =>
    { h with
      queue := h.queue.pop.2
      log := h.log.pop
      popped := h.popped ++ h.queue.pop.1.toList }
  | .update capacity =>
    { h with
      queue := h.queue.setCapacity capacity
      log := h.log.setCapacity capacity
      capacities := capacity :: h.capacities }

def after (capacity : UInt64) (recorders : RecorderSet) (deeds : List Deed) : History :=
  deeds.foldl act (start capacity recorders)

lemma after_concat (capacity : UInt64) (recorders : RecorderSet) (deeds : List Deed) (deed : Deed) :
    after capacity recorders (deeds ++ [deed]) = (after capacity recorders deeds).act deed :=
  List.foldl_concat ..

structure Follows (h : History) : Prop where
  capacity : h.queue.capacity = h.log.capacity
  waiting : h.queue.waiting = h.log.those .waiting
  popped : h.popped = h.log.those .popped
  refused : h.refused = h.log.those .refused
  crashed : h.crashed = h.log.those .lost
  brought : h.log.lines.map Prod.fst = h.brought
  numbers : (h.queue.waiting.map Entry.number).Nodup
  inTurn : AdmissionLog.InTurn h.log.lines
  inForce : h.capacities.head? = some h.queue.capacity
  bounded : ∃ c ∈ h.capacities, h.queue.size ≤ c.toNat

variable {h : History}

lemma Follows.isFull (hf : h.Follows) : h.log.isFull = h.queue.isFull := by
  rw [AdmissionLog.isFull, CallQueue.isFull, size, hf.capacity, hf.waiting]

lemma follows_start (capacity : UInt64) (recorders : RecorderSet) :
    (start capacity recorders).Follows where
  capacity := rfl
  waiting := rfl
  popped := rfl
  refused := rfl
  crashed := rfl
  brought := rfl
  numbers := .nil
  inTurn := .nil
  inForce := rfl
  bounded := ⟨capacity, List.mem_singleton.2 rfl, Nat.zero_le _⟩

lemma follows_pop (hf : h.Follows) : (h.act .pop).Follows := by
  have hrest : h.queue.pop.2.waiting = h.queue.waiting.tail := pop_waiting h.queue
  constructor
  · exact (pop_capacity h.queue).trans hf.capacity
  · calc h.queue.pop.2.waiting
      _ = (h.log.those .waiting).tail := by rw [hrest, hf.waiting]
      _ = h.log.pop.those .waiting := (AdmissionLog.those_pop_waiting h.log).symm
  · calc h.popped ++ h.queue.pop.1.toList
      _ = h.log.those .popped ++ (h.log.those .waiting).head?.toList := by
          rw [hf.popped, pop_head, hf.waiting]
      _ = h.log.pop.those .popped := (AdmissionLog.those_pop_popped hf.inTurn).symm
  · exact hf.refused.trans (h.log.those_pop (s := .refused) (by simp) (by simp)).symm
  · exact hf.crashed.trans (h.log.those_pop (s := .lost) (by simp) (by simp)).symm
  · exact (AdmissionLog.map_fst_popFirst h.log.lines).trans hf.brought
  · have hs : (h.queue.waiting.tail.map Entry.number).Sublist (h.queue.waiting.map Entry.number) :=
      (List.tail_sublist _).map _
    exact hrest ▸ hf.numbers.sublist hs
  · exact AdmissionLog.inTurn_popFirst hf.inTurn
  · exact (pop_capacity h.queue).symm ▸ hf.inForce
  · obtain ⟨c, hc, hle⟩ := hf.bounded
    refine ⟨c, hc, ?_⟩
    have hs : h.queue.pop.2.size ≤ h.queue.size := by
      rw [size, hrest]
      exact (List.tail_sublist _).length_le
    exact Nat.le_trans hs hle

lemma follows_update (hf : h.Follows) (capacity : UInt64) :
    (h.act (.update capacity)).Follows := by
  obtain ⟨c, hc, hle⟩ := hf.bounded
  exact { hf with
    capacity := rfl
    inForce := rfl
    bounded := ⟨c, List.mem_cons_of_mem _ hc, hle⟩ }

def note (h : History) (q : CallQueue) (e : Entry) (s : Fate) : History :=
  { h with
    queue := q
    log := h.log.add e s
    brought := h.brought ++ [e]
    refused := h.refused ++ if s = .refused then [e] else []
    crashed := h.crashed ++ if s = .lost then [e] else [] }

def evict (h : History) (number : String) : History :=
  { h with queue := h.queue.without number, log := h.log.evict number }

lemma follows_note (hf : h.Follows) {q : CallQueue} {e : Entry} {s : Fate} (hs : s ≠ .popped)
    (hw : q.waiting = h.queue.waiting ++ if s = .waiting then [e] else [])
    (hc : q.capacity = h.queue.capacity)
    (hnew : s = .waiting → h.queue.isFull = false ∧ ∀ d ∈ h.queue.waiting, d.number ≠ e.number) :
    (h.note q e s).Follows := by
  constructor
  · exact hc.trans hf.capacity
  · calc q.waiting
      _ = h.log.those .waiting ++ if s = .waiting then [e] else [] := by rw [hw, hf.waiting]
      _ = (h.log.add e s).those .waiting := (h.log.those_add e s .waiting).symm
  · calc h.popped
      _ = h.log.those .popped ++ if s = .popped then [e] else [] := by
          rw [if_neg hs, List.append_nil, hf.popped]
      _ = (h.log.add e s).those .popped := (h.log.those_add e s .popped).symm
  · exact (congrArg (· ++ _) hf.refused).trans (h.log.those_add e s .refused).symm
  · exact (congrArg (· ++ _) hf.crashed).trans (h.log.those_add e s .lost).symm
  · simp [note, AdmissionLog.add, hf.brought]
  · have hq : (h.note q e s).queue.waiting = _ := hw
    rw [hq]
    by_cases hsw : s = .waiting
    · obtain ⟨-, hd⟩ := hnew hsw
      rw [if_pos hsw, List.map_append, List.nodup_append]
      refine ⟨hf.numbers, List.nodup_singleton _, ?_⟩
      intro a ha b hb
      obtain ⟨d, hd', rfl⟩ := List.mem_map.1 ha
      obtain rfl : b = e.number := by simpa using hb
      exact hd d hd'
    · simpa [hsw] using hf.numbers
  · exact AdmissionLog.inTurn_add hf.inTurn hs
  · exact hc ▸ hf.inForce
  · by_cases hsw : s = .waiting
    · obtain ⟨hopen, -⟩ := hnew hsw
      refine ⟨h.queue.capacity, List.mem_of_head? hf.inForce, ?_⟩
      have hlt := Nat.succ_le_of_lt (isFull_eq_false.1 hopen)
      simpa [note, size, hw, hsw] using hlt
    · obtain ⟨c, hcm, hle⟩ := hf.bounded
      refine ⟨c, hcm, ?_⟩
      simpa [note, size, hw, hsw] using hle

lemma follows_evict (hf : h.Follows) (number : String) : (h.evict number).Follows := by
  have hw : (h.queue.without number).waiting = h.queue.waiting.filter (·.number ≠ number) :=
    without_waiting hf.numbers number
  constructor
  · exact hf.capacity
  · calc (h.queue.without number).waiting
      _ = (h.log.those .waiting).filter (·.number ≠ number) := by rw [hw, hf.waiting]
      _ = (h.log.evict number).those .waiting := (h.log.those_evict_waiting number).symm
  · exact hf.popped.trans (h.log.those_evict number (s := .popped) (by simp) (by simp)).symm
  · exact hf.refused.trans (h.log.those_evict number (s := .refused) (by simp) (by simp)).symm
  · exact hf.crashed.trans (h.log.those_evict number (s := .lost) (by simp) (by simp)).symm
  · exact (h.log.map_fst_evict number).trans hf.brought
  · exact hw ▸ hf.numbers.sublist (List.filter_sublist.map Entry.number)
  · exact AdmissionLog.inTurn_evict number hf.inTurn
  · exact hf.inForce
  · obtain ⟨c, hc, hle⟩ := hf.bounded
    exact ⟨c, hc, Nat.le_trans (size_without_le h.queue number) hle⟩

lemma act_push_full (hf : h.Follows) (x : Exchange) (now : Timestamp) (e : Entry)
    (hfull : h.queue.isFull = true) :
    ∃ s, s ≠ .popped ∧ s ≠ .waiting ∧ h.act (.push x now e) = h.note h.queue e s := by
  obtain ⟨hq, hr⟩ := push_of_isFull x now e hfull
  have hlog : h.log.isFull = true := hf.isFull.trans hfull
  cases hreply : (h.queue.push x now e).reply with
  | error c =>
    refine ⟨.lost, by simp, by simp, ?_⟩
    simp [act, note, hq, hreply, Entering.crashed, AdmissionLog.bring, hlog]
  | ok b =>
    cases b with
    | true => exact absurd hreply hr
    | false =>
      refine ⟨.refused, by simp, by simp, ?_⟩
      simp [act, note, hq, hreply, Entering.crashed, AdmissionLog.bring, hlog]

lemma act_push_open (hf : h.Follows) (x : Exchange) (now : Timestamp) (e : Entry)
    (hopen : h.queue.isFull = false) :
    ∃ s q, s ≠ .popped ∧ q.waiting =
        (h.queue.without e.number).waiting ++ (if s = .waiting then [e] else []) ∧
      q.capacity = h.queue.capacity ∧ h.act (.push x now e) = (h.evict e.number).note q e s := by
  have hw := push_waiting x now e hopen
  have hr := push_reply_ne_false x now e hopen
  obtain ⟨hc, -⟩ := push_frame h.queue x now e
  have hlog : h.log.isFull = false := hf.isFull.trans hopen
  cases hreply : (h.queue.push x now e).reply with
  | error c =>
    refine ⟨.lost, (h.queue.push x now e).queue, by simp, ?_, hc, ?_⟩
    · simpa [Entering.crashed, hreply] using hw
    · simp [act, note, evict, hreply, Entering.crashed, AdmissionLog.bring, hlog]
  | ok b =>
    cases b with
    | false => exact absurd hreply hr
    | true =>
      refine ⟨.waiting, (h.queue.push x now e).queue, by simp, ?_, hc, ?_⟩
      · simpa [Entering.crashed, hreply] using hw
      · simp [act, note, evict, hreply, Entering.crashed, AdmissionLog.bring, hlog]

lemma follows_push (hf : h.Follows) (x : Exchange) (now : Timestamp) (e : Entry) :
    (h.act (.push x now e)).Follows := by
  cases hfull : h.queue.isFull with
  | true =>
    obtain ⟨s, hp, hw, he⟩ := act_push_full hf x now e hfull
    rw [he]
    exact follows_note hf hp (by simp [hw]) rfl fun h => absurd h hw
  | false =>
    obtain ⟨s, q, hp, hw, hc, he⟩ := act_push_open hf x now e hfull
    have hrest : (h.queue.without e.number).waiting =
        h.queue.waiting.filter (·.number ≠ e.number) := without_waiting hf.numbers e.number
    rw [he]
    -- The older call goes first, so none that waits has the number of the new one.
    refine follows_note (follows_evict hf e.number) hp hw hc fun _ => ⟨?_, ?_⟩
    · have hle := size_without_le h.queue e.number
      exact isFull_eq_false.2 (Nat.lt_of_le_of_lt hle (isFull_eq_false.1 hfull))
    · intro d hd
      have hd : d ∈ (h.queue.without e.number).waiting := hd
      rw [hrest] at hd
      simpa using (List.mem_filter.1 hd).2

lemma follows_act (hf : h.Follows) (deed : Deed) : (h.act deed).Follows := by
  cases deed with
  | push x now e => exact follows_push hf x now e
  | pop => exact follows_pop hf
  | update capacity => exact follows_update hf capacity

lemma follows_after (capacity : UInt64) (recorders : RecorderSet) (deeds : List Deed) :
    (after capacity recorders deeds).Follows := by
  induction deeds using List.reverseRecOn with
  | nil => exact follows_start capacity recorders
  | append_singleton deeds deed ih =>
    rw [after_concat]
    exact follows_act ih deed

lemma displaced_after (capacity : UInt64) (recorders : RecorderSet) (deeds : List Deed) :
    AdmissionLog.Displaced (after capacity recorders deeds).log.lines := by
  induction deeds using List.reverseRecOn with
  | nil =>
    intro e he
    cases he
  | append_singleton deeds deed ih =>
    rw [after_concat]
    cases deed with
    | push x now e => exact AdmissionLog.displaced_bring ih e _
    | pop => exact AdmissionLog.displaced_popFirst ih
    | update capacity => exact ih

lemma answered_after {recorders : RecorderSet} (hc : recorders.Calm) (capacity : UInt64)
    (deeds : List Deed) :
    (after capacity recorders deeds).queue.recorders = recorders ∧
      (after capacity recorders deeds).crashed = [] := by
  induction deeds using List.reverseRecOn with
  | nil => exact ⟨rfl, rfl⟩
  | append_singleton deeds deed ih =>
    obtain ⟨hr, hn⟩ := ih
    rw [after_concat]
    generalize after capacity recorders deeds = h at hr hn ⊢
    cases deed with
    | push x now e =>
      obtain ⟨-, hr'⟩ := push_frame h.queue x now e
      have ha := push_calm (q := h.queue) (hr ▸ hc) x now e
      exact ⟨hr'.trans hr, by simp [act, hn, Entering.crashed, ha]⟩
    | pop => exact ⟨(pop_recorders h.queue).trans hr, hn⟩
    | update capacity => exact ⟨hr, hn⟩

structure Orderly (h : History) : Prop where
  waiting : h.queue.waiting = h.log.those .waiting
  popped : h.popped = h.log.those .popped
  refused : h.refused = h.log.those .refused
  split : h.brought ~
    h.popped ++ h.log.those .evicted ++ h.refused ++ h.queue.waiting ++ h.crashed
  distinct : (h.brought.map Entry.task).Nodup →
    ((h.popped ++ h.log.those .evicted ++ h.refused ++ h.queue.waiting ++ h.crashed).map
      Entry.task).Nodup
  displaced : ∀ e ∈ h.log.those .evicted, ∃ d, d.number = e.number ∧ [e, d] <+ h.brought
  numbers : (h.queue.waiting.map Entry.number).Nodup
  inOrder : h.queue.waiting <+ h.brought
  length : h.queue.size = h.queue.waiting.length
  front : h.queue.front? = h.queue.waiting.head?
  back : h.queue.back? = h.queue.waiting.getLast?
  oldest : ∀ e, h.queue.front? = some e → ∀ d ∈ h.queue.waiting, d = e ∨ [e, d] <+ h.brought
  newest : ∀ e, h.queue.back? = some e → ∀ d ∈ h.queue.waiting, d = e ∨ [d, e] <+ h.brought
  firstOut : h.popped <+ h.brought
  inForce : h.capacities.head? = some h.queue.capacity
  bounded : ∃ c ∈ h.capacities, h.queue.size ≤ c.toNat

lemma Follows.orderly (hf : h.Follows) (hd : AdmissionLog.Displaced h.log.lines) : h.Orderly := by
  have hsplit : h.brought ~
      h.popped ++ h.log.those .evicted ++ h.refused ++ h.queue.waiting ++ h.crashed := by
    rw [← hf.brought, hf.popped, hf.refused, hf.waiting, hf.crashed]
    exact h.log.perm_fates
  have hwaiting : h.queue.waiting <+ h.brought := by
    rw [hf.waiting, ← hf.brought]
    exact h.log.those_sublist .waiting
  constructor
  · exact hf.waiting
  · exact hf.popped
  · exact hf.refused
  · exact hsplit
  · exact (hsplit.map Entry.task).nodup_iff.1
  · intro e he
    rw [← hf.brought]
    apply hd e
    obtain ⟨⟨d, s⟩, hm, rfl⟩ := List.mem_map.1 he
    obtain ⟨hm, hs⟩ := List.mem_filter.1 hm
    obtain rfl : s = .evicted := by simpa using hs
    exact hm
  · exact hf.numbers
  · exact hwaiting
  · rfl
  · rfl
  · rfl
  · intro e he d hm
    obtain ⟨es, hes⟩ := List.head?_eq_some_iff.1 he
    rw [hes] at hm hwaiting
    rcases List.mem_cons.1 hm with rfl | hm
    · exact .inl rfl
    · exact .inr (((List.singleton_sublist.2 hm).cons_cons e).trans hwaiting)
  · intro e he d hm
    obtain ⟨es, hes⟩ := List.getLast?_eq_some_iff.1 he
    rw [hes] at hm hwaiting
    rcases List.mem_append.1 hm with hm | hm
    · exact .inr (((List.singleton_sublist.2 hm).append (.refl [e])).trans hwaiting)
    · exact .inl (List.mem_singleton.1 hm)
  · rw [hf.popped, ← hf.brought]
    exact h.log.those_sublist .popped
  · exact hf.inForce
  · exact hf.bounded

end History

theorem queue_follows_admission_log (capacity : UInt64) (recorders : RecorderSet)
    (deeds : List Deed) :
    let h := History.after capacity recorders deeds
    h.Orderly ∧ (recorders.Calm → h.crashed = []) ∧
      (∀ x now e b, (h.queue.push x now e).reply = .ok b →
        (b = false ↔ h.queue.capacity.toNat ≤ h.queue.size)) ∧
      (∀ x now e, recorders.Calm → ∃ b, (h.queue.push x now e).reply = .ok b) ∧
      (∀ x now e, h.queue.capacity.toNat ≤ h.queue.size →
        (h.queue.push x now e).queue.waiting = h.queue.waiting) ∧
      (∀ x now e, (h.queue.push x now e).reply = .ok true →
        (h.queue.push x now e).queue.size ≤ (h.queue.push x now e).queue.capacity.toNat) ∧
      ∀ c, (h.queue.setCapacity c).waiting = h.queue.waiting := by
  have hf := History.follows_after capacity recorders deeds
  have ho := hf.orderly (History.displaced_after capacity recorders deeds)
  refine ⟨ho, fun hc => (History.answered_after hc capacity deeds).2, ?_, ?_, ?_, ?_, fun _ => rfl⟩
  · intro x now e b hr
    rw [push_reply hr, Bool.not_eq_false', isFull_eq_true]
  · intro x now e hc
    have hq : (History.after capacity recorders deeds).queue.recorders.Calm := by
      rw [(History.answered_after hc capacity deeds).1]
      exact hc
    exact ⟨_, push_calm hq x now e⟩
  · intro x now e hfull
    rw [(push_of_isFull x now e (isFull_eq_true.2 hfull)).1]
  · intro x now e hr
    exact push_size hr

end Switchboard.CallQueue
