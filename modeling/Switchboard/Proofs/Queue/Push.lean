import Mathlib.Data.List.Nodup
import Switchboard.Proofs.Exchange.Rejection

namespace Switchboard.CallQueue

def Entering.crashed (r : Entering) : Bool := r.reply matches .error _

inductive PushEnd (q : CallQueue) (x : Exchange) (now : Timestamp) (e : Entry) : Entering → Prop
  | full (isFull : q.isFull = true)
      (calm : (x.reject e.task now .overloaded q.recorders).2 = none) :
      PushEnd q x now e
        ⟨q, (x.reject e.task now .overloaded q.recorders).1, [e.task], .ok false⟩
  | fullCrash (c : Crash) (isFull : q.isFull = true)
      (crashes : (x.reject e.task now .overloaded q.recorders).2 = some c) :
      PushEnd q x now e
        ⟨q, (x.reject e.task now .overloaded q.recorders).1, [e.task], .error c⟩
  | new (notFull : q.isFull = false) (isNew : ∀ d ∈ q.waiting, d.number ≠ e.number) :
      PushEnd q x now e ⟨q.append e, x, [], .ok true⟩
  | swap (older : Entry) (notFull : q.isFull = false) (isOlder : q.find? e.number = some older)
      (calm : (x.reject older.task now .duplication q.recorders).2 = none) :
      PushEnd q x now e
        ⟨(q.without e.number).append e, (x.reject older.task now .duplication q.recorders).1,
          [older.task], .ok true⟩
  | swapCrash (older : Entry) (c : Crash) (notFull : q.isFull = false)
      (isOlder : q.find? e.number = some older)
      (crashes : (x.reject older.task now .duplication q.recorders).2 = some c) :
      PushEnd q x now e
        ⟨q.without e.number, (x.reject older.task now .duplication q.recorders).1,
          [older.task, e.task], .error c⟩

lemma push_ends (q : CallQueue) (x : Exchange) (now : Timestamp) (e : Entry) :
    PushEnd q x now e (q.push x now e) := by
  cases hq : q.isFull with
  | true =>
    cases hc : (x.reject e.task now .overloaded q.recorders).2 with
    | none =>
      have : q.push x now e =
          ⟨q, (x.reject e.task now .overloaded q.recorders).1, [e.task], .ok false⟩ := by
        simp only [push, hq, if_true, hc]
      exact this ▸ .full hq hc
    | some c =>
      have : q.push x now e =
          ⟨q, (x.reject e.task now .overloaded q.recorders).1, [e.task], .error c⟩ := by
        simp only [push, hq, if_true, hc]
      exact this ▸ .fullCrash c hq hc
  | false =>
    cases hf : q.find? e.number with
    | none =>
      have : q.push x now e = ⟨q.append e, x, [], .ok true⟩ := by
        simp only [push, hq, hf, Bool.false_eq_true, if_false]
      exact this ▸ .new hq (by simpa [find?] using hf)
    | some older =>
      cases hc : (x.reject older.task now .duplication q.recorders).2 with
      | none =>
        have : q.push x now e =
            ⟨(q.without e.number).append e, (x.reject older.task now .duplication q.recorders).1,
              [older.task], .ok true⟩ := by
          simp only [push, hq, hf, Bool.false_eq_true, if_false, hc]
        exact this ▸ .swap older hq hf hc
      | some c =>
        have : q.push x now e =
            ⟨q.without e.number, (x.reject older.task now .duplication q.recorders).1,
              [older.task, e.task], .error c⟩ := by
          simp only [push, hq, hf, Bool.false_eq_true, if_false, hc]
        exact this ▸ .swapCrash older c hq hf hc

lemma isFull_eq_true {q : CallQueue} : q.isFull = true ↔ q.capacity.toNat ≤ q.size := by
  simp [isFull]

lemma isFull_eq_false {q : CallQueue} : q.isFull = false ↔ q.size < q.capacity.toNat := by
  simp [isFull]

lemma size_without_le (q : CallQueue) (number : String) : (q.without number).size ≤ q.size :=
  List.eraseP_sublist.length_le

lemma find?_of_isNew {q : CallQueue} {number : String} (h : ∀ d ∈ q.waiting, d.number ≠ number) :
    q.find? number = none := by
  apply List.find?_eq_none.2
  simpa using h

lemma without_of_isNew {q : CallQueue} {number : String}
    (h : ∀ d ∈ q.waiting, d.number ≠ number) : q.without number = q := by
  have hw : q.waiting.eraseP (·.number == number) = q.waiting :=
    List.eraseP_of_forall_not (by simpa using h)
  simp only [without, hw]

lemma without_waiting {q : CallQueue} (h : (q.waiting.map Entry.number).Nodup) (number : String) :
    (q.without number).waiting = q.waiting.filter (·.number ≠ number) := by
  rcases q with ⟨waiting, capacity, recorders⟩
  simp only [without] at h ⊢
  induction waiting with
  | nil => rfl
  | cons e es ih =>
    obtain ⟨he, hes⟩ := List.nodup_cons.1 h
    by_cases hn : e.number = number
    · have : es.filter (·.number ≠ number) = es := by
        apply List.filter_eq_self.2
        intro e' he'
        have : e'.number ≠ e.number := fun h => he (h ▸ List.mem_map_of_mem he')
        simpa [← hn] using this
      simpa [hn] using this.symm
    · simpa [hn] using ih hes

lemma push_waiting {q : CallQueue} (x : Exchange) (now : Timestamp) (e : Entry)
    (h : q.isFull = false) :
    (q.push x now e).queue.waiting =
      (q.without e.number).waiting ++ if (q.push x now e).crashed then [] else [e] := by
  have hp := push_ends q x now e
  generalize q.push x now e = r at hp ⊢
  cases hp with
  | full isFull | fullCrash _ isFull => simp [h] at isFull
  | new _ isNew => simp [append, Entering.crashed, without_of_isNew isNew]
  | swap => simp [append, Entering.crashed]
  | swapCrash => simp [Entering.crashed]

lemma push_of_isFull {q : CallQueue} (x : Exchange) (now : Timestamp) (e : Entry)
    (h : q.isFull = true) :
    (q.push x now e).queue = q ∧ (q.push x now e).reply ≠ .ok true := by
  have hp := push_ends q x now e
  generalize q.push x now e = r at hp ⊢
  cases hp with
  | full | fullCrash => simp
  | new notFull | swap _ notFull | swapCrash _ _ notFull => simp [h] at notFull

lemma push_reply_ne_false {q : CallQueue} (x : Exchange) (now : Timestamp) (e : Entry)
    (h : q.isFull = false) : (q.push x now e).reply ≠ .ok false := by
  have hp := push_ends q x now e
  generalize q.push x now e = r at hp ⊢
  cases hp with
  | full isFull | fullCrash _ isFull => simp [h] at isFull
  | new | swap | swapCrash => simp

lemma push_frame (q : CallQueue) (x : Exchange) (now : Timestamp) (e : Entry) :
    (q.push x now e).queue.capacity = q.capacity ∧
      (q.push x now e).queue.recorders = q.recorders := by
  have hp := push_ends q x now e
  generalize q.push x now e = r at hp ⊢
  cases hp <;> exact ⟨rfl, rfl⟩

lemma push_calm {q : CallQueue} (hc : q.recorders.Calm) (x : Exchange) (now : Timestamp)
    (e : Entry) : (q.push x now e).reply = .ok (!q.isFull) := by
  have hp := push_ends q x now e
  generalize q.push x now e = r at hp ⊢
  cases hp with
  | full isFull => simp [isFull]
  | fullCrash c _ crashes => cases crashes.symm.trans (x.reject_calm _ now _ hc)
  | new notFull => simp [notFull]
  | swap older notFull => simp [notFull]
  | swapCrash older c _ _ crashes => cases crashes.symm.trans (x.reject_calm _ now _ hc)

lemma push_left_isEnded {q : CallQueue} (hc : q.recorders.Calm) (x : Exchange) (now : Timestamp)
    (e : Entry) :
    ∀ k ∈ (q.push x now e).left, ∀ t, (q.push x now e).exchange.task? k = some t → t.IsEnded := by
  have hp := push_ends q x now e
  have hcalm := push_calm hc x now e
  generalize q.push x now e = r at hp hcalm ⊢
  intro k hk t ht
  cases hp with
  | full =>
    obtain rfl := List.mem_singleton.1 hk
    exact x.reject_isEnded _ now .overloaded hc ht
  | new => cases hk
  | swap older =>
    obtain rfl := List.mem_singleton.1 hk
    exact x.reject_isEnded _ now .duplication hc ht
  | fullCrash | swapCrash => cases hcalm

lemma push_release_calm {q : CallQueue} (hc : q.recorders.Calm) (x : Exchange) (now : Timestamp)
    (e : Entry) : ((q.push x now e).exchange.releaseAll (q.push x now e).left now).2 = none :=
  (Exchange.releaseAll_of_ended _ (push_left_isEnded hc x now e) now).2

lemma push_reply {q : CallQueue} {x : Exchange} {now : Timestamp} {e : Entry} {b : Bool}
    (h : (q.push x now e).reply = .ok b) : b = !q.isFull := by
  have hp := push_ends q x now e
  generalize q.push x now e = r at hp h
  cases hp with
  | full isFull => exact (Except.ok.inj h) ▸ by simp [isFull]
  | new notFull => exact (Except.ok.inj h) ▸ by simp [notFull]
  | swap older notFull => exact (Except.ok.inj h) ▸ by simp [notFull]
  | fullCrash | swapCrash => cases h

lemma push_size {q : CallQueue} {x : Exchange} {now : Timestamp} {e : Entry}
    (h : (q.push x now e).reply = .ok true) :
    (q.push x now e).queue.size ≤ (q.push x now e).queue.capacity.toNat := by
  have hopen : q.isFull = false := by simpa using (push_reply h).symm
  have hw := push_waiting x now e hopen
  have hlt := isFull_eq_false.1 hopen
  have hle := size_without_le q e.number
  rw [(push_frame q x now e).1, size, hw]
  simp only [size, Entering.crashed, h, List.length_append] at hlt hle ⊢
  simp only [Bool.false_eq_true, if_false, List.length_singleton]
  omega

end Switchboard.CallQueue
