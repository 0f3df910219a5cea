import Mathlib.Data.List.Nodup
import Switchboard.Floor

/-! The calls on a floor: those that wait, queue by queue, and those that operators are on. What is
done to one queue and one pool changes only the calls that are there. -/

namespace Switchboard

inductive Whereabouts
  | waiting (queue : Nat)
  | onLine (recorders : RecorderSet)

structure Presence where
  entry : Entry
  place : Whereabouts

def Presence.task (c : Presence) : Nat := c.entry.task

def Operator.call? (o : Operator) : Option Presence :=
  match o.stance with
  | .serving e set _ => some ⟨e, .onLine set⟩
  | _ => none

def Pool.calls (p : Pool) : List Presence := p.operators.filterMap (·.call?)

namespace Floor

open scoped List

def waitingIn (f : Floor) (q : Nat) : List Presence :=
  match f.queue? q with
  | none => []
  | some queue => queue.waiting.map (⟨·, .waiting q⟩)

def onLineIn (f : Floor) (p : Nat) : List Presence :=
  match f.pool? p with
  | none => []
  | some pool => pool.calls

def calls (f : Floor) : List Presence :=
  (List.range f.queues.length).flatMap f.waitingIn ++
    (List.range f.pools.length).flatMap f.onLineIn

lemma mem_waitingIn {f : Floor} {q : Nat} {c : Presence} :
    c ∈ f.waitingIn q ↔
      c.place = .waiting q ∧ ∃ queue, f.queue? q = some queue ∧ c.entry ∈ queue.waiting := by
  rw [waitingIn]
  cases f.queue? q with
  | none => simp
  | some queue =>
    obtain ⟨e, place⟩ := c
    simp [eq_comm, and_comm]

lemma mem_onLineIn {f : Floor} {p : Nat} {c : Presence} :
    c ∈ f.onLineIn p ↔ ∃ pool, f.pool? p = some pool ∧ c ∈ pool.calls := by
  rw [onLineIn]
  cases f.pool? p <;> simp

lemma onLine_of_mem {pool : Pool} {c : Presence} (h : c ∈ pool.calls) :
    ∃ set, c.place = .onLine set := by
  obtain ⟨⟨id, stance⟩, -, ho⟩ := List.mem_filterMap.1 h
  cases stance with
  | serving e set since => exact ⟨set, congrArg Presence.place (Option.some.inj ho).symm⟩
  | _ => cases ho

lemma queue_of_mem {f : Floor} {c : Presence} (h : c ∈ f.calls) {q : Nat}
    (hq : c.place = .waiting q) : ∃ queue, f.queue? q = some queue ∧ c.entry ∈ queue.waiting := by
  rcases List.mem_append.1 h with h | h
  · obtain ⟨j, -, hj⟩ := List.mem_flatMap.1 h
    obtain ⟨hw, hm⟩ := mem_waitingIn.1 hj
    obtain rfl : j = q := by simpa [hw] using hq
    exact hm
  · obtain ⟨p, -, hp⟩ := List.mem_flatMap.1 h
    obtain ⟨pool, -, hc⟩ := mem_onLineIn.1 hp
    obtain ⟨set, hs⟩ := onLine_of_mem hc
    simp [hs] at hq

lemma pool_of_mem {f : Floor} {c : Presence} (h : c ∈ f.calls) {set : RecorderSet}
    (hs : c.place = .onLine set) : ∃ p pool, f.pool? p = some pool ∧ c ∈ pool.calls := by
  rcases List.mem_append.1 h with h | h
  · obtain ⟨j, -, hj⟩ := List.mem_flatMap.1 h
    obtain ⟨hw, -⟩ := mem_waitingIn.1 hj
    simp [hw] at hs
  · obtain ⟨p, -, hp⟩ := List.mem_flatMap.1 h
    exact ⟨p, mem_onLineIn.1 hp⟩

section Frame

variable {α : Type}

lemma flatMap_range_of_le {g : Nat → List α} {m n : Nat} (hmn : m ≤ n)
    (h : ∀ i, m ≤ i → g i = []) : (List.range n).flatMap g = (List.range m).flatMap g := by
  induction hmn with
  | refl => rfl
  | step hn ih => simp [List.range_succ, ih, h _ hn]

lemma waitingIn_of_length_le {f : Floor} {q : Nat} (h : f.queues.length ≤ q) :
    f.waitingIn q = [] := by
  simp [waitingIn, queue?, h]

lemma onLineIn_of_length_le {f : Floor} {p : Nat} (h : f.pools.length ≤ p) :
    f.onLineIn p = [] := by
  simp [onLineIn, pool?, h]

lemma calls_eq (f : Floor) {m n : Nat} (hm : f.queues.length ≤ m) (hn : f.pools.length ≤ n) :
    f.calls = (List.range m).flatMap f.waitingIn ++ (List.range n).flatMap f.onLineIn := by
  rw [calls, flatMap_range_of_le hm fun _ => waitingIn_of_length_le,
    flatMap_range_of_le hn fun _ => onLineIn_of_length_le]

lemma calls_congr {f f' : Floor} (hq : ∀ q, f'.waitingIn q = f.waitingIn q)
    (hp : ∀ p, f'.onLineIn p = f.onLineIn p) : f'.calls = f.calls := by
  rw [f.calls_eq (Nat.le_max_left _ f'.queues.length) (Nat.le_max_left _ f'.pools.length),
    f'.calls_eq (Nat.le_max_right f.queues.length _) (Nat.le_max_right f.pools.length _),
    funext hq, funext hp]

lemma perm_flatMap_range {g g' : Nat → List α} {i n : Nat} (hi : i < n)
    (h : ∀ j ≠ i, g' j = g j) :
    ∃ rest, ((List.range n).flatMap g).Perm (g i ++ rest) ∧
      ((List.range n).flatMap g').Perm (g' i ++ rest) := by
  have hp : (List.range n).Perm (i :: (List.range n).erase i) :=
    List.perm_cons_erase (List.mem_range.2 hi)
  refine ⟨((List.range n).erase i).flatMap g, hp.flatMap_right g, ?_⟩
  have he : ((List.range n).erase i).flatMap g' = ((List.range n).erase i).flatMap g := by
    apply List.flatMap_congr
    intro j hj
    apply h
    rintro rfl
    exact List.nodup_range.not_mem_erase hj
  exact he ▸ hp.flatMap_right g'

lemma calls_split {f f' : Floor} (q p : Nat) (hq : ∀ j ≠ q, f'.waitingIn j = f.waitingIn j)
    (hp : ∀ j ≠ p, f'.onLineIn j = f.onLineIn j) :
    ∃ rest, f.calls.Perm (f.waitingIn q ++ f.onLineIn p ++ rest) ∧
      f'.calls.Perm (f'.waitingIn q ++ f'.onLineIn p ++ rest) := by
  obtain ⟨m, hqm, hm, hm'⟩ : ∃ m, q < m ∧ f.queues.length ≤ m ∧ f'.queues.length ≤ m :=
    ⟨q + 1 + f.queues.length + f'.queues.length, by omega, by omega, by omega⟩
  obtain ⟨n, hpn, hn, hn'⟩ : ∃ n, p < n ∧ f.pools.length ≤ n ∧ f'.pools.length ≤ n :=
    ⟨p + 1 + f.pools.length + f'.pools.length, by omega, by omega, by omega⟩
  obtain ⟨w, hw, hw'⟩ := perm_flatMap_range hqm hq
  obtain ⟨o, ho, ho'⟩ := perm_flatMap_range hpn hp
  have swap (a b : List Presence) : (a ++ w ++ (b ++ o)).Perm (a ++ b ++ (w ++ o)) := by
    simp only [List.append_assoc]
    apply List.Perm.append_left a
    simp only [← List.append_assoc]
    exact List.Perm.append_right o List.perm_append_comm
  refine ⟨w ++ o, ?_, ?_⟩
  · rw [f.calls_eq hm hn]
    exact (hw.append ho).trans (swap _ _)
  · rw [f'.calls_eq hm' hn']
    exact (hw'.append ho').trans (swap _ _)

lemma calls_exchange {f f' : Floor} {came gone : List Presence} (q p : Nat)
    (hq : ∀ j ≠ q, f'.waitingIn j = f.waitingIn j) (hp : ∀ j ≠ p, f'.onLineIn j = f.onLineIn j)
    (h : (f.waitingIn q ++ f.onLineIn p ++ came).Perm
      (gone ++ (f'.waitingIn q ++ f'.onLineIn p))) :
    (f.calls ++ came).Perm (gone ++ f'.calls) := by
  obtain ⟨rest, hc, hc'⟩ := calls_split q p hq hp
  calc f.calls ++ came
    _ ~ f.waitingIn q ++ f.onLineIn p ++ rest ++ came := hc.append_right came
    _ ~ f.waitingIn q ++ f.onLineIn p ++ came ++ rest := by
        simpa only [List.append_assoc] using (List.perm_append_comm.append_left _).append_left _
    _ ~ gone ++ (f'.waitingIn q ++ f'.onLineIn p) ++ rest := h.append_right rest
    _ ~ gone ++ f'.calls := by simpa only [List.append_assoc] using hc'.symm.append_left gone

lemma calls_exchange_queue {f f' : Floor} {came gone : List Presence} (q : Nat)
    (hq : ∀ j ≠ q, f'.waitingIn j = f.waitingIn j) (hp : ∀ p, f'.onLineIn p = f.onLineIn p)
    (h : (f.waitingIn q ++ came).Perm (gone ++ f'.waitingIn q)) :
    (f.calls ++ came).Perm (gone ++ f'.calls) := by
  apply calls_exchange q 0 hq fun j _ => hp j
  rw [hp 0]
  calc f.waitingIn q ++ f.onLineIn 0 ++ came
    _ ~ f.waitingIn q ++ came ++ f.onLineIn 0 := by
        simpa only [List.append_assoc] using List.perm_append_comm.append_left (f.waitingIn q)
    _ ~ gone ++ (f'.waitingIn q ++ f.onLineIn 0) := by
        simpa only [List.append_assoc] using h.append_right (f.onLineIn 0)

end Frame

section Parts

variable {f : Floor} {p q : Nat} {pool : Pool} {queue : CallQueue}

lemma pool_lt (h : f.pool? p = some pool) : p < f.pools.length := by
  by_contra hp
  simp [pool?, List.getElem?_eq_none (Nat.not_lt.1 hp)] at h

lemma queue_lt (h : f.queue? q = some queue) : q < f.queues.length := by
  by_contra hq
  simp [queue?, List.getElem?_eq_none (Nat.not_lt.1 hq)] at h

lemma join_getElem?_set {α : Type} {l : List (Option α)} {i : Nat} (hi : i < l.length)
    (a : Option α) (j : Nat) : ((l.set i a)[j]?).join = if j = i then a else (l[j]?).join := by
  by_cases hj : j = i
  · simp [hj, hi]
  · simp [hj, List.getElem?_set_ne (Ne.symm hj)]

lemma pool?_setPool (h : f.pool? p = some pool) (pool' : Pool) (j : Nat) :
    (f.setPool p pool').pool? j = if j = p then some pool' else f.pool? j :=
  join_getElem?_set (pool_lt h) _ j

lemma queue?_setQueue (h : f.queue? q = some queue) (queue' : CallQueue) (j : Nat) :
    (f.setQueue q queue').queue? j = if j = q then some queue' else f.queue? j :=
  join_getElem?_set (queue_lt h) _ j

lemma modifyPool_of_some (h : f.pool? p = some pool) (g : Pool → Pool) :
    f.modifyPool p g = f.setPool p (g pool) := by
  simp [modifyPool, h]

lemma modifyPool_of_none (h : f.pool? p = none) (g : Pool → Pool) : f.modifyPool p g = f := by
  simp [modifyPool, h]

lemma modifyQueue_of_some (h : f.queue? q = some queue) (g : CallQueue → CallQueue) :
    f.modifyQueue q g = f.setQueue q (g queue) := by
  simp [modifyQueue, h]

lemma modifyQueue_of_none (h : f.queue? q = none) (g : CallQueue → CallQueue) :
    f.modifyQueue q g = f := by
  simp [modifyQueue, h]

lemma onLineIn_setPool (h : f.pool? p = some pool) (pool' : Pool) (j : Nat) :
    (f.setPool p pool').onLineIn j = if j = p then pool'.calls else f.onLineIn j := by
  rw [onLineIn, onLineIn, pool?_setPool h]
  by_cases hj : j = p <;> simp [hj]

lemma waitingIn_setQueue (h : f.queue? q = some queue) (queue' : CallQueue) (j : Nat) :
    (f.setQueue q queue').waitingIn j =
      if j = q then queue'.waiting.map (⟨·, .waiting q⟩) else f.waitingIn j := by
  rw [waitingIn, waitingIn, queue?_setQueue h]
  by_cases hj : j = q <;> simp [hj]

lemma onLineIn_of_pool? (h : f.pool? p = some pool) : f.onLineIn p = pool.calls := by
  simp [onLineIn, h]

lemma waitingIn_of_queue? (h : f.queue? q = some queue) :
    f.waitingIn q = queue.waiting.map (⟨·, .waiting q⟩) := by
  simp [waitingIn, h]

lemma calls_setPool (h : f.pool? p = some pool) {pool' : Pool} (hc : pool'.calls = pool.calls) :
    (f.setPool p pool').calls = f.calls := by
  refine calls_congr (fun _ => rfl) ?_
  intro j
  rw [onLineIn_setPool h]
  split
  · rw [hc, ‹j = p›, onLineIn_of_pool? h]
  · rfl

lemma calls_modifyPool (f : Floor) (p : Nat) {g : Pool → Pool}
    (hg : ∀ pool : Pool, (g pool).calls = pool.calls) : (f.modifyPool p g).calls = f.calls := by
  cases h : f.pool? p with
  | none => rw [modifyPool_of_none h]
  | some pool => rw [modifyPool_of_some h, calls_setPool h (hg pool)]

lemma calls_modifyQueue (f : Floor) (q : Nat) {g : CallQueue → CallQueue}
    (hg : ∀ queue : CallQueue, (g queue).waiting = queue.waiting) :
    (f.modifyQueue q g).calls = f.calls := by
  cases h : f.queue? q with
  | none => rw [modifyQueue_of_none h]
  | some queue =>
    rw [modifyQueue_of_some h]
    refine calls_congr (fun j => ?_) fun _ => rfl
    rw [waitingIn_setQueue h, hg queue]
    split
    · rw [‹j = q›, waitingIn_of_queue? h]
    · rfl

end Parts

end Floor

section Pool

variable {α β : Type}

lemma filterMap_modify {g : α → α} {k : α → Option β} {l : List α} {i : Nat}
    (h : ∀ a ∈ l[i]?, k (g a) = k a) : (l.modify i g).filterMap k = l.filterMap k := by
  induction l generalizing i with
  | nil => simp
  | cons a l ih =>
    cases i with
    | zero => simp [List.filterMap_cons, h a (by simp)]
    | succ i => simp [List.filterMap_cons, ih (i := i) (by simpa using h)]

lemma perm_filterMap_modify {l : List α} {i : Nat} {a : α} (hi : l[i]? = some a) (g : α → α)
    (k : α → Option β) :
    ∃ rest, (l.filterMap k).Perm ((k a).toList ++ rest) ∧
      ((l.modify i g).filterMap k).Perm ((k (g a)).toList ++ rest) := by
  induction l generalizing i with
  | nil => simp at hi
  | cons b l ih =>
    cases i with
    | zero =>
      obtain rfl : b = a := by simpa using hi
      refine ⟨l.filterMap k, ?_, ?_⟩
      · cases h : k b <;> simp [h]
      · cases h : k (g b) <;> simp [h]
    | succ i =>
      obtain ⟨rest, h, h'⟩ := ih (i := i) (by simpa using hi)
      have swap (c : Option β) : ((k b).toList ++ (c.toList ++ rest)).Perm
          (c.toList ++ ((k b).toList ++ rest)) := by
        simpa only [← List.append_assoc] using List.perm_append_comm.append_right rest
      have cons (m : List α) : (b :: m).filterMap k = (k b).toList ++ m.filterMap k := by
        cases hb : k b <;> simp [hb]
      refine ⟨(k b).toList ++ rest, ?_, ?_⟩
      · rw [cons]
        exact (h.append_left _).trans (swap _)
      · rw [List.modify_succ_cons, cons]
        exact (h'.append_left _).trans (swap _)

end Pool

namespace Pool

variable {p : Pool}

lemma call?_wake (o : Operator) : o.wake.call? = o.call? := by
  obtain ⟨id, stance⟩ := o
  cases stance <;> simp [Operator.wake, Operator.isParked, Operator.call?]

@[simp] lemma calls_wakeOne (p : Pool) : p.wakeOne.calls = p.calls :=
  filterMap_modify fun o _ => call?_wake o

@[simp] lemma calls_wakeAll (p : Pool) : p.wakeAll.calls = p.calls := by
  simp [calls, wakeAll, List.filterMap_map, call?_wake]

@[simp] lemma calls_close (p : Pool) : p.close.calls = p.calls :=
  calls_wakeAll { p with closing := true }

lemma calls_revive (p : Pool) (next : Nat) : (p.revive next).calls = p.calls := by
  have hc (a : Operator × Nat) :
      Operator.call? (if a.1.isGone then ⟨UInt64.ofNat (next + a.2), .awake⟩ else a.1) =
        a.1.call? := by
    obtain ⟨⟨id, stance⟩, i⟩ := a
    cases stance <;> simp [Operator.isGone, Operator.call?]
  calc (p.revive next).calls
    _ = p.operators.zipIdx.filterMap (·.1.call?) := by
        simp only [calls, revive, List.mapIdx_eq_zipIdx_map, List.filterMap_map]
        exact List.filterMap_congr fun a _ => hc a
    _ = (p.operators.zipIdx.map Prod.fst).filterMap (·.call?) := by
        rw [List.filterMap_map]
        rfl
    _ = p.calls := by rw [List.zipIdx_map_fst, calls]

lemma calls_setStance_of_none {i : Nat} {o : Operator} (hi : p.operators[i]? = some o)
    (ho : o.call? = none) {s : Stance} (hs : Operator.call? ⟨o.id, s⟩ = none) :
    (p.setStance i s).calls = p.calls := by
  apply filterMap_modify
  intro a ha
  obtain rfl : o = a := by simpa [hi] using ha
  exact hs.trans ho.symm

lemma calls_setStance {i : Nat} {o : Operator} (hi : p.operators[i]? = some o) (s : Stance) :
    ∃ rest, p.calls.Perm (o.call?.toList ++ rest) ∧
      (p.setStance i s).calls.Perm ((Operator.call? ⟨o.id, s⟩).toList ++ rest) :=
  perm_filterMap_modify hi _ _

end Pool

end Switchboard
