import Switchboard.Proofs.Floor.Refusals
import Switchboard.Proofs.Floor.Waiting

/-! The identifiers that a pool gives to calls. Those in its queue rise as long as nobody else draws
from its source of identifiers or brings calls to its queue. -/

namespace Switchboard.Floor

open scoped List

structure RisesTo (f : Floor) (q n : Nat) : Prop where
  rises : (f.waitingIn q).Pairwise fun c d => c.entry.id < d.entry.id
  bounded : ∀ c ∈ f.waitingIn q, c.entry.id.toNat ≤ n

def leavesAlone (f : Floor) (p : Nat) : Deed → Bool
  | .bring j .. =>
    match f.pool? j, f.pool? p with
    | some other, some pool =>
      other.ids != pool.ids && (other.queue.isNone || other.queue != pool.queue)
    | _, _ => true
  | .transfer j _ _ => j != p
  | .close j => j != p
  | _ => true

structure Numbers (f : Floor) (p g n : Nat) : Prop where
  pool : ∃ pool, f.pool? p = some pool ∧ pool.ids = g ∧ pool.closing = false ∧
    ∀ q, pool.queue = some q → f.RisesTo q n
  source : f.idSources[g]? = some (UInt64.ofNat (n + 1))

variable {f f' : Floor} {p q g n j : Nat} {pool : Pool} {deed : Deed}

lemma RisesTo.sublist (h : f.RisesTo q n) (hw : f'.waitingIn q <+ f.waitingIn q) :
    f'.RisesTo q n :=
  ⟨h.rises.sublist hw, fun c hc => h.bounded c (hw.subset hc)⟩

lemma risesTo_of_nil (h : f.waitingIn q = []) (n : Nat) : f.RisesTo q n := by
  constructor
  · rw [h]
    exact List.Pairwise.nil
  · simp [h]

lemma RisesTo.joins (h : f.RisesTo q n) {e : Entry} (joins : f.Joins f' p pool q e)
    (hid : e.id.toNat = n + 1) : f'.RisesTo q (n + 1) := by
  constructor
  · apply List.Pairwise.sublist joins.waiting
    refine List.pairwise_append.2 ⟨h.rises, List.pairwise_singleton .., ?_⟩
    intro c hc d hd
    obtain rfl : d = ⟨e, .waiting q⟩ := List.mem_singleton.1 hd
    rw [UInt64.lt_iff_toNat_lt, hid]
    exact Nat.lt_succ_of_le (h.bounded c hc)
  · intro c hc
    rcases List.mem_append.1 (joins.waiting.subset hc) with hc | hc
    · exact Nat.le_succ_of_le (h.bounded c hc)
    · obtain rfl : c = ⟨e, .waiting q⟩ := List.mem_singleton.1 hc
      exact Nat.le_of_eq hid

namespace Numbers

lemma undisturbed (h : f.Numbers p g n) (hd : f.leavesAlone p deed = true) :
    (∀ q, (∃ pool, f.pool? p = some pool ∧ pool.queue = some q) →
      (f.act deed).waitingIn q <+ f.waitingIn q) ∧
      (f.act deed).idSources[g]? = some (UInt64.ofNat (n + 1)) := by
  by_cases hb : ∃ j bounds number start taken now, deed = .bring j bounds number start taken now
  · obtain ⟨j, bounds, number, start, taken, now, rfl⟩ := hb
    cases hdoor : f.door? j with
    | none =>
      have ht := thins_bring bounds number start taken now hdoor
      exact ⟨fun q _ => ht.waiting q, ht.ids g _ h.source⟩
    | some door =>
      obtain ⟨k, id⟩ := door
      obtain ⟨other, queue, hj, hk, hqueue, -⟩ := door?_of_some hdoor
      have joins := joins_bring bounds number start taken now hj hk hqueue
      obtain ⟨pool, hp, rfl, -, -⟩ := h.pool
      simp only [leavesAlone, hj, hp, hk, Option.isNone_some, Bool.false_or, Bool.and_eq_true,
        bne_iff_ne, ne_eq] at hd
      obtain ⟨hids, hqueues⟩ := hd
      refine ⟨?_, ?_⟩
      · rintro q ⟨pool', hp', hq⟩
        obtain rfl := Option.some.inj (hp.symm.trans hp')
        have hne : q ≠ k := fun he => hqueues (he ▸ hq.symm)
        exact (joins.others q hne) ▸ List.Sublist.refl _
      · have hi := joins.ids
        rw [act, hi, List.getElem?_set_ne hids]
        exact h.source
  · have ht : f.Thins (f.act deed) := by
      apply f.thins_act
      intro j bounds number start taken now he
      exact hb ⟨j, bounds, number, start, taken, now, he⟩
    exact ⟨fun q _ => ht.waiting q, ht.ids g _ h.source⟩

theorem act (h : f.Numbers p g n) (deed : Deed) (hd : f.leavesAlone p deed = true) :
    (f.act deed).Numbers p g n := by
  obtain ⟨hwaiting, hsource⟩ := h.undisturbed hd
  obtain ⟨pool, hp, hids, hopen, hrises⟩ := h.pool
  have turn := f.turn_act p deed
  rw [hp] at turn
  generalize hafter : (f.act deed).pool? p = after at turn
  have hrises' : ∀ q, pool.queue = some q → (f.act deed).RisesTo q n := fun q hq =>
    (hrises q hq).sublist (hwaiting q ⟨pool, hp, hq⟩)
  have hempty (capacity : UInt64) (now : Timestamp) (he : deed = .replaceQueue p capacity now)
      (q : Nat) (hq : some f.queues.length = some q) : (f.act deed).RisesTo q n := by
    obtain rfl := Option.some.inj hq
    rw [he]
    exact risesTo_of_nil (f.waitingIn_replaceQueue p capacity now) n
  cases turn with
  | rests | begun | stopped | equipped | called | revived | woken | worked =>
    exact ⟨⟨_, hafter, hids, hopen, hrises'⟩, hsource⟩
  | succeeds | closed => simp [leavesAlone] at hd
  | rehoused capacity now | rehousedAwake capacity now =>
    exact ⟨⟨_, hafter, hids, hopen, hempty capacity now rfl⟩, hsource⟩
  | dismissed now _ closing => cases closing.symm.trans hopen

section Bring

variable (bounds : ServiceBounds) (number : String) (start : Timestamp) (now : Timestamp)

lemma of_thins (h : f.Numbers p g n) (ht : f.Thins f') (hp : f'.pool? p = f.pool? p) :
    f'.Numbers p g n := by
  obtain ⟨pool, hpool, hids, hopen, hrises⟩ := h.pool
  refine ⟨⟨pool, hp.trans hpool, hids, hopen, ?_⟩, ht.ids g _ h.source⟩
  intro q hq
  exact (hrises q hq).sublist (ht.waiting q)

lemma bring_of_no_door (h : f.Numbers p g n) (hd : f.door? p = none) (taken : Bool) :
    (f.bring p bounds number start taken now).1.Numbers p g n := by
  apply h.of_thins (thins_bring bounds number start taken now hd)
  rw [Floor.bring_of_no_door bounds number start now hd]
  rfl

lemma id_of_door (h : f.Numbers p g n) {id : CallId} (hd : f.door? p = some (q, id)) :
    id = UInt64.ofNat (n + 1) := by
  obtain ⟨pool, hp, hids, -, -⟩ := h.pool
  obtain ⟨pool', -, hp', -, -, rfl⟩ := door?_of_some hd
  obtain rfl := Option.some.inj (hp.symm.trans hp')
  simp only [nextId, hids, h.source, Option.getD_some]

theorem bring (h : f.Numbers p g n) {id : CallId} (hd : f.door? p = some (q, id))
    (hn : n + 1 < UInt64.size) (taken : Bool) :
    (f.bring p bounds number start taken now).1.Numbers p g (n + 1) := by
  obtain ⟨pool, hp, hids, hopen, hrises⟩ := h.pool
  obtain ⟨pool', queue, hp', hq, hqueue, hid⟩ := door?_of_some hd
  obtain rfl := Option.some.inj (hp.symm.trans hp')
  have joins := joins_bring bounds number start taken now hp hq hqueue
  rw [← hid, h.id_of_door hd] at joins
  have hrises' := (hrises q hq).joins joins (UInt64.toNat_ofNat_of_lt' hn)
  refine ⟨?_, ?_⟩
  · have turn := turn_bring bounds number start taken now f p p
    rw [hp] at turn
    generalize hafter : (f.bring p bounds number start taken now).1.pool? p = after at turn
    have hown (k : Nat) (hk : pool.queue = some k) :
        (f.bring p bounds number start taken now).1.RisesTo k (n + 1) := by
      obtain rfl := Option.some.inj (hq.symm.trans hk)
      exact hrises'
    cases turn with
    | rests | called => exact ⟨_, rfl, hids, hopen, hown⟩
  · obtain ⟨hlt, -⟩ := List.getElem?_eq_some_iff.1 h.source
    rw [joins.ids, hids, List.getElem?_set_self hlt]
    exact congrArg some (UInt64.ofNat_add (n + 1) 1).symm

end Bring

lemma poolAround (h : f.Numbers p g n) (first : CallId) (size : Nat) (queue : Option Nat)
    (set : RecorderSet) :
    ((f.newIds first).2.poolAround size queue set f.idSources.length).2.Numbers p g n := by
  obtain ⟨pool, hp, -⟩ := h.pool
  apply h.of_thins (.poolAround f first size queue set)
  rw [pool?_poolAround]
  exact if_neg (Nat.ne_of_lt (pool_lt hp))

lemma takeOver (h : f.Numbers p g n) (hj : f.pool? j = some pool) (hopen : pool.closing = false)
    (now : Timestamp) (hcalm : (f.transfer j p now).2 = none) :
    (f.transfer j p now).1.Numbers j g n := by
  obtain ⟨other, hp, hids, -, hrises⟩ := h.pool
  have ht := Thins.transfer f j p now
  refine ⟨⟨_, (pool?_transfer hj hp now j).trans (if_pos rfl), ?_, ?_, ?_⟩, ht.ids g _ h.source⟩
  · rw [hcalm]
    exact hids
  · rw [hcalm]
    exact hopen
  · intro q hq
    rw [hcalm] at hq
    exact (hrises q hq).sublist (ht.waiting q)

lemma start (h : f.Numbers p g n) (j : Nat) : (f.start j).Numbers p g n := by
  rw [Floor.start]
  dsimp only
  split
  · exact ((h.act (.beginStart j) rfl).act (.revive j) rfl).act (.wakeAll j) rfl
  · exact h.act (.beginStart j) rfl

end Numbers

lemma refuse_fresh (f : Floor) (promise : PromiseId) (bounds : ServiceBounds) (number : String)
    (start : Timestamp) (taken : Bool) (now : Timestamp) (e : DispatchError) :
    (({ f with exchange := f.exchange.welcome (.newcomer promise bounds number start taken) } :
      Floor).refuse f.exchange.tasks.length now e).2 = .ok (.error e) :=
  congrArg Prod.snd (refuse_enter (f.newTask bounds number start).2
    (.newcomer promise bounds number start taken) now e rfl)

theorem bring_without_queue (f : Floor) (p : Nat) (hd : f.door? p = none) (bounds : ServiceBounds)
    (number : String) (start : Timestamp) (taken : Bool) (now : Timestamp) :
    (f.bring p bounds number start taken now).2 = .ok (.error .queueNotInstalled) ∧
      (f.bring p bounds number start taken now).1.idSources = f.idSources := by
  refine ⟨?_, by rw [bring_of_no_door bounds number start now hd]⟩
  have hrefuse := refuse_fresh f f.exchange.promises bounds number start taken now
    .queueNotInstalled
  rw [bring_eq]
  rw [door?] at hd
  cases hp : f.pool? p with
  | none => exact hrefuse
  | some pool =>
    simp only [hp] at hd ⊢
    cases hq : pool.queue with
    | none => exact hrefuse
    | some q =>
      cases hqueue : f.queueOf? pool with
      | none => exact hrefuse
      | some queue => simp [hq, hqueue] at hd

end Switchboard.Floor
