import Mathlib.Data.List.Nodup
import Switchboard.Proofs.Task.Promises

/-! The futures of a task. Each promise gives its future away once, and when the task is dropped
every future has got what its promise was owed, or word that nothing will come. -/

namespace Switchboard

namespace Desk

structure Hands (d : Desk) (t : Task) : Prop where
  known : ∀ f ∈ d.futures, ∃ q < d.promises, f = some (.of q)
  nodup : d.futures.Nodup
  place_lt : ∀ p, t.promise = some p → p.id < d.promises
  untaken : ∀ p, t.promise = some p → p.taken = false → some (.of p.id) ∉ d.futures

namespace Hands

variable {d d' : Desk} {t t' : Task} {q : PromiseId}

lemma fresh_not_mem (h : d.Hands t) : some (.of d.promises) ∉ d.futures := by
  intro hm
  obtain ⟨q, hq, heq⟩ := h.known _ hm
  obtain rfl : d.promises = q := by simpa [CallFuture.of] using heq
  exact Nat.lt_irrefl _ hq

lemma same (h : d.Hands t) (hfutures : d'.futures = d.futures)
    (hpromises : d.promises ≤ d'.promises)
    (hplace : ∀ p, t'.promise = some p →
      t.promise = some p ∨ p.id = d.promises ∧ d.promises < d'.promises) : d'.Hands t' where
  known f hf := by
    obtain ⟨q, hq, rfl⟩ := h.known f (hfutures ▸ hf)
    exact ⟨q, Nat.lt_of_lt_of_le hq hpromises, rfl⟩
  nodup := hfutures ▸ h.nodup
  place_lt p hp := by
    rcases hplace p hp with hp | ⟨hid, hlt⟩
    · exact Nat.lt_of_lt_of_le (h.place_lt p hp) hpromises
    · exact hid ▸ hlt
  untaken p hp htaken := by
    rw [hfutures]
    rcases hplace p hp with hp | ⟨hid, -⟩
    · exact h.untaken p hp htaken
    · exact hid ▸ h.fresh_not_mem

lemma more (h : d.Hands t) (hq : some (.of q) ∉ d.futures) (hlt : q < d'.promises)
    (hpromises : d.promises ≤ d'.promises) (hfutures : d'.futures = d.futures ++ [some (.of q)])
    (hplace : ∀ p, t'.promise = some p → p.id < d'.promises)
    (huntaken : ∀ p, t'.promise = some p → p.taken = false →
      p.id ≠ q ∧ some (.of p.id) ∉ d.futures) : d'.Hands t' where
  known f hf := by
    rw [hfutures, List.mem_append, List.mem_singleton] at hf
    rcases hf with hf | rfl
    · obtain ⟨p, hp, rfl⟩ := h.known f hf
      exact ⟨p, Nat.lt_of_lt_of_le hp hpromises, rfl⟩
    · exact ⟨q, hlt, rfl⟩
  nodup := by
    rw [hfutures, List.nodup_append]
    refine ⟨h.nodup, List.nodup_singleton _, ?_⟩
    rintro f hf _ hm rfl
    exact hq (List.mem_singleton.1 hm ▸ hf)
  place_lt := hplace
  untaken p hp htaken hm := by
    obtain ⟨hne, hnot⟩ := huntaken p hp htaken
    rw [hfutures, List.mem_append, List.mem_singleton] at hm
    rcases hm with hm | hm
    · exact hnot hm
    · exact hne (by simpa [CallFuture.of] using hm)

lemma takeFuture (h : d.Hands t) (ht : d.task = some t) :
    (d.act .takeFuture).Hands t.takeFuture.1 := by
  rw [act_eq ht]
  by_cases hin : ∃ p, t.promise = some p ∧ p.taken = false
  · obtain ⟨p, hp, htaken⟩ := hin
    have hgiven : t.takeFuture = ({ t with promise := some ⟨p.id, true⟩ }, some (.of p.id)) := by
      simp [Task.takeFuture, Promise.takeFuture, hp, htaken]
    have hlt := h.place_lt p hp
    refine h.more (h.untaken p hp htaken) ?_ ?_ ?_ ?_ ?_
    · exact hlt
    · exact Nat.le_refl _
    · simp [Deed.future?, hgiven]
    · intro p' hp'
      rw [hgiven] at hp'
      obtain rfl := Option.some.inj hp'
      exact hlt
    · simp [hgiven]
  · have hsame : t.takeFuture.1.promise = t.promise ∧ t.takeFuture.2 = none := by
      cases hp : t.promise with
      | none => simp [Task.takeFuture, hp]
      | some p =>
        have htaken : p.taken = true := by
          by_contra hne
          exact hin ⟨p, hp, Bool.eq_false_iff.2 hne⟩
        simp [Task.takeFuture, Promise.takeFuture, hp, htaken]
    refine h.same ?_ ?_ ?_
    · simp [Deed.future?, hsame.2]
    · exact Nat.le_refl _
    · exact fun p hp => .inl (hsame.1 ▸ hp)

lemma attach (h : d.Hands t) (ht : d.task = some t) (asked : Nat) :
    (d.act (.attach asked)).Hands ((Deed.attach asked).undergo d.promises t).1 := by
  rw [act_eq ht]
  have hle : d.promises ≤ d.promises + 1 := Nat.le_succ _
  have hplace (p : Promise) (hp : ((Deed.attach asked).undergo d.promises t).1.promise = some p) :
      t.promise = some p ∨ p = ⟨d.promises, 0 < asked⟩ := by
    obtain ⟨-, -, -, hafter⟩ | ⟨old, -, -, -, -, -, hafter⟩ := Ledger.attach_cases d t asked
    · rw [hafter] at hp
      exact .inl hp
    · rw [hafter] at hp
      exact .inr (Option.some.inj hp).symm
  by_cases hasked : 0 < asked
  · refine h.more h.fresh_not_mem ?_ ?_ ?_ ?_ ?_
    · exact Nat.lt_succ_self _
    · exact hle
    · simp [Deed.future?, hasked]
    · intro p hp
      rcases hplace p hp with hp | rfl
      · exact Nat.lt_of_lt_of_le (h.place_lt p hp) hle
      · exact Nat.lt_succ_self _
    · intro p hp htaken
      rcases hplace p hp with hp | rfl
      · exact ⟨Nat.ne_of_lt (h.place_lt p hp), h.untaken p hp htaken⟩
      · simp [hasked] at htaken
  · refine h.same ?_ ?_ ?_
    · simp [Deed.future?, hasked]
    · exact hle
    · intro p hp
      exact (hplace p hp).imp_right fun heq => ⟨by rw [heq], Nat.lt_succ_self _⟩

lemma act (h : d.Hands t) (ht : d.task = some t) {deed : Deed} (hc : deed.Calm) :
    (d.act deed).Hands (deed.undergo d.promises t).1 := by
  by_cases htake : deed = .takeFuture
  · exact htake ▸ h.takeFuture ht
  by_cases hattach : ∃ asked, deed = .attach asked
  · obtain ⟨asked, rfl⟩ := hattach
    exact h.attach ht asked
  have hd := Deed.delivers hc d.promises t htake fun asked hd => hattach ⟨asked, hd⟩
  have hfuture : deed.future? d.promises t = none := by
    cases deed <;> first | rfl | exact absurd rfl htake | exact absurd ⟨_, rfl⟩ hattach
  rw [act_eq ht]
  refine h.same ?_ ?_ ?_
  · simp [hfuture]
  · exact Nat.le_add_right _ _
  · intro p hp
    rcases hd.promise with hsame | hnone
    · exact .inl (hsame ▸ hp)
    · cases hnone.symm.trans hp

end Hands

end Desk

lemma Task.drop_ends {t : Task} (hc : ∀ set, t.bound = some set → set.Calm) (gone : Timestamp)
    (q : PromiseId) :
    (t.drop gone).events.ends q =
      if t.promise? = some q then [some (.error (.abandoned t.callId))] else [] := by
  have hlast : (t.lastRecord gone).reply = .ok () ∧
      t.Hushes (t.lastRecord gone).state (t.lastRecord gone).events := by
    rw [lastRecord]
    cases hb : t.bound with
    | none => exact ⟨rfl, rfl, rfl, fun _ => rfl⟩
    | some set => exact ⟨handOut_reply _ (hc set hb), .recordFailure t gone set⟩
  obtain ⟨hreply, hl⟩ := hlast
  rw [drop_eq, hreply, hl.promise, promise?]
  cases hp : t.promise with
  | none => simpa using hl.silent q
  | some p =>
    change Log.ends q (_ ++ [Event.settled p.id _]) = _
    rw [Log.ends_append, hl.silent, Log.ends_settled]
    simp [eq_comm]

namespace Desk.Ledger

open Deed

variable {g : Ledger} {t : Task} {deed : Deed} {deeds : List Deed}

lemma Agrees.outcomes (h : g.Agrees t) (q : PromiseId) :
    g.desk.log.outcomes q = if q = g.place then g.first.toList.map Prod.snd else [] := by
  rw [Log.outcomes_eq, h.ends, owed]
  split
  · cases g.first <;> rfl
  · split <;> rfl

structure Honours (g : Ledger) (deeds : List Deed) (t : Task) : Prop where
  callId : t.callId = (latest callId? deeds).getD 0
  accepts : ∀ asked, (g.desk.attach t asked).2.1 = .ok (.ok ()) ↔
    g.attached = [] ∧ (∀ id, .assignCallId id ∉ deeds) ∧ g.first = none
  refuses : ∀ asked, (g.desk.attach t asked).2.1 ≠ .ok (.ok ()) →
    (g.desk.attach t asked).2.1 = .ok (.error (.promiseLocked t.number)) ∧
      (g.desk.act (.attach asked)).task = some t
  futures : g.desk.futures.Nodup ∧ ∀ f ∈ g.desk.futures, ∃ q < g.desk.promises, f = some (.of q)
  replies : ∀ o now status set, set.Calm →
    let reply := .ok (if g.first.isSome then .error (.alreadyResolved t.callId) else .ok ())
    (t.resolve o).reply = reply ∧ (t.reject now status set).reply = reply
  unaltered : g.first.isSome → ∀ deed : Deed, deed.Calm → ∀ q,
    (g.desk.act deed).log.outcomes q = g.desk.log.outcomes q
  fates : ∀ gone,
    let log := (g.desk.left gone).log
    let (p, o) := g.first.getD (g.place, .error (.abandoned t.callId))
    (p < g.desk.promises ∧ log.outcomes p = [o] ∧ ((CallFuture.of p).tryResult log).1 = some o) ∧
      ∀ q < g.desk.promises, q ≠ p → log.outcomes q = [] ∧
        ((CallFuture.of q).tryResult log).1 = some (.error CallFuture.closed)

lemma latest_callId_eq_none : latest callId? deeds = none ↔ ∀ id, .assignCallId id ∉ deeds := by
  rw [latest, List.getLast?_eq_none_iff, List.filterMap_eq_nil_iff]
  constructor
  · intro h id hm
    cases h _ hm
  · intro h deed hm
    cases deed with
    | assignCallId id => exact absurd hm (h id)
    | _ => rfl

lemma Agrees.open_iff (h : g.Agrees t) : t.promise? = none ↔ g.first.isSome := by
  rw [h.promise]
  cases g.first <;> simp

lemma agrees_of (bounds : ServiceBounds) (number : String) (start now : Timestamp)
    (set : RecorderSet) (hc : ∀ deed ∈ deeds, deed.Calm) :
    ∃ t, (of (.of bounds number start now set) deeds).desk.task = some t ∧
      t.Follows bounds number start deeds ∧
      (of (.of bounds number start now set) deeds).Agrees t ∧
      (of (.of bounds number start now set) deeds).desk.Hands t := by
  induction deeds using List.reverseRecOn with
  | nil =>
    refine ⟨_, rfl, .fresh 0 bounds number start, ⟨Nat.one_pos, rfl, rfl, by simp [of], ?_⟩, ?_⟩
    · intro q
      change [] = if q = 0 then [] else if q < 1 then [none] else []
      rcases Nat.eq_zero_or_pos q with rfl | hq
      · rfl
      · rw [if_neg (Nat.ne_of_gt hq), if_neg (Nat.not_lt.2 hq)]
    · refine ⟨by simp [of, Desk.of], List.nodup_nil, ?_, fun _ _ _ => List.not_mem_nil⟩
      intro p hp
      obtain rfl := Option.some.inj hp
      exact Nat.one_pos
  | append_singleton deeds deed ih =>
    obtain ⟨t, ht, hf, ha, hh⟩ := ih fun d hd => hc d (List.mem_append_left _ hd)
    have hcalm := hc deed (by simp)
    have hdesk := desk_of (.of bounds number start now set) (deeds ++ [deed])
    rw [of_concat]
    refine ⟨_, ?_, hf.undergo _ deed, ha.note ht hcalm, ?_⟩
    · rw [note_eq ht, act_eq ht]
    · rw [note_eq ht]
      exact hh.act ht hcalm

lemma Agrees.fates (h : g.Agrees t) (ht : g.desk.task = some t)
    (hc : ∀ set, t.bound = some set → set.Calm) (gone : Timestamp) (q : PromiseId) :
    let s := g.first.getD (g.place, .error (.abandoned t.callId))
    s.1 = g.place ∧ (g.desk.left gone).log.ends q =
      if q = s.1 then [some s.2] else if q < g.desk.promises then [none] else [] := by
  have hlog : (g.desk.left gone).log = g.desk.log ++ (t.drop gone).events := by
    simp [left, drop, turn, ht]
  rw [hlog, Log.ends_append, h.ends, Task.drop_ends hc, h.promise, owed]
  cases hfirst : g.first with
  | none =>
    refine ⟨rfl, ?_⟩
    by_cases hq : q = g.place
    · simp [hq]
    · simp [hq, Ne.symm hq]
  | some s =>
    have hplace := h.sent s hfirst
    exact ⟨hplace, by simp [hplace]⟩

lemma attach_ok_iff (d : Desk) (t : Task) (asked : Nat) :
    (d.attach t asked).2.1 = .ok (.ok ()) ↔
      t.promise? ≠ none ∧ t.promiseReplaced = false ∧ t.hasId = false := by
  obtain ⟨hlocked, hreply, -, -⟩ | ⟨old, hp, hr, hi, hreply, -⟩ := attach_cases d t asked
  · rw [hreply]
    rcases hlocked with h | h | h <;> simp [h]
  · simp [hreply, hp, hr, hi]

theorem honours_of (bounds : ServiceBounds) (number : String) (start now : Timestamp)
    (set : RecorderSet) (deeds : List Deed) (hc : ∀ deed ∈ deeds, deed.Calm) :
    let g := of (.of bounds number start now set) deeds
    g.desk = (Desk.of bounds number start now set).run deeds ∧
      ∃ t, g.desk.task = some t ∧ g.Honours deeds t := by
  obtain ⟨t, ht, hf, ha, hh⟩ := agrees_of bounds number start now set hc
  have hdesk := desk_of (.of bounds number start now set) deeds
  intro g
  change g.desk.task = some t at ht
  change g.Agrees t at ha
  change g.desk.Hands t at hh
  refine ⟨hdesk, t, ht, hf.callId, ?accepts, ?refuses, ⟨hh.nodup, hh.known⟩, ?replies, ?unaltered,
    ?fates⟩
  case accepts =>
    intro asked
    rw [attach_ok_iff, ha.replaced, hf.hasId, ← latest_callId_eq_none, ne_eq, ha.open_iff]
    cases g.first <;> simp
  case refuses =>
    intro asked hne
    obtain ⟨-, hreply, -, hafter⟩ | ⟨-, -, -, -, hreply, -⟩ := attach_cases g.desk t asked
    · refine ⟨hreply, ?_⟩
      rw [act_eq ht, hafter]
    · exact absurd hreply hne
  case replies =>
    intro o now status set hset
    have hreply (u : Task) (hp : u.promise? = t.promise?) (hid : u.callId = t.callId)
        (o : Outcome) : (u.resolve o).reply =
          .ok (if g.first.isSome then .error (.alreadyResolved t.callId) else .ok ()) := by
      rw [Task.resolve_reply_eq, hp, hid]
      exact congrArg Except.ok (if_congr ha.open_iff rfl rfl)
    refine ⟨hreply t rfl rfl o, ?_⟩
    have hp := (Task.Hushes.closeUnserviced t now status set).promise
    rw [Task.reject_eq t now status hset]
    apply hreply
    · rw [Task.promise?, hp, Task.promise?]
    · rw [Task.handOut_callId, Task.closeUnserviced_callId]
  case unaltered =>
    intro hfirst deed hdeed q
    have hnext := (ha.note ht hdeed).outcomes q
    -- A call with an outcome has no promise any more that could be replaced.
    have hattached : deed.attached? g.desk t = none := by
      cases deed with
      | attach asked =>
        obtain ⟨-, -, hnone, -⟩ | ⟨old, hp, -⟩ := attach_cases g.desk t asked
        · exact hnone
        · rw [ha.open_iff.2 hfirst] at hp
          cases hp
      | _ => rfl
    obtain ⟨s, hs⟩ := Option.isSome_iff_exists.1 hfirst
    rw [ha.outcomes q, hs]
    rw [note_eq ht, hattached, hs] at hnext
    simpa [place] using hnext
  case fates =>
    intro gone
    have hbound : ∀ set, t.bound = some set → set.Calm := by
      intro set hset
      rw [hf.bound] at hset
      obtain ⟨deed, hm, hd⟩ := List.mem_filterMap.1 (List.mem_of_getLast? hset)
      exact hc deed hm set (.inr hd)
    have hends := fun q => ha.fates ht hbound gone q
    generalize g.first.getD (g.place, .error (.abandoned t.callId)) = s at hends ⊢
    obtain ⟨p, o⟩ := s
    obtain rfl : p = g.place := (hends 0).1
    refine ⟨⟨ha.place_lt, ?_, ?_⟩, ?_⟩
    · rw [Log.outcomes_eq, (hends _).2]
      simp
    · rw [Log.tryResult_eq, (hends _).2]
      simp
    · intro q hq hne
      rw [Log.outcomes_eq, Log.tryResult_eq, (hends q).2, if_neg hne, if_pos hq]
      exact ⟨rfl, rfl⟩

theorem honours_of_replaced :
    let now := Timestamp.ofPosition 0
    let deeds : List Deed := [.takeFuture, .attach 1, .assignCallId 7, .attach 0,
      .reject now .overloaded (.empty 0), .resolve (.error (.abandoned 7))]
    let d := (Desk.of ⟨1, 2, .zero⟩ "555-0100" now now (.empty 0)).run deeds
    (d.left now).log.outcomes 1 = [.ok (.unserviced .overloaded 7)] ∧
      ∀ q < 3, q ≠ 1 → (d.left now).log.outcomes q = [] := by
  intro now deeds d
  have hc : ∀ deed ∈ deeds, deed.Calm := by
    simp [deeds, Calm, recorders?, bound?, RecorderSet.calm_empty]
  obtain ⟨hdesk, t, -, h⟩ := honours_of ⟨1, 2, .zero⟩ "555-0100" now now (.empty 0) deeds hc
  have hfates := h.fates now
  rw [hdesk] at hfates
  obtain ⟨⟨-, hone, -⟩, hothers⟩ := hfates
  exact ⟨hone, fun q hq hne => (hothers q hq hne).1⟩

end Desk.Ledger

end Switchboard
