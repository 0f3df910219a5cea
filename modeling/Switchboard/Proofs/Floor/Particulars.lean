import Switchboard.Center
import Switchboard.Proofs.Floor.Closings
import Switchboard.Proofs.Floor.Faults
import Switchboard.Proofs.Floor.Refusals

/-! The records of a day. Each was closed by one of the deeds, bears the particulars with which its
call came in, and tells who took the call. The clock must not be set back under a call. -/

namespace Switchboard

namespace Floor

instance (s t : Timestamp) : Decidable (s ≤ t) :=
  inferInstanceAs (Decidable (s.position ≤ t.position))

def Deed.start? : Deed → Option Timestamp
  | .bring _ _ _ start _ _ => some start
  | _ => none

def Deed.StartsBy (d e : Deed) : Prop :=
  ∀ start ∈ d.start?, ∀ now ∈ e.reading?, start ≤ now

instance (d e : Deed) : Decidable (d.StartsBy e) :=
  inferInstanceAs (Decidable (∀ start ∈ d.start?, ∀ now ∈ e.reading?, start ≤ now))

def Deed.WorksBy (d e : Deed) : Prop :=
  ∀ p i now draw later draw', d = .work p i now draw → e = .work p i later draw' → now ≤ later

inductive Seals (f : Floor) (k : Nat) (r : CallRecord) : Deed → Prop
  | serviced (p i : Nat) (now : Timestamp) (draw : Nat) (l : Line) (isOn : f.line? p i = some l)
      (task : l.entry.task = k) (operator : r.operatorId = l.operator)
      (status : r.status ∈ [.completed, .timeout, .rejected]) : Seals f k r (.work p i now draw)
  | unserviced (deed : Deed) (idle : ∀ p i now draw, deed ≠ .work p i now draw)
      (operator : r.operatorId = 0) (moment : r.pickedUp = r.ended)
      (status : r.status ∈ [.overloaded, .duplication, .rejected]) : Seals f k r deed

lemma bring_calm {f : Floor} {p q : Nat} {id : CallId}
    (hc : ∀ queue, f.queue? q = some queue → queue.recorders.Calm)
    (hd : f.door? p = some (q, id)) (bounds : ServiceBounds) (number : String)
    (start now : Timestamp) :
    (f.bring p bounds number start false now).2 =
      .ok (.ok ⟨id, .of f.exchange.promises⟩) := by
  obtain ⟨pool, queue, hpool, hq, hqueue, rfl⟩ := door?_of_some hd
  have hqueue' : f.queueOf? pool = some queue := by rw [queueOf?, hq, Option.bind_some, hqueue]
  have hpool' : (f.newTask bounds number start).2.pool? p = some pool := hpool
  exact addTask_of_free (q := ⟨f.exchange.promises, false⟩) hpool' hqueue' (hc queue hqueue) rfl rfl
    now

end Floor

open Floor (Deed)

namespace Day

/-- The clock is not set back under a call, nor under an operator. -/
structure Timely (deeds : List Deed) : Prop where
  own : ∀ deed ∈ deeds, deed.StartsBy deed
  calls : deeds.Pairwise Deed.StartsBy
  operators : deeds.Pairwise Deed.WorksBy

def Brings (deeds : List Deed) (k : Nat) (c : Particulars) : Prop :=
  ∃ before deed later, deeds = before ++ deed :: later ∧
    (Day.after before).floor.exchange.tasks.length = k ∧ (Day.after before).floor.Admits deed c

variable {deeds : List Deed} {deed : Deed} {p i q k : Nat} {c : Particulars} {l : Line}
  {t : Task} {set : RecorderSet} {r : CallRecord} {now : Timestamp}

lemma floor_sound (deeds : List Deed) : (Day.after deeds).floor.Sound := ⟨_, sound_after deeds⟩

lemma timely_of_sorted (hown : ∀ deed ∈ deeds, deed.StartsBy deed)
    (hs : (deeds.filterMap Deed.reading?).Pairwise (· ≤ ·)) : Timely deeds := by
  rw [List.pairwise_filterMap] at hs
  refine ⟨hown, ?_, ?_⟩
  · refine hs.imp_of_mem fun {d e} hd _ hle start hstart now hnow => ?_
    cases d with
    | bring p bounds number s taken own =>
      obtain rfl := Option.some.inj hstart
      exact Int.le_trans (hown _ hd s rfl own rfl) (hle own rfl now hnow)
    | _ => cases hstart
  · refine hs.imp fun {d e} hle p i now draw later draw' hd he => ?_
    subst hd he
    exact hle now rfl later rfl

lemma Timely.of_append {more : List Deed} (h : Timely (deeds ++ more)) : Timely deeds where
  own deed hd := h.own deed (List.mem_append_left _ hd)
  calls := (List.pairwise_append.1 h.calls).1
  operators := (List.pairwise_append.1 h.operators).1

lemma Brings.append (h : Brings deeds k c) (more : List Deed) : Brings (deeds ++ more) k c := by
  obtain ⟨before, deed, later, rfl, hk, ha⟩ := h
  exact ⟨before, deed, later ++ more, by simp, hk, ha⟩

lemma brings_concat (h : Brings (deeds ++ [deed]) k c) :
    Brings deeds k c ∨ (Day.after deeds).floor.exchange.tasks.length = k ∧
      (Day.after deeds).floor.Admits deed c := by
  obtain ⟨before, d, later, he, hk, ha⟩ := h
  obtain rfl | ⟨later, d', rfl⟩ := List.eq_nil_or_concat later
  · obtain ⟨rfl, hd⟩ := List.append_inj' he rfl
    obtain rfl := List.singleton_inj.1 hd
    exact .inr ⟨hk, ha⟩
  · rw [List.concat_eq_append, ← List.cons_append, ← List.append_assoc] at he
    obtain ⟨rfl, -⟩ := List.append_inj' he rfl
    exact .inl ⟨before, d, later, rfl, hk, ha⟩

lemma Brings.exists_start (h : Brings deeds k c) : ∃ deed ∈ deeds, deed.start? = some c.start := by
  obtain ⟨before, deed, later, rfl, -, p, q, taken, now, rfl, -⟩ := h
  exact ⟨_, List.mem_append_right _ (List.mem_cons_self ..), rfl⟩

lemma Timely.start_le (h : Timely (deeds ++ [deed])) (hb : Brings (deeds ++ [deed]) k c)
    (hr : deed.reading? = some now) : c.start ≤ now := by
  obtain ⟨d, hd, hstart⟩ := hb.exists_start
  obtain hd | hd := List.mem_append.1 hd
  · have hcalls := (List.pairwise_append.1 h.calls).2.2
    exact hcalls d hd deed (List.mem_singleton.2 rfl) c.start hstart now hr
  · obtain rfl := List.mem_singleton.1 hd
    exact h.own d (List.mem_append_right _ hd) c.start hstart now hr

def Knows (deeds : List Deed) (k : Nat) (t : Task) : Prop :=
  t.recorded = true ∨ ∃ c, Brings deeds k c ∧ t.Has c

lemma knows_of_enters {x : Exchange}
    (hknown : ∀ t, (Day.after deeds).floor.exchange.task? k = some t → Knows deeds k t)
    (hx : (Day.after deeds).floor.Enters deed x) (ht : x.task? k = some t) :
    Knows (deeds ++ [deed]) k t := by
  obtain ht | ⟨rfl, c, ha, hc⟩ := hx.task k t ht
  · exact (hknown t ht).imp_right fun ⟨c, hb, hc⟩ => ⟨c, hb.append [deed], hc⟩
  · exact .inr ⟨c, ⟨deeds, deed, [], rfl, rfl, ha⟩, hc⟩

lemma knows_after (deeds : List Deed) (ht : (Day.after deeds).floor.exchange.task? k = some t) :
    Knows deeds k t := by
  induction deeds using List.reverseRecOn generalizing t with
  | nil => cases ht
  | append_singleton deeds deed ih =>
    obtain ⟨x, hx, hcloses⟩ := Floor.closes_act (floor_sound deeds) deed
    rw [after_concat, floor_act] at ht
    obtain ht | hr := hcloses.task k t ht
    · exact knows_of_enters (fun _ => ih) hx ht
    · exact .inl hr

lemma since_of_line (h : Timely deeds) (hl : (Day.after deeds).floor.line? p i = some l) :
    (∃ draw, .work p i l.since draw ∈ deeds) ∧
      ∀ c, Brings deeds l.entry.task c → c.start ≤ l.since := by
  induction deeds using List.reverseRecOn with
  | nil => simp [Day.after, run, Floor.line?, Floor.pool?, Floor.empty] at hl
  | append_singleton deeds deed ih =>
    rw [after_concat, floor_act] at hl
    by_cases hw : ∃ now draw, deed = .work p i now draw
    · obtain ⟨now, draw, rfl⟩ := hw
      cases (Day.after deeds).floor.works_work p i now draw with
      | rests before after exchange queues => cases after.symm.trans hl
      | hangsUp l' before after exchange queues calls => cases after.symm.trans hl
      | picksUp pool isPool isRunning q draws queue isQueue e es waits before id after exchange =>
        obtain rfl := Option.some.inj (after.symm.trans hl)
        exact ⟨⟨draw, List.mem_append_right _ (List.mem_singleton.2 rfl)⟩,
          fun c hb => h.start_le hb rfl⟩
    · have hother : ∀ now draw, deed ≠ .work p i now draw := fun now draw he => hw ⟨now, draw, he⟩
      rw [Floor.line?_act _ hother] at hl
      obtain ⟨⟨draw, hm⟩, hc⟩ := ih h.of_append hl
      refine ⟨⟨draw, List.mem_append_left _ hm⟩, fun c hb => ?_⟩
      obtain hb | ⟨hk, -⟩ := brings_concat hb
      · exact hc c hb
      · -- A call that comes in only now is on no line yet.
        have hlt := (floor_sound deeds).bounded _ (Floor.mem_calls_of_line hl)
        exact absurd hk.symm (Nat.ne_of_lt hlt)

lemma sealed_of_new (h : Timely (deeds ++ [deed]))
    (hm : (k, set, r) ∈ (Day.after (deeds ++ [deed])).floor.exchange.records)
    (hnew : (k, set, r) ∉ (Day.after deeds).floor.exchange.records) :
    (∃ c, Brings (deeds ++ [deed]) k c ∧ r.Sealed c) ∧ (Day.after deeds).floor.Seals k r deed := by
  obtain ⟨x, hx, hcloses⟩ := Floor.closes_act (floor_sound deeds) deed
  rw [after_concat, floor_act] at hm
  obtain hm | ⟨t, ht, hopen, hclosed⟩ := hcloses.record k set r hm
  · exact absurd (hx.records ▸ hm) hnew
  -- The record was not out before the deed, so it still told what was known of the newcomer.
  obtain hr | ⟨c, hb, hc⟩ := knows_of_enters (fun _ => knows_after deeds) hx ht
  · cases hr.symm.trans hopen
  have idle (hidle : ∀ p i now draw, deed ≠ .work p i now draw)
      (hclosed : ∃ now, deed.reading? = some now ∧ t.ClosedUnserviced now r) :
      (∃ c, Brings (deeds ++ [deed]) k c ∧ r.Sealed c) ∧
        (Day.after deeds).floor.Seals k r deed := by
    obtain ⟨now, hreading, hclosed⟩ := hclosed
    obtain ⟨hsealed, hoperator, hmoment, hstatus⟩ := hclosed.sealed hc (h.start_le hb hreading)
    exact ⟨⟨c, hb, hsealed⟩, .unserviced deed hidle hoperator hmoment hstatus⟩
  cases deed with
  | work p i now draw =>
    obtain ⟨l, hl, rfl, hclosed⟩ := hclosed
    obtain ⟨⟨draw', hdrew⟩, hsince⟩ := since_of_line h.of_append hl
    have hle : l.since ≤ now := (List.pairwise_append.1 h.operators).2.2 _ hdrew _
      (List.mem_singleton.2 rfl) p i l.since draw' now draw rfl rfl
    have hbrought : Brings deeds l.entry.task c := by
      obtain hb | ⟨-, p, q, taken, now, he, -⟩ := brings_concat hb
      · exact hb
      · cases he
    obtain ⟨hsealed, hoperator, hstatus⟩ := hclosed.sealed hc (hsince c hbrought) hle
    exact ⟨⟨c, hb, hsealed⟩, .serviced p i now draw l hl rfl hoperator hstatus⟩
  | _ => exact idle (fun _ _ _ _ => Deed.noConfusion) hclosed

lemma ticket_of_admits (hd : (Day.after deeds).floor.door? p = some (q, c.callId)) (taken : Bool)
    (now : Timestamp) :
    let f := (Day.after deeds).floor
    let reply := (f.bring p c.bounds c.number c.start taken now).2
    let ticket : Ticket := ⟨c.callId, .of f.exchange.tasks.length⟩
    (∀ told, reply = .ok (.ok told) → told = ticket) ∧
      (Day.Calm deeds → taken = false → reply = .ok (.ok ticket)) := by
  intro f reply ticket
  have hs := sound_after deeds
  have hp : f.exchange.promises = f.exchange.tasks.length := hs.promises
  constructor
  · intro told htold
    obtain ⟨hfuture, q', hd'⟩ := Floor.bring_ticket c.bounds c.number c.start now htold
    obtain ⟨-, hid⟩ := Prod.mk.inj (Option.some.inj (hd'.symm.trans hd))
    obtain ⟨id, future⟩ := told
    rw [show id = c.callId from hid, show future = _ from hfuture, hp]
  · rintro hcalm rfl
    have hwithin : f.Within RecorderSet.Calm :=
      within_run (within_empty _) RecorderSet.calm_empty hcalm
    have hreply := Floor.bring_calm (fun queue hq => hwithin.queue q queue hq) hd c.bounds
      c.number c.start now
    refine hreply.trans ?_
    rw [show (Day.after deeds).floor.exchange.promises = _ from hp]

end Day

theorem records_go_out_sealed (deeds : List Deed) (h : Day.Timely deeds) :
    let x := (Day.after deeds).floor.exchange
    x.records.map Prod.snd = (Day.after deeds).floor.log.records ∧
    (∀ (center : Center) number now, center.submit number now =
      let r := center.floor.bring center.dispatcher.pool center.dispatcher.bounds number now false
        now
      (r.2, { center with floor := r.1 })) ∧
    ∀ k set r, (k, set, r) ∈ x.records →
      (∃ c before p taken now later,
        deeds = before ++ .bring p c.bounds c.number c.start taken now :: later ∧ r.Sealed c ∧
        let f := (Day.after before).floor
        let reply := (f.bring p c.bounds c.number c.start taken now).2
        (∃ q, f.door? p = some (q, r.callId)) ∧ f.exchange.tasks.length = k ∧
          (∀ ticket, reply = .ok (.ok ticket) → ticket = ⟨r.callId, .of k⟩) ∧
          (Day.Calm deeds → taken = false → reply = .ok (.ok ⟨r.callId, .of k⟩))) ∧
      ∃ before deed later, deeds = before ++ deed :: later ∧
        (k, set, r) ∉ (Day.after before).floor.exchange.records ∧
        (k, set, r) ∈ (Day.after (before ++ [deed])).floor.exchange.records ∧
        (Day.after before).floor.Seals k r deed := by
  intro x
  refine ⟨(Exchange.records_log (Day.sound_after deeds).aligned).symm, fun _ _ _ => rfl, ?_⟩
  intro k set r hm
  -- The deed that closed the record is the first after which it is out.
  have hfirst := holds_or_broken (P := fun l => (k, set, r) ∉ (Day.after l).floor.exchange.records)
    List.not_mem_nil (fun l deed _ (hkeeps : ¬ (k, set, r) ∈
      (Day.after (l ++ [deed])).floor.exchange.records) => hkeeps) deeds
  obtain hnone | ⟨before, deed, later, hsplit, hold, hnew, -⟩ := hfirst
  · exact absurd hm hnone
  have happend : deeds = before ++ [deed] ++ later := by simp [hsplit]
  obtain ⟨⟨c, hb, hsealed⟩, hseals⟩ := Day.sealed_of_new (happend ▸ h).of_append hnew hold
  refine ⟨?_, before, deed, later, hsplit, hold, hnew, hseals⟩
  obtain ⟨early, d, rest, he, rfl, p, q, taken, now, rfl, hd⟩ := hb.append later
  rw [← happend] at he
  obtain ⟨htold, hcalm⟩ := Day.ticket_of_admits hd taken now
  refine ⟨c, early, p, taken, now, rest, he, hsealed, ?_⟩
  rw [hsealed.callId]
  refine ⟨⟨q, hd⟩, rfl, htold, fun hc => hcalm ?_⟩
  intro p' set' hset
  exact hc p' set' (he ▸ List.mem_append_left _ hset)

theorem records_go_out_sealed_of_a_repeated_call :
    let at? (n : Int) := Timestamp.ofPosition (n * 500000000)
    let bounds : ServiceBounds := ⟨1, 2, .ofSeconds 1⟩
    let deeds : List Deed := [.build 1 4, .bring 0 bounds "555-0100" (at? 0) false (at? 0),
      .bring 0 bounds "555-0100" (at? 1) false (at? 1), .beginStart 0, .work 0 0 (at? 2) 0,
      .work 0 0 (at? 4) 0]
    let x := (Day.after deeds).floor.exchange
    Day.Timely deeds ∧
      x.records.map (fun (k, _, r) => (k, r.status, r.operatorId)) =
        [(0, .duplication, 0), (1, .completed, 1)] ∧
      ∀ k set r, (k, set, r) ∈ x.records → ∃ c, r.Sealed c := by
  intro at? bounds deeds x
  have hsorted : (deeds.filterMap Deed.reading?).Pairwise (· ≤ ·) := by decide
  have hown : ∀ deed ∈ deeds, deed.StartsBy deed := by decide
  have h := Day.timely_of_sorted hown hsorted
  obtain ⟨-, -, hrecords⟩ := records_go_out_sealed deeds h
  refine ⟨h, by decide +kernel, fun k set r hm => ?_⟩
  obtain ⟨⟨c, -, -, -, -, -, -, hsealed, -⟩, -⟩ := hrecords k set r hm
  exact ⟨c, hsealed⟩

end Switchboard
