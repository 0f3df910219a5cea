import Switchboard.Proofs.Floor.Stories
import Switchboard.Proofs.Floor.Wiring

namespace Switchboard

namespace Day

def Calm (deeds : List Floor.Deed) : Prop :=
  ∀ p set, .setRecorders p set ∈ deeds → set.Calm

variable {deeds : List Floor.Deed}

lemma sound_after (deeds : List Floor.Deed) : (Day.after deeds).Sound fun _ _ => True := by
  apply sound_run (sound_empty _)
  intro l _
  exact ⟨fun _ _ _ => trivial, fun _ _ _ _ _ => trivial⟩

lemma within_empty (P : RecorderSet → Prop) : Floor.empty.Within P :=
  ⟨fun p pool hp => by simp [Floor.pool?, Floor.empty] at hp,
    fun q queue hq => by simp [Floor.queue?, Floor.empty] at hq⟩

lemma sound_after_of_calm (hc : Calm deeds) : (Day.after deeds).Sound fun _ s => s.Calm := by
  apply sound_run (sound_empty _)
  intro l hl
  have hw : (Day.after l).floor.Within RecorderSet.Calm := by
    apply within_run (within_empty _) RecorderSet.calm_empty
    intro p set hm
    exact hc p set (hl.subset hm)
  exact ⟨fun _ queue hq => hw.queue _ queue hq, fun _ p pool hp _ => hw.pool p pool hp⟩

end Day

def Floor.IsQuiet (f : Floor) : Prop :=
  ∀ p pool, f.pool? p = some pool → ∀ o ∈ pool.operators, o.call? = none

lemma not_present_of_isQuiet {a : Admission} {G : Admission → RecorderSet → Prop} {f : Floor}
    (hf : f.IsQuiet) (hq : f.queue? a.queue = none) {c : Presence} (hc : c ∈ f.calls) :
    ¬ a.Present G f.exchange c := by
  intro h
  cases hpl : c.place with
  | waiting q =>
    obtain ⟨queue, hqueue, -⟩ := Floor.queue_of_mem hc hpl
    rw [h.waiting q hpl, hq] at hqueue
    cases hqueue
  | onLine set =>
    obtain ⟨p, pool, hp, hm⟩ := Floor.pool_of_mem hc hpl
    obtain ⟨o, ho, hcall⟩ := List.mem_filterMap.1 hm
    rw [hf p pool hp o ho] at hcall
    cases hcall

lemma Day.Sound.gone_of_isQuiet {d : Day} {G : Admission → RecorderSet → Prop} (h : d.Sound G)
    {a : Admission} (ha : a ∈ d.admissions) (hf : d.floor.IsQuiet)
    (hq : d.floor.queue? a.queue = none) : a.Gone G d.floor.exchange := by
  apply h.gone a ha
  intro hm
  obtain ⟨c, hc, hct⟩ := List.mem_map.1 hm
  obtain ⟨b, hb, hp⟩ := h.present c hc
  obtain rfl := h.admission_unique ha hb (hct.symm.trans hp.task)
  exact not_present_of_isQuiet hf hq hc hp

lemma Day.admission_of_ticket {before : List Floor.Deed} {p : Nat} {bounds : ServiceBounds}
    {number : String} {start now : Timestamp} {taken : Bool} {ticket : Ticket}
    (h : ((Day.after before).floor.bring p bounds number start taken now).2 = .ok (.ok ticket))
    (later : List Floor.Deed) :
    ∃ a ∈ (Day.after (before ++ .bring p bounds number start taken now :: later)).admissions,
      (Day.after before).floor.door? p = some (a.queue, a.id) ∧ a.reply = .ok (.ok ticket) := by
  obtain ⟨-, q, hdoor⟩ := Floor.bring_ticket bounds number start now h
  let deed : Floor.Deed := .bring p bounds number start taken now
  let a : Admission :=
    ⟨(Day.after before).floor.exchange.tasks.length, q, ticket.callId, .ok (.ok ticket)⟩
  have ha : (Day.after before).floor.admission? deed = some a := by
    simp only [Floor.admission?, deed, hdoor, Option.map_some, h, a]
  refine ⟨a, ?_, hdoor, rfl⟩
  rw [Day.after_append]
  apply Day.admissions_run ((Day.after before).act deed) later
  rw [Day.act, ha]
  exact List.mem_append_right _ (List.mem_singleton.2 rfl)

namespace Accounted

variable {G : Admission → RecorderSet → Prop} {calls : List Presence} {x : Exchange}
  {admissions : List Admission}

lemma outcomes_length (h : Accounted G calls x admissions) (p : PromiseId) :
    (x.log.outcomes p).length ≤ 1 := by
  rw [h.proper.outcomes_log]
  rcases h.story_shape p with hs | ⟨o, hs⟩ | ⟨set, r, e, hs, he⟩
  · simp [hs, Log.outcomes]
  · simp [hs, Log.outcomes]
  · rcases he with rfl | ⟨o, rfl⟩
    · simp [hs, Log.outcomes]
    · simp [hs, Log.outcomes]

lemma outcome_of_gone (h : Accounted G calls x admissions) (hc : ∀ a s, G a s → s.Calm)
    {a : Admission} (hg : a.Gone G x) :
    ∃ o, x.log.outcomes a.task = [o] ∧ ((CallFuture.of a.task).tryResult x.log).1 = some o ∧
      ∀ r, o = .ok r → r.callId = a.id := by
  obtain ⟨set, r, e, hs, -, hr, -, hcalm⟩ := hg.story
  obtain ⟨o, rfl, ho⟩ := hcalm (hc a)
  refine ⟨o, ?_, ?_, ?_⟩
  · rw [h.proper.outcomes_log, hs]
    simp [Log.outcomes]
  · have he : x.log.ending? a.task = some (some o) := by
      rw [h.proper.ending?_log, hs]
      simp [Log.ending?]
    simp [CallFuture.tryResult, CallFuture.of, he]
  · rintro result rfl
    obtain rfl : result = ⟨r.status, r.duration, r.callId⟩ := ho
    exact hr

end Accounted

open Floor (Deed)

theorem call_resolved_once (deeds : List Deed) :
    (Day.after deeds).floor.log.Timely ∧
      ∀ before p bounds number start taken now later ticket,
        deeds = before ++ Deed.bring p bounds number start taken now :: later →
        ((Day.after before).floor.bring p bounds number start taken now).2 = .ok (.ok ticket) →
        ∃ q, (Day.after before).floor.door? p = some (q, ticket.callId) ∧
          let f := (Day.after deeds).floor
          (f.log.outcomes ticket.future.promise).length ≤ 1 ∧
            (Day.Calm deeds → f.IsQuiet → f.queue? q = none →
              ∃ o, f.log.outcomes ticket.future.promise = [o] ∧
                (ticket.future.tryResult f.log).1 = some o ∧
                ∀ r, o = .ok r → r.callId = ticket.callId) := by
  refine ⟨(Day.sound_after deeds).proper.timely, ?_⟩
  rintro before p bounds number start taken now later ticket rfl hreply
  obtain ⟨a, ha, hdoor, hticket⟩ := Day.admission_of_ticket hreply later
  have hs := Day.sound_after (before ++ .bring p bounds number start taken now :: later)
  obtain rfl := hs.tickets a ha ticket hticket
  refine ⟨a.queue, hdoor, hs.outcomes_length _, ?_⟩
  intro hcalm hquiet hq
  have hs := Day.sound_after_of_calm hcalm
  exact hs.outcome_of_gone (fun _ _ => id) (hs.gone_of_isQuiet ha hquiet hq)

theorem call_resolved_once_on_dismissal :
    let midnight := Timestamp.ofPosition 0
    let deeds : List Deed := [.build 1 4, .bring 0 ⟨1, 2, .zero⟩ "555-0100" midnight false midnight,
      .close 0, .work 0 0 midnight 0, .dismiss 0 midnight]
    ∃ o, (Day.after deeds).floor.log.outcomes 0 = [o] ∧ ∀ r, o = .ok r → r.callId = 1 := by
  intro midnight deeds
  obtain ⟨-, h⟩ := call_resolved_once deeds
  obtain ⟨q, hd, -, hr⟩ := h [.build 1 4] 0 ⟨1, 2, .zero⟩ "555-0100" midnight false midnight _
    ⟨1, .of 0⟩ rfl rfl
  obtain rfl : 0 = q := congrArg Prod.fst (Option.some.inj hd)
  have hquiet : (Day.after deeds).floor.IsQuiet := by
    intro p pool hp
    have hnone : (Day.after deeds).floor.pools = [none] := rfl
    rw [Floor.pool?, hnone] at hp
    cases p <;> simp at hp
  obtain ⟨o, ho, -, hid⟩ := hr (by simp [Day.Calm, deeds]) hquiet rfl
  exact ⟨o, ho, hid⟩

end Switchboard
