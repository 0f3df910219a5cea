import Switchboard.Proofs.Exchange.Journal
import Switchboard.Proofs.Floor.Accounts

namespace Switchboard

lemma Admission.Gone.story {a : Admission} {G : Admission → RecorderSet → Prop} {x : Exchange}
    (h : a.Gone G x) :
    ∃ set r e, x.story a.task = [.recorded set r, e] ∧ G a set ∧ r.callId = a.id ∧
      (e = .withdrawn a.task ∨ ∃ o, e = .settled a.task o) ∧
      ((∀ s, G a s → s.Calm) → ∃ o, e = .settled a.task o ∧ r.Agrees o) := by
  obtain ⟨t, set, hp, hg, hd⟩ := h
  obtain ⟨bound, hb, hgb⟩ := hp.bound
  obtain ⟨s, r, e, hl, hs, hr, he, hcalm⟩ := Task.departure_story hp.isOpen hb hd
  have hgs : G a s := by
    rcases hs with rfl | rfl
    · exact hg
    · exact hgb
  exact ⟨s, r, e, hl, hgs, hr.trans hp.callId, he, fun hc => hcalm (hc set hg) (hc bound hgb)⟩

namespace Accounted

variable {G : Admission → RecorderSet → Prop} {calls : List Presence} {x : Exchange}
  {admissions : List Admission}

lemma silent_or_gone (h : Accounted G calls x admissions) {a : Admission} (ha : a ∈ admissions) :
    x.story a.task = [] ∨ a.task ∉ calls.map Presence.task ∧ a.Gone G x := by
  by_cases hc : a.task ∈ calls.map Presence.task
  · obtain ⟨c, hc, hct⟩ := List.mem_map.1 hc
    obtain ⟨b, hb, hp⟩ := h.present c hc
    obtain rfl := h.admission_unique ha hb (hct.symm.trans hp.task)
    exact .inl hp.silent
  · exact .inr ⟨hc, h.gone a ha hc⟩

lemma story_cases (h : Accounted G calls x admissions) (k : Nat) :
    x.story k = [] ∨ (∃ o, x.story k = [.settled k o]) ∨
      ∃ a ∈ admissions, a.task = k ∧ k ∉ calls.map Presence.task ∧ a.Gone G x := by
  by_cases hk : k ∈ admissions.map Admission.task
  · obtain ⟨a, ha, rfl⟩ := List.mem_map.1 hk
    rcases h.silent_or_gone ha with hs | hg
    · exact .inl hs
    · exact .inr (.inr ⟨a, ha, rfl, hg⟩)
  · rcases h.strangers k hk with hs | hs
    · exact .inl hs
    · exact .inr (.inl hs)

lemma story_shape (h : Accounted G calls x admissions) (k : Nat) :
    x.story k = [] ∨ (∃ o, x.story k = [.settled k o]) ∨
      ∃ set r e, x.story k = [.recorded set r, e] ∧ (e = .withdrawn k ∨ ∃ o, e = .settled k o) := by
  rcases h.story_cases k with hs | hs | ⟨a, -, rfl, -, hg⟩
  · exact .inl hs
  · exact .inr (.inl hs)
  · obtain ⟨set, r, e, hs, -, -, he, -⟩ := hg.story
    exact .inr (.inr ⟨set, r, e, hs, he⟩)

lemma proper (h : Accounted G calls x admissions) : x.Proper := by
  refine ⟨h.aligned, ?_⟩
  intro k e hm
  rw [← Exchange.mem_story] at hm
  rcases h.story_shape k with hs | ⟨o, hs⟩ | ⟨set, r, e', hs, he⟩
  · rw [hs] at hm
    cases hm
  · rw [hs, List.mem_singleton] at hm
    exact hm ▸ rfl
  · rw [hs, List.mem_cons, List.mem_singleton] at hm
    rcases hm with rfl | rfl
    · trivial
    · rcases he with rfl | ⟨o, rfl⟩
      · exact rfl
      · exact rfl

end Accounted

end Switchboard
