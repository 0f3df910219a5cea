import Switchboard.Proofs.Floor.Resolution

/-! Every call has one record. It is handed out when the call leaves, so the records tell which of
the calls that were given an identifier are no longer on the floor. -/

namespace Switchboard

open scoped List

namespace Accounted

variable {G H : Admission → RecorderSet → Prop} {calls : List Presence} {x : Exchange}
  {admissions : List Admission} {a : Admission} {set : RecorderSet} {r : CallRecord}

lemma records_length (h : Accounted G calls x admissions) (k : Nat) :
    (x.story k).records.length ≤ 1 := by
  rcases h.story_shape k with hs | ⟨o, hs⟩ | ⟨set, r, e, hs, he⟩
  · simp [hs, Log.records]
  · simp [hs, Log.records]
  · rcases he with rfl | ⟨o, rfl⟩
    · simp [hs, Log.records]
    · simp [hs, Log.records]

lemma record_cases (h : Accounted G calls x admissions) {k : Nat} (hm : (k, set, r) ∈ x.records) :
    ∃ a ∈ admissions, a.task = k ∧ a.task ∉ calls.map Presence.task ∧ G a set ∧
      r.callId = a.id := by
  rw [Exchange.mem_records] at hm
  rcases h.story_cases k with hs | ⟨o, hs⟩ | ⟨a, ha, rfl, hc, hg⟩
  · simp [hs] at hm
  · simp [hs] at hm
  · obtain ⟨s, q, e, hs, hgs, hid, he, -⟩ := hg.story
    refine ⟨a, ha, rfl, hc, ?_⟩
    rw [hs, List.mem_cons, List.mem_singleton] at hm
    rcases hm with hm | hm
    · obtain ⟨rfl, rfl⟩ : set = s ∧ r = q := by simpa using hm
      exact ⟨hgs, hid⟩
    · rcases he with rfl | ⟨o, rfl⟩
      · cases hm
      · cases hm

lemma record_of_gone (hg : a.Gone G x) :
    ∃ set r, (a.task, set, r) ∈ x.records ∧ r.callId = a.id := by
  obtain ⟨set, r, e, hs, -, hid, -⟩ := hg.story
  exact ⟨set, r, Exchange.mem_records.2 (hs ▸ List.mem_cons_self ..), hid⟩

lemma records_perm (h : Accounted G calls x admissions) :
    x.records.map (fun (k, _, r) => (k, r.callId)) ~
      (admissions.filter (·.task ∉ calls.map Presence.task)).map fun a => (a.task, a.id) := by
  have hr : (x.records.map fun (k, _, r) => (k, r.callId)).Nodup := by
    apply List.Nodup.of_map Prod.fst
    rw [List.map_map]
    exact Exchange.nodup_records h.records_length
  have ha : ((admissions.filter (·.task ∉ calls.map Presence.task)).map
      fun a => (a.task, a.id)).Nodup := by
    apply List.Nodup.of_map Prod.fst
    rw [List.map_map]
    exact h.numbers.sublist (List.filter_sublist.map Admission.task)
  rw [List.perm_ext_iff_of_nodup hr ha]
  rintro ⟨k, id⟩
  constructor
  · intro hm
    obtain ⟨⟨j, set, r⟩, hrec, he⟩ := List.mem_map.1 hm
    obtain ⟨rfl, rfl⟩ : j = k ∧ r.callId = id := by simpa using he
    obtain ⟨a, hadm, rfl, hc, -, hid⟩ := h.record_cases hrec
    exact List.mem_map.2 ⟨a, List.mem_filter.2 ⟨hadm, by simpa using hc⟩, by rw [hid]⟩
  · intro hm
    obtain ⟨a, hf, he⟩ := List.mem_map.1 hm
    obtain ⟨rfl, rfl⟩ : a.task = k ∧ a.id = id := by simpa using he
    obtain ⟨hadm, hc⟩ := List.mem_filter.1 hf
    obtain ⟨set, r, hrec, hid⟩ := record_of_gone (h.gone a hadm (by simpa using hc))
    exact List.mem_map.2 ⟨(a.task, set, r), hrec, by simp only [hid]⟩

lemma mono (h : Accounted G calls x admissions)
    (hGH : ∀ a ∈ admissions, ∀ s, G a s → H a s) : Accounted H calls x admissions := by
  have pending (a : Admission) (ha : a ∈ admissions) (t : Task) (hp : a.Pending G t) :
      a.Pending H t := by
    obtain ⟨s, hb, hg⟩ := hp.bound
    exact ⟨hp.isOpen, hp.callId, s, hb, hGH a ha s hg⟩
  refine { h with present := ?_, gone := ?_ }
  · intro c hc
    obtain ⟨a, ha, hp⟩ := h.present c hc
    obtain ⟨t, ht, hpend⟩ := hp.pending
    exact ⟨a, ha, hp.task, hp.waiting, fun s hs => hGH a ha s (hp.onLine s hs),
      ⟨t, ht, pending a ha t hpend⟩, hp.silent⟩
  · intro a ha hn
    obtain ⟨t, set, hpend, hg, hd⟩ := h.gone a ha hn
    exact ⟨t, set, pending a ha t hpend, hGH a ha set hg, hd⟩

end Accounted

structure Floor.Installs (f : Floor) (q : Nat) (set : RecorderSet) : Prop where
  queue : ∀ queue, f.queue? q = some queue → queue.recorders = set
  pool : ∀ p pool, f.pool? p = some pool → pool.queue = some q → pool.recorders = set

namespace Day

def departed (d : Day) : List Admission :=
  d.admissions.filter (·.task ∉ d.floor.calls.map Presence.task)

lemma sound_of_installs {setup rest : List Floor.Deed} {q : Nat} {set : RecorderSet}
    (hi : ∀ l, l <+: rest → (Day.after (setup ++ l)).floor.Installs q set) :
    (Day.after (setup ++ rest)).Sound fun a s =>
      a ∉ (Day.after setup).admissions → a.queue = q → s = set := by
  have hs : (Day.after setup).Sound fun a s =>
      a ∉ (Day.after setup).admissions → a.queue = q → s = set :=
    (sound_after setup).mono fun a ha _ _ hn => absurd ha hn
  rw [after_append]
  apply sound_run hs
  intro l hl
  have hf := hi l hl
  rw [after_append] at hf
  constructor
  · rintro a queue hq - rfl
    exact hf.queue queue hq
  · rintro a p pool hp hq - rfl
    exact hf.pool p pool hp hq

end Day

theorem one_record_per_call (deeds : List Floor.Deed) :
    let d := Day.after deeds
    let x := d.floor.exchange
    x.records.map Prod.snd = d.floor.log.records ∧ (x.records.map Prod.fst).Nodup ∧
      (∀ a ∈ d.departed, ∃ set r, (a.task, set, r) ∈ x.records ∧ r.callId = a.id) ∧
      d.floor.log.records.map (·.2.callId) ~ d.departed.map Admission.id ∧
      ∀ setup rest q set, deeds = setup ++ rest →
        (∀ l, l <+: rest → (Day.after (setup ++ l)).floor.Installs q set) →
        ∀ a ∈ d.admissions, a ∉ (Day.after setup).admissions → a.queue = q →
          ∀ s r, (a.task, s, r) ∈ x.records → s = set := by
  have h := Day.sound_after deeds
  have hrecords := Exchange.records_log h.aligned
  refine ⟨hrecords.symm, Exchange.nodup_records h.records_length, ?_, ?_, ?_⟩
  · intro a ha
    obtain ⟨hadm, hc⟩ := List.mem_filter.1 ha
    exact Accounted.record_of_gone (h.gone a hadm (by simpa using hc))
  · have hp := h.records_perm.map Prod.snd
    rw [List.map_map, List.map_map] at hp
    have hl : (Day.after deeds).floor.log.records = _ := hrecords
    rw [hl, List.map_map]
    exact hp
  · rintro setup rest q set rfl hi a ha hnew hq s r hm
    have hs := Day.sound_of_installs hi
    obtain ⟨b, hb, hab, -, hset, -⟩ := hs.record_cases hm
    obtain rfl := hs.admission_unique hb ha hab
    exact hset hnew hq

end Switchboard
