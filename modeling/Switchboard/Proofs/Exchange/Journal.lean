import Mathlib.Data.List.Nodup
import Switchboard.Proofs.Exchange.Departures

/-! What the log tells of a call. Every event in it is about the task that it came from, so the
record and the outcome of a call can be read off the call's own story. -/

namespace Switchboard

def Event.IsOwn (k : Nat) : Event → Prop
  | .recorded _ _ => True
  | .settled p _ | .withdrawn p => p = k
  | .late _ => False

namespace Log

variable {p : PromiseId}

lemma endOf_of_isOwn {k : Nat} {e : Event} (h : e.IsOwn k) (hk : k ≠ p) : endOf p e = none := by
  cases e with
  | settled q o | withdrawn q =>
    obtain rfl : q = k := h
    exact if_neg hk
  | recorded set r => rfl
  | late id => rfl

end Log

namespace Exchange

variable {x : Exchange} {k : Nat} {e : Event}

lemma mem_story : e ∈ x.story k ↔ (k, e) ∈ x.journal := by
  simp [story, List.mem_filterMap]

lemma filterMap_log {β : Type} (h : x.Aligned) {g : Event → Option β}
    (hg : ∀ j e, (j, e) ∈ x.journal → j ≠ k → g e = none) :
    x.log.filterMap g = (x.story k).filterMap g := by
  rw [← h, story, List.filterMap_map, List.filterMap_filterMap]
  apply List.filterMap_congr
  rintro ⟨j, e⟩ hm
  by_cases hj : j = k
  · simp [hj]
  · simp [hj, hg j e hm hj]

structure Proper (x : Exchange) : Prop where
  aligned : x.Aligned
  own : ∀ j e, (j, e) ∈ x.journal → e.IsOwn j

namespace Proper

variable (h : x.Proper)

include h

lemma ending?_log (p : PromiseId) : x.log.ending? p = (x.story p).ending? p := by
  rw [Log.ending?_eq, Log.ending?_eq]
  have := filterMap_log (k := p) h.aligned fun j e hm hj => Log.endOf_of_isOwn (h.own j e hm) hj
  rw [this]

lemma outcomes_log (p : PromiseId) : x.log.outcomes p = (x.story p).outcomes p := by
  apply filterMap_log h.aligned
  intro j e hm hj
  have he := h.own j e hm
  cases e with
  | settled q o =>
    obtain rfl : q = j := he
    exact if_neg hj
  | _ => rfl

lemma timely : x.log.Timely := by
  intro id hm
  rw [← h.aligned] at hm
  obtain ⟨⟨j, e⟩, hj, rfl⟩ := List.mem_map.1 hm
  exact h.own j _ hj

end Proper

def records (x : Exchange) : List (Nat × RecorderSet × CallRecord) :=
  x.journal.filterMap fun
    | (k, .recorded set r) => some (k, set, r)
    | _ => none

variable {set : RecorderSet} {r : CallRecord}

lemma mem_records : (k, set, r) ∈ x.records ↔ .recorded set r ∈ x.story k := by
  rw [mem_story, records, List.mem_filterMap]
  constructor
  · rintro ⟨⟨j, e⟩, hm, he⟩
    cases e with
    | recorded s q =>
      obtain ⟨rfl, rfl, rfl⟩ : j = k ∧ s = set ∧ q = r := by simpa using he
      exact hm
    | _ => cases he
  · intro hm
    exact ⟨(k, .recorded set r), hm, rfl⟩

lemma records_log (h : x.Aligned) : x.log.records = x.records.map Prod.snd := by
  rw [← h, Log.records, records, List.filterMap_map, List.map_filterMap]
  apply List.filterMap_congr
  rintro ⟨j, e⟩ -
  cases e <;> rfl

lemma records_story (x : Exchange) (k : Nat) :
    (x.records.filter (·.1 = k)).map Prod.snd = (x.story k).records := by
  rw [records, Log.records, story, List.filterMap_filterMap]
  generalize x.journal = journal
  induction journal with
  | nil => rfl
  | cons line journal ih =>
    obtain ⟨j, e⟩ := line
    by_cases hj : j = k
    · cases e <;> simp [hj, ih]
    · cases e <;> simp [hj, ih]

lemma nodup_records (h : ∀ k, (x.story k).records.length ≤ 1) : (x.records.map Prod.fst).Nodup := by
  rw [List.nodup_iff_count_le_one]
  intro k
  calc (x.records.map Prod.fst).count k
    _ = (x.records.filter (·.1 = k)).length := by
        rw [List.count_eq_countP, List.countP_map, List.countP_eq_length_filter]
        congr
    _ = (x.story k).records.length := by rw [← records_story, List.length_map]
    _ ≤ 1 := h k

end Exchange

end Switchboard
