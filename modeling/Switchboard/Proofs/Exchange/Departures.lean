import Mathlib.Data.List.Nodup
import Switchboard.Exchange
import Switchboard.Proofs.Task.Departure

/-! What tasks send out when they leave an exchange. Each of them is handled at most once and then
dropped; the other tasks notice nothing. -/

namespace Switchboard.Exchange

def story (x : Exchange) (k : Nat) : Log :=
  x.journal.filterMap fun (j, e) => if j = k then some e else none

def Aligned (x : Exchange) : Prop := x.journal.map Prod.snd = x.log

structure Keeps (x x' : Exchange) : Prop where
  length : x'.tasks.length = x.tasks.length
  promises : x'.promises = x.promises
  aligned : x.Aligned → x'.Aligned

structure Handles (x x' : Exchange) (ks : List Nat) (set : RecorderSet) : Prop extends
    x.Keeps x' where
  others : ∀ k ∉ ks, x'.task? k = x.task? k ∧ x'.story k = x.story k
  handled : ∀ k ∈ ks, ∀ t, x.task? k = some t →
    ∃ t' l, x'.task? k = some t' ∧ x'.story k = x.story k ++ l ∧ t.Handling set t' l

structure Departs (x x' : Exchange) (ks : List Nat) (set : RecorderSet) : Prop extends
    x.Keeps x' where
  others : ∀ k ∉ ks, x'.task? k = x.task? k ∧ x'.story k = x.story k
  gone : ∀ k ∈ ks, x'.task? k = none
  departed : ∀ k ∈ ks, ∀ t, x.task? k = some t →
    ∃ l, x'.story k = x.story k ++ l ∧ t.Departure set l

variable {x x₁ x₂ : Exchange} {ks ks₁ ks₂ : List Nat} {set : RecorderSet} {k : Nat} {t : Task}

lemma Keeps.refl (x : Exchange) : x.Keeps x := ⟨rfl, rfl, id⟩

lemma Keeps.trans (h : x.Keeps x₁) (h' : x₁.Keeps x₂) : x.Keeps x₂ :=
  ⟨h'.length.trans h.length, h'.promises.trans h.promises, h'.aligned ∘ h.aligned⟩

lemma lt_length (h : x.task? k = some t) : k < x.tasks.length := by
  by_contra hk
  simp [task?, List.getElem?_eq_none (Nat.not_lt.1 hk)] at h

lemma task?_set (x : Exchange) (l : Log) (w : List (Nat × Event)) (n : Nat) {k : Nat}
    (hk : k < x.tasks.length) (a : Option Task) (j : Nat) :
    (⟨x.tasks.set k a, l, w, n⟩ : Exchange).task? j = if j = k then a else x.task? j := by
  by_cases hj : j = k
  · simp [task?, hj, hk]
  · simp [task?, hj, List.getElem?_set_ne (Ne.symm hj)]

lemma story_append (x : Exchange) (ts : List (Option Task)) (l : Log) (n k : Nat) (es : Log)
    (j : Nat) :
    (⟨ts, l, x.journal ++ es.map fun e => (k, e), n⟩ : Exchange).story j =
      x.story j ++ if j = k then es else [] := by
  by_cases hj : j = k
  · subst hj
    simp [story, List.filterMap_append, List.filterMap_map]
  · simp [story, List.filterMap_append, List.filterMap_map, Ne.symm hj, hj]

lemma aligned_append {x : Exchange} (h : x.Aligned) (ts : List (Option Task)) (n k : Nat)
    (es : Log) :
    (⟨ts, x.log ++ es, x.journal ++ es.map fun e => (k, e), n⟩ : Exchange).Aligned := by
  simpa [Aligned, List.map_map, Function.comp_def] using h

lemma turn_of_none {α : Type} (h : x.task? k = none) (f : Task → Turn Task α) :
    x.turn k f = (x, none) := by
  simp [turn, h]

lemma turn_of_some {α : Type} (h : x.task? k = some t) (f : Task → Turn Task α) :
    x.turn k f =
      (⟨x.tasks.set k (some (f t).state), x.log ++ (f t).events,
        x.journal ++ (f t).events.map fun e => (k, e), x.promises⟩, some (f t).reply) := by
  simp [turn, h]

lemma Handles.refl (x : Exchange) (ks : List Nat) (set : RecorderSet) : x.Handles x ks set where
  toKeeps := .refl x
  others _ _ := ⟨rfl, rfl⟩
  handled _ _ t h := ⟨t, [], h, (List.append_nil _).symm, .none⟩

lemma Handles.mono (h : x.Handles x₁ ks₁ set) (hs : ks₁ ⊆ ks) : x.Handles x₁ ks set where
  toKeeps := h.toKeeps
  others k hk := h.others k fun hk' => hk (hs hk')
  handled k _ t ht := by
    by_cases hk : k ∈ ks₁
    · exact h.handled k hk t ht
    · obtain ⟨htask, hstory⟩ := h.others k hk
      exact ⟨t, [], htask.trans ht, by simpa using hstory, .none⟩

lemma Handles.append (h : x.Handles x₁ ks₁ set) (h' : x₁.Handles x₂ ks₂ set)
    (hd : ∀ k ∈ ks₁, k ∉ ks₂) : x.Handles x₂ (ks₁ ++ ks₂) set where
  toKeeps := h.toKeeps.trans h'.toKeeps
  others k hk := by
    obtain ⟨hk₁, hk₂⟩ := not_or.1 fun hk' => hk (List.mem_append.2 hk')
    obtain ⟨ht, hs⟩ := h.others k hk₁
    obtain ⟨ht', hs'⟩ := h'.others k hk₂
    exact ⟨ht'.trans ht, hs'.trans hs⟩
  handled k hk t ht := by
    by_cases hk₁ : k ∈ ks₁
    · obtain ⟨t', l, ht', hl, hh⟩ := h.handled k hk₁ t ht
      obtain ⟨hsame, hstory⟩ := h'.others k (hd k hk₁)
      exact ⟨t', l, hsame.trans ht', hstory.trans hl, hh⟩
    · obtain ⟨hsame, hstory⟩ := h.others k hk₁
      have hk₂ := (List.mem_append.1 hk).resolve_left hk₁
      obtain ⟨t', l, ht', hl, hh⟩ := h'.handled k hk₂ t (hsame.trans ht)
      exact ⟨t', l, ht', by rw [hl, hstory], hh⟩

lemma handles_turn {α : Type} (x : Exchange) (k : Nat) {f : Task → Turn Task α}
    (hf : ∀ t : Task, t.Handling set (f t).state (f t).events) :
    x.Handles (x.turn k f).1 [k] set := by
  cases ht : x.task? k with
  | none => exact turn_of_none ht f ▸ .refl x [k] set
  | some t =>
    rw [turn_of_some ht f]
    have hk := lt_length ht
    refine ⟨⟨List.length_set .., rfl, fun h => aligned_append h _ _ _ _⟩, fun j hj => ?_, ?_⟩
    · rw [task?_set x _ _ _ hk, story_append]
      simp [List.mem_singleton.not.1 hj]
    · intro j hj t' ht'
      obtain rfl := List.mem_singleton.1 hj
      obtain rfl : t = t' := Option.some.inj (ht.symm.trans ht')
      exact ⟨(f t).state, (f t).events, by simp [task?_set x _ _ _ hk], by simp [story_append],
        hf t⟩

lemma handles_reject (x : Exchange) (k : Nat) (now : Timestamp) (status : CallStatus)
    (set : RecorderSet) : x.Handles (x.reject k now status set).1 [k] set :=
  handles_turn x k fun _ => .reject now status

lemma reject_calm (x : Exchange) (k : Nat) (now : Timestamp) (status : CallStatus)
    (hc : set.Calm) : (x.reject k now status set).2 = none := by
  rw [reject]
  cases ht : x.task? k with
  | none => rw [turn_of_none ht]; rfl
  | some t =>
    rw [turn_of_some ht]
    obtain ⟨reply, hr⟩ := Task.reject_calm t now status hc
    simp only [hr, crashOf]

lemma handles_tearDown_go (q : CallQueue) (now : Timestamp) (x : Exchange) {es : List Entry}
    (hn : (es.map Entry.task).Nodup) :
    x.Handles (CallQueue.tearDown.go q now x es).1 (es.map Entry.task) q.recorders := by
  induction es generalizing x with
  | nil => exact .refl x [] q.recorders
  | cons e es ih =>
    obtain ⟨he, hes⟩ := List.nodup_cons.1 hn
    have hr := handles_reject x e.task now .rejected q.recorders
    simp only [CallQueue.tearDown.go]
    generalize x.reject e.task now .rejected q.recorders = r at hr ⊢
    obtain ⟨y, crash⟩ := r
    cases crash with
    | none => exact hr.append (ih y hes) (by simpa using he)
    | some c => exact hr.mono (by simp)

lemma handles_tearDown (q : CallQueue) (now : Timestamp) (x : Exchange)
    (hn : (q.waiting.map Entry.task).Nodup) :
    x.Handles (q.tearDown x now).1 (q.waiting.map Entry.task) q.recorders :=
  handles_tearDown_go q now x hn

def lastWords (x : Exchange) (now : Timestamp) (k : Nat) : Log :=
  match x.task? k with
  | none => []
  | some t => (t.drop now).events

lemma release_spec (x : Exchange) (k : Nat) (now : Timestamp) :
    x.Keeps (x.release k now).1 ∧
      ∀ j, (x.release k now).1.task? j = (if j = k then none else x.task? j) ∧
        (x.release k now).1.story j = x.story j ++ if j = k then x.lastWords now k else [] := by
  rw [release]
  cases ht : x.task? k with
  | none =>
    rw [turn_of_none ht]
    refine ⟨⟨List.length_set .., rfl, id⟩, fun j => ⟨?_, by simp [story, lastWords, ht]⟩⟩
    by_cases hk : k < x.tasks.length
    · exact task?_set x _ _ _ hk none j
    · by_cases hj : j = k
      · simp [task?, hj, Nat.not_lt.1 hk]
      · simp [task?, hj, List.set_eq_of_length_le (Nat.not_lt.1 hk)]
  | some t =>
    have hk := lt_length ht
    rw [turn_of_some ht]
    refine ⟨⟨by simp, rfl, fun h => aligned_append h _ _ _ _⟩, fun j => ⟨?_, ?_⟩⟩
    · simp only [List.set_set]
      exact task?_set x _ _ _ hk none j
    · simpa [lastWords, ht] using story_append x _ _ x.promises k (t.drop now).events j

lemma release_of_ended (h : ∀ t, x.task? k = some t → t.recorded = true ∧ t.promise = none)
    (now : Timestamp) : x.release k now = ({ x with tasks := x.tasks.set k none }, none) := by
  rw [release]
  cases ht : x.task? k with
  | none =>
    rw [turn_of_none ht]
    rfl
  | some t =>
    obtain ⟨hr, hp⟩ := h t ht
    rw [turn_of_some ht, Task.drop_of_ended hr hp]
    simp [Turn.pure, crashOf]

lemma releaseAll_spec (x : Exchange) (ks : List Nat) (now : Timestamp) :
    x.Keeps (x.releaseAll ks now).1 ∧
      ∀ j, (x.releaseAll ks now).1.task? j = (if j ∈ ks then none else x.task? j) ∧
        (x.releaseAll ks now).1.story j =
          x.story j ++ if j ∈ ks then x.lastWords now j else [] := by
  induction ks generalizing x with
  | nil => exact ⟨.refl x, fun j => by simp [releaseAll]⟩
  | cons k ks ih =>
    obtain ⟨hk, hs⟩ := release_spec x k now
    obtain ⟨hk', hs'⟩ := ih (x.release k now).1
    refine ⟨hk.trans hk', fun j => ?_⟩
    obtain ⟨ht, hl⟩ := hs j
    obtain ⟨ht', hl'⟩ := hs' j
    simp only [releaseAll]
    rw [ht', hl', hl]
    by_cases hj : j = k
    · subst hj
      simp [lastWords, ht]
    · simp [lastWords, ht, hj]

lemma Handles.release (h : x.Handles x₁ ks set) (now : Timestamp) :
    x.Departs (x₁.releaseAll ks now).1 ks set := by
  obtain ⟨hk, hs⟩ := releaseAll_spec x₁ ks now
  refine ⟨h.toKeeps.trans hk, fun k hk => ?_, fun k hk => by simp [hs k, hk], fun k hk t ht => ?_⟩
  · simpa [hs k, hk] using h.others k hk
  · obtain ⟨t', l, ht', hl, hh⟩ := h.handled k hk t ht
    exact ⟨l ++ (t'.drop now).events, by simp [hs k, hk, lastWords, ht', hl],
      t', l, now, hh, rfl⟩

lemma departs_nil (x : Exchange) (set : RecorderSet) : x.Departs x [] set :=
  ⟨.refl x, fun _ _ => ⟨rfl, rfl⟩, by simp, by simp⟩

end Switchboard.Exchange
