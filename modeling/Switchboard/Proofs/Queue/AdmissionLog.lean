import Mathlib.Data.List.Nodup
import Switchboard.Exchange

/-! The admission log of a queue: every call that was brought to it, oldest first, with what became
of the call. A queue keeps exactly those calls that wait by its log, in the order of the log. -/

namespace Switchboard

inductive Fate
  | waiting
  | popped
  /-- A later call from its number took its place. -/
  | evicted
  /-- The queue was full. -/
  | refused
  /-- A recorder crashed while the call was brought. -/
  | lost
deriving DecidableEq

structure AdmissionLog where
  lines : List (Entry × Fate)
  capacity : UInt64

namespace AdmissionLog

def empty (capacity : UInt64) : AdmissionLog := ⟨[], capacity⟩

def those (l : AdmissionLog) (s : Fate) : List Entry := (l.lines.filter (·.2 = s)).map Prod.fst

def isFull (l : AdmissionLog) : Bool := l.capacity.toNat ≤ (l.those .waiting).length

def add (l : AdmissionLog) (e : Entry) (s : Fate) : AdmissionLog :=
  { l with lines := l.lines ++ [(e, s)] }

def displaced (number : String) (line : Entry × Fate) : Entry × Fate :=
  if line.2 = .waiting ∧ line.1.number = number then (line.1, .evicted) else line

def evict (l : AdmissionLog) (number : String) : AdmissionLog :=
  { l with lines := l.lines.map (displaced number) }

def bring (l : AdmissionLog) (e : Entry) (crashed : Bool) : AdmissionLog :=
  if l.isFull then l.add e (if crashed then .lost else .refused)
  else (l.evict e.number).add e (if crashed then .lost else .waiting)

def popFirst : List (Entry × Fate) → List (Entry × Fate)
  | [] => []
  | (e, .waiting) :: ls => (e, .popped) :: ls
  | l :: ls => l :: popFirst ls

def pop (l : AdmissionLog) : AdmissionLog := { l with lines := popFirst l.lines }

def setCapacity (l : AdmissionLog) (capacity : UInt64) : AdmissionLog :=
  { l with capacity := capacity }

def InTurn (lines : List (Entry × Fate)) : Prop :=
  lines.Pairwise fun a b => a.2 = .waiting → b.2 ≠ .popped

lemma those_add (l : AdmissionLog) (e : Entry) (s t : Fate) :
    (l.add e s).those t = l.those t ++ if s = t then [e] else [] := by
  by_cases h : s = t <;> simp [those, add, List.filter_append, h]

lemma those_evict_waiting (l : AdmissionLog) (number : String) :
    (l.evict number).those .waiting = (l.those .waiting).filter (·.number ≠ number) := by
  rcases l with ⟨lines, capacity⟩
  induction lines with
  | nil => rfl
  | cons line lines ih =>
    obtain ⟨e, s⟩ := line
    simp only [those, evict] at ih ⊢
    by_cases hs : s = .waiting
    · by_cases hn : e.number = number <;> simp [displaced, hs, hn, ih]
    · simp [displaced, hs, ih]

lemma those_evict (l : AdmissionLog) (number : String) {s : Fate} (hw : s ≠ .waiting)
    (he : s ≠ .evicted) : (l.evict number).those s = l.those s := by
  rcases l with ⟨lines, capacity⟩
  induction lines with
  | nil => rfl
  | cons line lines ih =>
    obtain ⟨e, t⟩ := line
    simp only [those, evict] at ih ⊢
    by_cases ht : t = .waiting ∧ e.number = number
    · simp [displaced, ht, ih, Ne.symm hw, Ne.symm he]
    · have hd : displaced number (e, t) = (e, t) := if_neg ht
      by_cases hts : t = s
      · subst hts
        simp [hd, ih]
      · simp [hd, hts, ih]

lemma map_fst_evict (l : AdmissionLog) (number : String) :
    (l.evict number).lines.map Prod.fst = l.lines.map Prod.fst := by
  simp only [evict, List.map_map]
  apply List.map_congr_left
  intro line _
  rw [Function.comp_apply, displaced]
  split <;> rfl

lemma map_fst_popFirst (lines : List (Entry × Fate)) :
    (popFirst lines).map Prod.fst = lines.map Prod.fst := by
  fun_induction popFirst lines <;> simp_all

lemma those_pop_waiting (l : AdmissionLog) : l.pop.those .waiting = (l.those .waiting).tail := by
  rcases l with ⟨lines, capacity⟩
  simp only [those, pop]
  fun_induction popFirst lines with
  | case1 => rfl
  | case2 e ls => simp
  | case3 line ls hl ih =>
    have : line.2 ≠ .waiting := fun h => hl line.1 (by rw [← h])
    simp [this, ih]

lemma those_pop_popped {l : AdmissionLog} (h : InTurn l.lines) :
    l.pop.those .popped = l.those .popped ++ (l.those .waiting).head?.toList := by
  rcases l with ⟨lines, capacity⟩
  simp only [those, pop] at h ⊢
  fun_induction popFirst lines with
  | case1 => rfl
  | case2 e ls =>
    -- Nothing behind the first that waits was popped.
    have : ls.filter (·.2 = .popped) = [] := by
      simpa [InTurn, List.filter_eq_nil_iff] using (List.pairwise_cons.1 h).1
    simp [this]
  | case3 line ls hl ih =>
    have hw : line.2 ≠ .waiting := fun h => hl line.1 (by rw [← h])
    have := ih (List.pairwise_cons.1 h).2
    by_cases hp : line.2 = .popped <;> simp [hw, hp, this]

lemma those_pop (l : AdmissionLog) {s : Fate} (hw : s ≠ .waiting) (hp : s ≠ .popped) :
    l.pop.those s = l.those s := by
  rcases l with ⟨lines, capacity⟩
  simp only [those, pop]
  fun_induction popFirst lines with
  | case1 => rfl
  | case2 e ls => simp [Ne.symm hw, Ne.symm hp]
  | case3 line ls hl ih => by_cases hs : line.2 = s <;> simp [hs, ih]

lemma inTurn_add {lines : List (Entry × Fate)} {e : Entry} {s : Fate} (h : InTurn lines)
    (hs : s ≠ .popped) : InTurn (lines ++ [(e, s)]) := by
  refine List.pairwise_append.2 ⟨h, List.pairwise_singleton _ _, ?_⟩
  rintro a - b hb -
  obtain rfl := List.mem_singleton.1 hb
  exact hs

lemma inTurn_evict {lines : List (Entry × Fate)} (number : String) (h : InTurn lines) :
    InTurn (lines.map (displaced number)) := by
  refine List.Pairwise.map _ (fun a b hab ha hb => ?_) h
  rw [displaced] at ha hb
  split at ha <;> split at hb <;> simp_all

lemma inTurn_popFirst {lines : List (Entry × Fate)} (h : InTurn lines) :
    InTurn (popFirst lines) := by
  fun_induction popFirst lines with
  | case1 => exact h
  | case2 e ls => exact List.pairwise_cons.2 ⟨by simp, (List.pairwise_cons.1 h).2⟩
  | case3 line ls hl ih =>
    have hw : line.2 ≠ .waiting := fun h => hl line.1 (by rw [← h])
    exact List.pairwise_cons.2 ⟨fun b _ hb => absurd hb hw, ih (List.pairwise_cons.1 h).2⟩

lemma those_sublist (l : AdmissionLog) (s : Fate) : (l.those s).Sublist (l.lines.map Prod.fst) :=
  List.filter_sublist.map Prod.fst

def Displaced (lines : List (Entry × Fate)) : Prop :=
  ∀ e, (e, .evicted) ∈ lines →
    ∃ d : Entry, d.number = e.number ∧ [e, d].Sublist (lines.map Prod.fst)

lemma displaced_add {lines : List (Entry × Fate)} (h : Displaced lines) (e : Entry) {s : Fate}
    (hs : s ≠ .evicted) : Displaced (lines ++ [(e, s)]) := by
  intro e' hm
  rcases List.mem_append.1 hm with hm | hm
  · obtain ⟨d, hd, hsub⟩ := h e' hm
    refine ⟨d, hd, hsub.trans ?_⟩
    exact (List.sublist_append_left lines [(e, s)]).map Prod.fst
  · obtain ⟨-, rfl⟩ : e' = e ∧ Fate.evicted = s := by simpa using hm
    exact absurd rfl hs

lemma displaced_evict_add {lines : List (Entry × Fate)} (h : Displaced lines) (e : Entry) {s : Fate}
    (hs : s ≠ .evicted) : Displaced (lines.map (displaced e.number) ++ [(e, s)]) := by
  have hfst : (lines.map (displaced e.number) ++ [(e, s)]).map Prod.fst =
      lines.map Prod.fst ++ [e] := by
    have he := map_fst_evict ⟨lines, 0⟩ e.number
    simpa [evict] using he
  intro e' hm
  rw [hfst]
  rcases List.mem_append.1 hm with hm | hm
  · obtain ⟨⟨d, t⟩, hd, hdt⟩ := List.mem_map.1 hm
    by_cases hw : t = .waiting ∧ d.number = e.number
    · obtain rfl : d = e' := by
        rw [displaced, if_pos hw] at hdt
        exact congrArg Prod.fst hdt
      have hmem : d ∈ lines.map Prod.fst := List.mem_map_of_mem hd
      exact ⟨e, hw.2.symm, (List.singleton_sublist.2 hmem).append (.refl [e])⟩
    · rw [displaced, if_neg hw] at hdt
      obtain ⟨c, hc, hsub⟩ := h e' (hdt ▸ hd)
      exact ⟨c, hc, hsub.trans (List.sublist_append_left _ [e])⟩
  · obtain ⟨-, rfl⟩ : e' = e ∧ Fate.evicted = s := by simpa using hm
    exact absurd rfl hs

lemma displaced_bring {l : AdmissionLog} (h : Displaced l.lines) (e : Entry) (crashed : Bool) :
    Displaced (l.bring e crashed).lines := by
  rw [bring]
  split
  · exact displaced_add h e (by cases crashed <;> simp)
  · exact displaced_evict_add h e (by cases crashed <;> simp)

lemma displaced_popFirst {lines : List (Entry × Fate)} (h : Displaced lines) :
    Displaced (popFirst lines) := by
  have hm (e : Entry) (hm : (e, .evicted) ∈ popFirst lines) : (e, .evicted) ∈ lines := by
    clear h
    fun_induction popFirst lines with
    | case1 => exact hm
    | case2 d ls => simpa using hm
    | case3 line ls hl ih =>
      rcases List.mem_cons.1 hm with hm | hm
      · exact hm ▸ List.mem_cons_self ..
      · exact List.mem_cons_of_mem _ (ih hm)
  intro e he
  rw [map_fst_popFirst]
  exact h e (hm e he)

lemma perm_fates (l : AdmissionLog) :
    (l.lines.map Prod.fst).Perm
      (l.those .popped ++ l.those .evicted ++ l.those .refused ++ l.those .waiting ++
        l.those .lost) := by
  rw [List.perm_iff_count]
  intro e
  rcases l with ⟨lines, capacity⟩
  simp only [those, List.count_append]
  induction lines with
  | nil => rfl
  | cons line lines ih =>
    obtain ⟨e', s⟩ := line
    cases s <;> simp [List.count_cons, ih] <;> omega

end AdmissionLog

end Switchboard
