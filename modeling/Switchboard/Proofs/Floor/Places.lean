import Mathlib.Data.List.Pairwise
import Switchboard.Proofs.Floor.Lines
import Switchboard.Proofs.Floor.Records

/-! Every call that is not over is in one place: at one position of its queue or with one operator
of one pool. -/

namespace Switchboard

open scoped List

inductive Seat
  | inQueue (q i : Nat)
  | withOperator (p i : Nat)

lemma index_unique {α β : Type} {g : α → Option β} {as : List α} (hn : (as.filterMap g).Nodup)
    {i j : Nat} {b : β} (hi : as[i]?.bind g = some b) (hj : as[j]?.bind g = some b) : i = j := by
  induction as generalizing i j with
  | nil => simp at hi
  | cons a as ih =>
    have later {k : Nat} (hk : as[k]?.bind g = some b) : b ∈ as.filterMap g := by
      obtain ⟨a, ha, hab⟩ := Option.bind_eq_some_iff.1 hk
      exact List.mem_filterMap.2 ⟨a, List.mem_of_getElem? ha, hab⟩
    have first (hb : g a = some b) : b ∉ as.filterMap g := by
      have hcons : (a :: as).filterMap g = b :: as.filterMap g := List.filterMap_cons_some hb
      exact (List.nodup_cons.1 (hcons ▸ hn)).1
    have hrest : (as.filterMap g).Nodup := by
      refine hn.sublist ?_
      exact (List.sublist_cons_self a as).filterMap g
    cases i with
    | zero =>
      cases j with
      | zero => rfl
      | succ j => exact absurd (later (by simpa using hj)) (first (by simpa using hi))
    | succ i =>
      cases j with
      | zero => exact absurd (later (by simpa using hi)) (first (by simpa using hj))
      | succ j => exact congrArg (· + 1) (ih hrest (by simpa using hi) (by simpa using hj))

namespace Floor

def entryAt? (f : Floor) : Seat → Option Entry
  | .inQueue q i => (f.queue? q).bind (·.waiting[i]?)
  | .withOperator p i => (f.line? p i).map Line.entry

variable {f : Floor} {p q i : Nat} {queue : CallQueue} {e : Entry} {l : Line}

lemma mem_calls_of_queue (hq : f.queue? q = some queue) (he : e ∈ queue.waiting) :
    ⟨e, .waiting q⟩ ∈ f.calls := by
  have hm : (⟨e, .waiting q⟩ : Presence) ∈ f.waitingIn q := mem_waitingIn.2 ⟨rfl, queue, hq, he⟩
  have hr : q ∈ List.range f.queues.length := List.mem_range.2 (queue_lt hq)
  exact List.mem_append_left _ (List.mem_flatMap.2 ⟨q, hr, hm⟩)

lemma mem_calls_of_line (hl : f.line? p i = some l) :
    ⟨l.entry, .onLine l.recorders⟩ ∈ f.calls := by
  obtain ⟨pool, hp, hpl⟩ := Option.bind_eq_some_iff.1 hl
  have hm : (⟨l.entry, .onLine l.recorders⟩ : Presence) ∈ f.onLineIn p :=
    mem_onLineIn.2 ⟨pool, hp, Pool.mem_calls.2 ⟨i, l, hpl, rfl⟩⟩
  have hr : p ∈ List.range f.pools.length := List.mem_range.2 (pool_lt hp)
  exact List.mem_append_right _ (List.mem_flatMap.2 ⟨p, hr, hm⟩)

lemma exists_seat {c : Presence} (hc : c ∈ f.calls) : ∃ s, f.entryAt? s = some c.entry := by
  cases hpl : c.place with
  | waiting q =>
    obtain ⟨queue, hq, hm⟩ := queue_of_mem hc hpl
    obtain ⟨i, hi⟩ := List.mem_iff_getElem?.1 hm
    exact ⟨.inQueue q i, by simp only [entryAt?, hq, Option.bind_some, hi]⟩
  | onLine set =>
    obtain ⟨p, pool, hp, hm⟩ := pool_of_mem hc hpl
    obtain ⟨i, l, hl, rfl⟩ := Pool.mem_calls.1 hm
    exact ⟨.withOperator p i, by simp only [entryAt?, line?_of_pool? hp, hl, Option.map_some]⟩

lemma presence_of_entryAt? {s : Seat} (h : f.entryAt? s = some e) :
    (∃ q i, s = .inQueue q i ∧ ⟨e, .waiting q⟩ ∈ f.calls) ∨
      ∃ p i l, s = .withOperator p i ∧ f.line? p i = some l ∧ l.entry = e := by
  cases s with
  | inQueue q i =>
    obtain ⟨queue, hq, hi⟩ := Option.bind_eq_some_iff.1 h
    exact .inl ⟨q, i, rfl, mem_calls_of_queue hq (List.mem_of_getElem? hi)⟩
  | withOperator p i =>
    obtain ⟨l, hl, rfl⟩ := Option.map_eq_some_iff.1 h
    exact .inr ⟨p, i, l, rfl, hl, rfl⟩

section Unique

variable (hn : (f.calls.map Presence.task).Nodup)

include hn

lemma line_unique {p' i' : Nat} {l' : Line} (h : f.line? p i = some l)
    (h' : f.line? p' i' = some l') (ht : l.entry.task = l'.entry.task) : p = p' ∧ i = i' := by
  obtain ⟨pool, hp, hl⟩ := Option.bind_eq_some_iff.1 h
  obtain ⟨pool', hp', hl'⟩ := Option.bind_eq_some_iff.1 h'
  have ho : (((List.range f.pools.length).flatMap f.onLineIn).map Presence.task).Nodup := by
    rw [calls, List.map_append] at hn
    exact (List.nodup_append.1 hn).2.1
  rw [List.map_flatMap, List.nodup_flatMap] at ho
  obtain ⟨hin, hbetween⟩ := ho
  have hr : p ∈ List.range f.pools.length := List.mem_range.2 (pool_lt hp)
  have hr' : p' ∈ List.range f.pools.length := List.mem_range.2 (pool_lt hp')
  have hm : l.entry.task ∈ (f.onLineIn p).map Presence.task := by
    rw [onLineIn_of_pool? hp]
    exact List.mem_map_of_mem (Pool.mem_calls.2 ⟨i, l, hl, rfl⟩)
  have hm' : l.entry.task ∈ (f.onLineIn p').map Presence.task := by
    rw [onLineIn_of_pool? hp', ht]
    exact List.mem_map_of_mem (Pool.mem_calls.2 ⟨i', l', hl', rfl⟩)
  obtain rfl : p = p' := by
    by_contra hne
    have : Std.Symm (Function.onFun List.Disjoint fun p => (f.onLineIn p).map Presence.task) :=
      ⟨fun _ _ h => List.disjoint_symm h⟩
    exact hbetween.forall hr hr' hne hm hm'
  obtain rfl : pool = pool' := Option.some.inj (hp.symm.trans hp')
  refine ⟨rfl, ?_⟩
  have hpool := hin p hr
  rw [onLineIn_of_pool? hp, Pool.calls, List.map_filterMap] at hpool
  have on (k : Nat) (m : Line) (hm : pool.line? k = some m) :
      pool.operators[k]?.bind (fun o => o.call?.map Presence.task) = some m.entry.task := by
    obtain ⟨o, ho, hom⟩ := Option.bind_eq_some_iff.1 hm
    rw [ho, Option.bind_some, Pool.call?_eq_line?, hom]
    rfl
  exact index_unique hpool (on i l hl) (ht ▸ on i' l' hl')

lemma seat_unique {s s' : Seat} {e' : Entry} (h : f.entryAt? s = some e)
    (h' : f.entryAt? s' = some e') (ht : e.task = e'.task) : s = s' := by
  have same (c c' : Presence) (hc : c ∈ f.calls) (hc' : c' ∈ f.calls) (hcc : c.task = c'.task) :
      c = c' := List.inj_on_of_nodup_map hn hc hc' hcc
  rcases presence_of_entryAt? h with ⟨q, i, rfl, hm⟩ | ⟨p, i, l, rfl, hl, rfl⟩
  · rcases presence_of_entryAt? h' with ⟨q', i', rfl, hm'⟩ | ⟨p', i', l', rfl, hl', rfl⟩
    · have hc := same _ _ hm hm' ht
      obtain rfl : q = q' := by simpa using congrArg Presence.place hc
      obtain ⟨queue, hq, hi⟩ := Option.bind_eq_some_iff.1 h
      obtain ⟨queue', hq', hi'⟩ := Option.bind_eq_some_iff.1 h'
      obtain rfl : queue = queue' := Option.some.inj (hq.symm.trans hq')
      have hwait := nodup_waiting hn hq
      rw [← List.filterMap_eq_map] at hwait
      have hi : queue.waiting[i]?.bind (some ∘ Entry.task) = some e.task := by
        rw [hi]
        rfl
      have hi' : queue.waiting[i']?.bind (some ∘ Entry.task) = some e.task := by
        rw [hi', ht]
        rfl
      rw [index_unique hwait hi hi']
    · have hc := same _ _ hm (mem_calls_of_line hl') ht
      cases congrArg Presence.place hc
  · rcases presence_of_entryAt? h' with ⟨q', i', rfl, hm'⟩ | ⟨p', i', l', rfl, hl', rfl⟩
    · have hc := same _ _ (mem_calls_of_line hl) hm' ht
      cases congrArg Presence.place hc
    · obtain ⟨rfl, rfl⟩ := line_unique hn hl hl' ht
      rfl

end Unique

lemma act_cases (hn : (f.calls.map Presence.task).Nodup) (deed : Deed) :
    f.Move (f.act deed) ∨ (∃ q id, f.Arrival (f.act deed) q id) ∨
      ∃ t now, (f.act deed).calls = f.calls ∧ (f.act deed).exchange =
        ((f.exchange.welcome t).releaseAll [f.exchange.tasks.length] now).1 := by
  rcases bring_or_move hn deed with ⟨p, bounds, number, start, taken, now, rfl⟩ | ⟨hm, -⟩
  · apply Or.inr
    cases hd : f.door? p with
    | none =>
      refine .inr ⟨.newcomer f.exchange.promises bounds number start taken, now, ?_, ?_⟩
      · rw [act, bring_of_no_door bounds number start now hd]
        rfl
      · rw [act, bring_of_no_door bounds number start now hd]
    | some door =>
      obtain ⟨q, id⟩ := door
      exact .inl ⟨q, id, bring_arrives bounds number start now hd taken⟩
  · exact .inl hm

lemma length_welcome (x : Exchange) (t : Task) :
    (x.welcome t).tasks.length = x.tasks.length + 1 := by
  simp [Exchange.welcome]

lemma length_tasks_act (hn : (f.calls.map Presence.task).Nodup) (deed : Deed) :
    f.exchange.tasks.length ≤ (f.act deed).exchange.tasks.length := by
  rcases act_cases hn deed with hm | ⟨q, id, ha⟩ | ⟨t, now, -, hx⟩
  · cases hm with
    | leave gone set hands calls departs => exact Nat.le_of_eq departs.length.symm
    | answer q e p pool isPool draws calls exchange => exact Nat.le_of_eq (by rw [exchange])
  · obtain ⟨_, _, _, _, _, _, t, _, _, _, _, _, _, departs⟩ := ha
    rw [departs.length, length_welcome]
    exact Nat.le_succ _
  · have hk := ((f.exchange.welcome t).releaseAll_spec [f.exchange.tasks.length] now).1
    rw [hx, hk.length, length_welcome]
    exact Nat.le_succ _

lemma task_act (hn : (f.calls.map Presence.task).Nodup) (deed : Deed) {k : Nat}
    (hk : k ∈ (f.act deed).calls.map Presence.task) :
    k ∈ f.calls.map Presence.task ∨ k = f.exchange.tasks.length := by
  rcases act_cases hn deed with hm | ⟨q, id, ha⟩ | ⟨-, -, hc, -⟩
  · apply Or.inl
    cases hm with
    | leave gone set hands calls departs =>
      rw [(calls.map Presence.task).mem_iff, List.map_append]
      exact List.mem_append_right _ hk
    | answer q e p pool isPool draws calls exchange =>
      exact (perm_tasks_of_answer calls).mem_iff.2 hk
  · obtain ⟨_, _, _, _, _, _, t, _, _, _, number, gone, calls, -⟩ := ha
    have hm := calls.map Presence.task
    rw [List.map_append, List.map_append] at hm
    have hk := hm.mem_iff.2 (List.mem_append_right _ hk)
    exact (List.mem_append.1 hk).imp_right List.mem_singleton.1
  · exact .inl (hc ▸ hk)

lemma untouched_act (hn : (f.calls.map Presence.task).Nodup)
    (hb : ∀ c ∈ f.calls, c.task < f.exchange.tasks.length) (deed : Deed) {k : Nat}
    (hk : k < f.exchange.tasks.length) :
    ((f.act deed).exchange.task? k = f.exchange.task? k ∧
        (f.act deed).exchange.story k = f.exchange.story k) ∨
      k ∈ f.calls.map Presence.task ∧ k ∉ (f.act deed).calls.map Presence.task ∧
        (f.act deed).exchange.task? k = none ∧ ∀ t, f.exchange.task? k = some t →
          ∃ set l, t.Departure set l ∧
            (f.act deed).exchange.story k = f.exchange.story k ++ l := by
  have hne : k ≠ f.exchange.tasks.length := Nat.ne_of_lt hk
  have hold (t : Task) : (f.exchange.welcome t).task? k = f.exchange.task? k := by
    rw [Exchange.task?_welcome, if_neg hne]
  rcases act_cases hn deed with hm | ⟨q, id, ha⟩ | ⟨t, now, -, hx⟩
  · cases hm with
    | leave gone set hands calls departs =>
      have htasks := calls.map Presence.task
      rw [List.map_append] at htasks
      by_cases hg : k ∈ gone.map Presence.task
      · refine .inr ⟨htasks.mem_iff.2 (List.mem_append_left _ hg), ?_, departs.gone k hg, ?_⟩
        · intro hm
          exact (List.nodup_append.1 (htasks.nodup_iff.1 hn)).2.2 k hg k hm rfl
        · intro t ht
          obtain ⟨l, hl, hd⟩ := departs.departed k hg t ht
          exact ⟨set, l, hd, hl⟩
      · exact .inl (departs.others k hg)
    | answer q e p pool isPool draws calls exchange =>
      rw [exchange]
      exact .inl ⟨rfl, rfl⟩
  · obtain ⟨_, _, _, _, _, _, t, _, _, _, number, gone, calls, departs⟩ := ha
    have hgone : (gone.map (⟨·, .waiting q⟩)).map Presence.task = gone.map Entry.task := by
      rw [List.map_map]
      rfl
    have htasks := calls.map Presence.task
    rw [List.map_append, List.map_append, hgone] at htasks
    by_cases hg : k ∈ gone.map Entry.task
    · have hnew : (f.calls.map Presence.task ++ [f.exchange.tasks.length]).Nodup := by
        rw [List.nodup_append]
        refine ⟨hn, List.nodup_singleton _, ?_⟩
        intro j hj m hm
        obtain ⟨c, hc, rfl⟩ := List.mem_map.1 hj
        obtain rfl := List.mem_singleton.1 hm
        exact Nat.ne_of_lt (hb c hc)
      have hmem := htasks.mem_iff.2 (List.mem_append_left _ hg)
      refine .inr ⟨(List.mem_append.1 hmem).resolve_right (mt List.mem_singleton.1 hne), ?_,
        departs.gone k hg, ?_⟩
      · intro hm
        exact (List.nodup_append.1 (htasks.nodup_iff.1 hnew)).2.2 k hg k hm rfl
      · intro t' ht'
        obtain ⟨l, hl, hd⟩ := departs.departed k hg t' ((hold t).trans ht')
        exact ⟨_, l, hd, hl⟩
    · exact .inl ⟨(departs.others k hg).1.trans (hold t), (departs.others k hg).2⟩
  · obtain ⟨-, hs⟩ := (f.exchange.welcome t).releaseAll_spec [f.exchange.tasks.length] now
    obtain ⟨htask, hstory⟩ := hs k
    simp only [List.mem_singleton, hne, if_false, List.append_nil] at htask hstory
    rw [hx]
    exact .inl ⟨htask.trans (hold t), hstory⟩

def taskAt? (f : Floor) (s : Seat) : Option Nat := (f.entryAt? s).map Entry.task

lemma exists_taskAt?_iff {k : Nat} :
    (∃ s, f.taskAt? s = some k) ↔ k ∈ f.calls.map Presence.task := by
  constructor
  · rintro ⟨s, hs⟩
    obtain ⟨e, he, rfl⟩ := Option.map_eq_some_iff.1 hs
    rcases presence_of_entryAt? he with ⟨q, i, -, hm⟩ | ⟨p, i, l, -, hl, rfl⟩
    · exact List.mem_map_of_mem hm
    · exact List.mem_map_of_mem (mem_calls_of_line hl)
  · intro hm
    obtain ⟨c, hc, rfl⟩ := List.mem_map.1 hm
    obtain ⟨s, hs⟩ := exists_seat hc
    exact ⟨s, by rw [taskAt?, hs]; rfl⟩

lemma exists_unique_seat (hn : (f.calls.map Presence.task).Nodup) {k : Nat}
    (hk : k ∈ f.calls.map Presence.task) : ∃! s, f.taskAt? s = some k := by
  obtain ⟨s, hs⟩ := exists_taskAt?_iff.2 hk
  refine ⟨s, hs, ?_⟩
  intro s' hs'
  obtain ⟨e, he, hek⟩ := Option.map_eq_some_iff.1 hs
  obtain ⟨e', he', hek'⟩ := Option.map_eq_some_iff.1 hs'
  exact seat_unique hn he' he (hek'.trans hek.symm)

def Draws (f : Floor) (p q : Nat) : Prop := ∃ pool, f.pool? p = some pool ∧ pool.queue = some q

def executed? (f : Floor) : Deed → Option Nat
  | .work p i _ _ => (f.line? p i).map (·.entry.task)
  | _ => none

lemma task_of_admission? {deed : Deed} {a : Admission} (h : f.admission? deed = some a) :
    a.task = f.exchange.tasks.length := by
  cases deed with
  | bring p bounds number start taken now =>
    obtain ⟨door, -, rfl⟩ := Option.map_eq_some_iff.1 h
    rfl
  | _ => cases h

lemma line?_eq_none_of_isIdle {pool : Pool} (h : pool.isIdle = true) (i : Nat) :
    pool.line? i = none := by
  rw [Pool.line?, Option.bind_eq_none_iff]
  intro o ho
  have hb : o.isBusy = false := by
    have hall : ∀ o ∈ pool.operators, o.isBusy = false := by
      simpa [Pool.isIdle, Pool.busy, List.filter_eq_nil_iff] using h
    exact hall o (List.mem_of_getElem? ho)
  obtain ⟨id, stance⟩ := o
  cases stance with
  | serving e set since => cases hb
  | _ => rfl

lemma work_of_executed? {deed : Deed} {k : Nat} (h : f.executed? deed = some k) :
    ∃ c, c.task = k ∧ f.calls ~ c :: (f.act deed).calls := by
  cases deed with
  | work p i now draw =>
    obtain ⟨l, hl, hk⟩ := Option.map_eq_some_iff.1 h
    cases works_work f p i now draw with
    | rests before => cases before.symm.trans hl
    | picksUp _ _ _ _ _ _ _ _ _ _ before => cases before.symm.trans hl
    | hangsUp m before _ _ _ calls =>
      obtain rfl := Option.some.inj (before.symm.trans hl)
      exact ⟨⟨m.entry, .onLine m.recorders⟩, hk, calls⟩
  | _ => cases h

end Floor

namespace Day

def executions (d : Day) : List Floor.Deed → List Nat
  | [] => []
  | deed :: deeds => (d.floor.executed? deed).toList ++ (d.act deed).executions deeds

lemma executions_concat (d : Day) (deeds : List Floor.Deed) (deed : Floor.Deed) :
    d.executions (deeds ++ [deed]) =
      d.executions deeds ++ ((d.run deeds).floor.executed? deed).toList := by
  induction deeds generalizing d with
  | nil => simp [executions, run]
  | cons first deeds ih =>
    rw [List.cons_append, executions, ih, executions, List.append_assoc]
    rfl

lemma after_concat (deeds : List Floor.Deed) (deed : Floor.Deed) :
    after (deeds ++ [deed]) = (after deeds).act deed :=
  after_append ..

lemma floor_act (d : Day) (deed : Floor.Deed) : (d.act deed).floor = d.floor.act deed := rfl

lemma executed_once (deeds : List Floor.Deed) :
    (executions ⟨.empty, []⟩ deeds).Nodup ∧ ∀ k ∈ executions ⟨.empty, []⟩ deeds,
      k < (after deeds).floor.exchange.tasks.length ∧
        k ∉ (after deeds).floor.calls.map Presence.task := by
  induction deeds using List.reverseRecOn with
  | nil => exact ⟨.nil, fun _ h => absurd h List.not_mem_nil⟩
  | append_singleton deeds deed ih =>
    have hs := sound_after deeds
    obtain ⟨hn, hgone⟩ := ih
    rw [executions_concat, after_concat, floor_act]
    show (_ ++ ((after deeds).floor.executed? deed).toList).Nodup ∧
      ∀ k ∈ _ ++ ((after deeds).floor.executed? deed).toList, _
    generalize after deeds = d at hs hgone ⊢
    have later (k : Nat) (hk : k < d.floor.exchange.tasks.length)
        (hc : k ∉ d.floor.calls.map Presence.task) :
        k < (d.floor.act deed).exchange.tasks.length ∧
          k ∉ (d.floor.act deed).calls.map Presence.task := by
      refine ⟨Nat.lt_of_lt_of_le hk (Floor.length_tasks_act hs.distinct deed), ?_⟩
      intro hm
      rcases Floor.task_act hs.distinct deed hm with hm | hm
      · exact hc hm
      · exact Nat.ne_of_lt hk hm
    cases he : d.floor.executed? deed with
    | none =>
      rw [Option.toList_none, List.append_nil]
      refine ⟨hn, ?_⟩
      intro k hk
      obtain ⟨hlt, hc⟩ := hgone k hk
      exact later k hlt hc
    | some k =>
      obtain ⟨c, rfl, hcalls⟩ := Floor.work_of_executed? he
      have htasks := hcalls.map Presence.task
      have hc : c ∈ d.floor.calls := hcalls.mem_iff.2 (List.mem_cons_self ..)
      have hout : c.task ∉ (d.floor.act deed).calls.map Presence.task :=
        (List.nodup_cons.1 (htasks.nodup_iff.1 hs.distinct)).1
      rw [Option.toList_some]
      refine ⟨?_, ?_⟩
      · rw [List.nodup_append]
        refine ⟨hn, List.nodup_singleton _, ?_⟩
        rintro j hj _ hk' rfl
        obtain rfl := List.mem_singleton.1 hk'
        exact (hgone _ hj).2 (List.mem_map_of_mem hc)
      · intro j hj
        rcases List.mem_append.1 hj with hj | hj
        · obtain ⟨hlt, hc⟩ := hgone j hj
          exact later j hlt hc
        · obtain rfl := List.mem_singleton.1 hj
          obtain ⟨a, ha, hp⟩ := hs.present c hc
          have hlt : c.task < d.floor.exchange.tasks.length := hp.task ▸ hs.bounded a ha
          exact ⟨Nat.lt_of_lt_of_le hlt (Floor.length_tasks_act hs.distinct deed), hout⟩

lemma drew_of_line {deeds : List Floor.Deed} {p i : Nat} {l : Line} {a : Admission}
    (hl : (after deeds).floor.line? p i = some l) (ha : a ∈ (after deeds).admissions)
    (ht : l.entry.task = a.task) :
    ∃ before, before <+: deeds ∧ (after before).floor.Draws p a.queue := by
  induction deeds using List.reverseRecOn with
  | nil => cases ha
  | append_singleton deeds deed ih =>
    have hs := sound_after deeds
    have hpre : deeds <+: deeds ++ [deed] := List.prefix_append ..
    rw [after_concat] at hl ha
    have old (hl : (after deeds).floor.line? p i = some l) : a ∈ (after deeds).admissions := by
      rcases List.mem_append.1 ha with ha | ha
      · exact ha
      · obtain ⟨b, hb, hp⟩ := hs.present _ (Floor.mem_calls_of_line hl)
        have hnew := Floor.task_of_admission? (Option.mem_toList.1 ha)
        have hlt := hs.bounded b hb
        rw [← hp.task] at hlt
        exact absurd (ht.trans hnew) (Nat.ne_of_lt hlt)
    have earlier (hl : (after deeds).floor.line? p i = some l) :
        ∃ before, before <+: deeds ++ [deed] ∧ (after before).floor.Draws p a.queue := by
      obtain ⟨before, hb, hd⟩ := ih hl (old hl)
      exact ⟨before, hb.trans hpre, hd⟩
    by_cases hw : ∃ now draw, deed = .work p i now draw
    · obtain ⟨now, draw, rfl⟩ := hw
      rw [floor_act] at hl
      have hwork := Floor.works_work (after deeds).floor p i now draw
      cases hwork with
      | rests _ hafter => cases hafter.symm.trans hl
      | hangsUp _ _ hafter => cases hafter.symm.trans hl
      | picksUp pool isPool _ q draws queue isQueue e es waits _ id hafter =>
        obtain rfl := Option.some.inj (hafter.symm.trans hl)
        have he : e ∈ queue.waiting := waits ▸ List.mem_cons_self ..
        obtain ⟨b, hb, hp⟩ := hs.present _ (Floor.mem_calls_of_queue isQueue he)
        have ha : a ∈ (after deeds).admissions := by simpa [act, Floor.admission?] using ha
        obtain rfl := hs.admission_unique hb ha (hp.task.symm.trans ht)
        obtain rfl := hp.waiting q rfl
        exact ⟨deeds, hpre, pool, isPool, draws⟩
    · rw [floor_act, Floor.line?_act _ fun now draw h => hw ⟨now, draw, h⟩] at hl
      exact earlier hl

lemma shown_iff {d : Day} {G : Admission → RecorderSet → Prop} (h : d.Sound G) {a : Admission}
    (ha : a ∈ d.admissions) : ((CallFuture.of a.task).tryResult d.floor.log).1 = none ↔
      a.task ∈ d.floor.calls.map Presence.task := by
  have hshown : ((CallFuture.of a.task).tryResult d.floor.log).1 = none ↔
      (d.floor.exchange.story a.task).ending? a.task = none := by
    rw [← h.proper.ending?_log]
    cases he : d.floor.exchange.log.ending? a.task <;>
      simp [CallFuture.tryResult, CallFuture.of, Floor.log, he]
  rw [hshown]
  by_cases hc : a.task ∈ d.floor.calls.map Presence.task
  · obtain ⟨c, hcm, hct⟩ := List.mem_map.1 hc
    obtain ⟨b, hb, hp⟩ := h.present c hcm
    obtain rfl := h.admission_unique hb ha (hp.task.symm.trans hct)
    rw [hp.silent]
    exact iff_of_true rfl hc
  · obtain ⟨set, r, e, hs, -, -, he, -⟩ := (h.gone a ha hc).story
    refine iff_of_false ?_ hc
    rw [hs]
    rcases he with rfl | ⟨o, rfl⟩
    · simp [Log.ending?]
    · simp [Log.ending?]

lemma queue_of_seat {d : Day} {G : Admission → RecorderSet → Prop} (h : d.Sound G) {a : Admission}
    (ha : a ∈ d.admissions) {q i : Nat} (hs : d.floor.taskAt? (.inQueue q i) = some a.task) :
    q = a.queue := by
  obtain ⟨e, he, hea⟩ := Option.map_eq_some_iff.1 hs
  obtain ⟨queue, hq, hi⟩ := Option.bind_eq_some_iff.1 he
  obtain ⟨b, hb, hp⟩ := h.present _ (Floor.mem_calls_of_queue hq (List.mem_of_getElem? hi))
  obtain rfl := h.admission_unique hb ha (hp.task.symm.trans hea)
  exact hp.waiting q rfl

lemma not_present_of_isDrained {deeds : List Floor.Deed} {p : Nat} {pool : Pool}
    (hp : (after deeds).floor.pool? p = some pool)
    (hd : (after deeds).floor.isDrained pool = true) {a : Admission}
    (ha : a ∈ (after deeds).admissions)
    (hq : pool.queue = some a.queue ∨ (after deeds).floor.queue? a.queue = none)
    (honly : ∀ before, before <+: deeds → ∀ j, (after before).floor.Draws j a.queue →
      j = p ∨ (after deeds).floor.pool? j = none) :
    a.task ∉ (after deeds).floor.calls.map Presence.task := by
  obtain ⟨hcalls, hidle⟩ := Bool.and_eq_true_iff.1 hd
  intro hm
  obtain ⟨s, hs⟩ := Floor.exists_taskAt?_iff.2 hm
  obtain ⟨e, he, hea⟩ := Option.map_eq_some_iff.1 hs
  rcases Floor.presence_of_entryAt? he with ⟨q, i, rfl, hw⟩ | ⟨j, i, l, rfl, hl, rfl⟩
  · obtain ⟨b, hb, hpres⟩ := (sound_after deeds).present _ hw
    obtain rfl := (sound_after deeds).admission_unique hb ha (hpres.task.symm.trans hea)
    obtain rfl := hpres.waiting q rfl
    obtain ⟨queue, hqueue, hi⟩ := Option.bind_eq_some_iff.1 he
    rcases hq with hq | hq
    · simp only [Floor.hasNoCalls, Floor.queueOf?, hq, Option.bind_some, hqueue,
        CallQueue.isEmpty, List.isEmpty_iff] at hcalls
      rw [hcalls] at hi
      cases hi
    · cases hq.symm.trans hqueue
  · obtain ⟨before, hpre, hdraws⟩ := drew_of_line hl ha hea
    obtain ⟨pool', hp', hl'⟩ := Option.bind_eq_some_iff.1 hl
    rcases honly before hpre j hdraws with rfl | hgone
    · obtain rfl := Option.some.inj (hp.symm.trans hp')
      cases (Floor.line?_eq_none_of_isIdle hidle i).symm.trans hl'
    · cases hgone.symm.trans hp'

end Day

/-- On every day, a call that was given an identifier and whose future shows no outcome is in
exactly one place, one whose future shows an outcome is in none, and no call is carried out twice.
When a pool that had the queue of a call to itself is drained, the call is resolved and recorded. -/
theorem call_in_one_place (deeds : List Floor.Deed) :
    let d := Day.after deeds
    let f := d.floor
    (∀ a ∈ d.admissions,
      (((CallFuture.of a.task).tryResult f.log).1 = none → ∃! s, f.taskAt? s = some a.task) ∧
      (((CallFuture.of a.task).tryResult f.log).1 ≠ none → ∀ s, f.taskAt? s ≠ some a.task) ∧
      ∀ q i, f.taskAt? (.inQueue q i) = some a.task → q = a.queue) ∧
    (Day.executions ⟨.empty, []⟩ deeds).Nodup ∧
    (∀ p i now draw, f.executed? (.work p i now draw) = none →
      (f.work p i now draw).exchange = f.exchange) ∧
    ∀ p pool, f.pool? p = some pool → f.isDrained pool = true → ∀ a ∈ d.admissions,
      (pool.queue = some a.queue ∨ f.queue? a.queue = none) →
      (∀ before, before <+: deeds → ∀ j, (Day.after before).floor.Draws j a.queue →
        j = p ∨ f.pool? j = none) →
      ((CallFuture.of a.task).tryResult f.log).1 ≠ none ∧
        (∃ set r, (a.task, set, r) ∈ f.exchange.records ∧ r.callId = a.id) ∧
        (Day.Calm deeds → ∃ o, f.log.outcomes a.task = [o]) := by
  have h := Day.sound_after deeds
  refine ⟨?_, (Day.executed_once deeds).1, ?_, ?_⟩
  · intro a ha
    refine ⟨?_, ?_, ?_⟩
    · intro hnone
      exact Floor.exists_unique_seat h.distinct ((Day.shown_iff h ha).1 hnone)
    · intro hsome s hs
      exact hsome ((Day.shown_iff h ha).2 (Floor.exists_taskAt?_iff.1 ⟨s, hs⟩))
    · intro q i hs
      exact Day.queue_of_seat h ha hs
  · intro p i now draw hnone
    cases Floor.works_work (Day.after deeds).floor p i now draw with
    | rests _ _ exchange => exact exchange
    | picksUp _ _ _ _ _ _ _ _ _ _ _ _ _ exchange => exact exchange
    | hangsUp l before => simp [Floor.executed?, before] at hnone
  · intro p pool hp hd a ha hq honly
    have hc := Day.not_present_of_isDrained hp hd ha hq honly
    refine ⟨fun hnone => hc ((Day.shown_iff h ha).1 hnone), ?_, ?_⟩
    · exact Accounted.record_of_gone (h.gone a ha hc)
    · intro hcalm
      have hs := Day.sound_after_of_calm hcalm
      obtain ⟨o, ho, -⟩ := hs.outcome_of_gone (fun _ _ => id) (hs.gone a ha hc)
      exact ⟨o, ho⟩

def Day.untilDrained : List Floor.Deed :=
  let midnight := Timestamp.ofPosition 0
  [.build 1 4, .bring 0 ⟨1, 2, .zero⟩ "555-0100" midnight false midnight, .beginStart 0,
    .work 0 0 midnight 0, .work 0 0 midnight 0, .work 0 0 midnight 0]

theorem call_in_one_place_until_drained :
    let f := (Day.after Day.untilDrained).floor
    ((CallFuture.of 0).tryResult f.log).1 ≠ none ∧
      (∃ set r, (0, set, r) ∈ f.exchange.records ∧ r.callId = 1) := by
  intro f
  obtain ⟨-, -, -, h⟩ := call_in_one_place Day.untilDrained
  let a : Admission := ⟨0, 0, 1, .ok (.ok ⟨1, .of 0⟩)⟩
  have ha : a ∈ (Day.after Day.untilDrained).admissions := by
    have hadm : (Day.after Day.untilDrained).admissions = [a] := rfl
    rw [hadm]
    exact List.mem_singleton.2 rfl
  have honly : ∀ before, before <+: Day.untilDrained →
      ∀ j, (Day.after before).floor.Draws j 0 → j = 0 ∨ f.pool? j = none := by
    rintro before hb j ⟨pool, hp, -⟩
    have hone : ∀ n ≤ 6, (Day.after (Day.untilDrained.take n)).floor.pools.length ≤ 1 := by
      decide
    have hlt := Floor.pool_lt hp
    rw [List.prefix_iff_eq_take.1 hb] at hlt
    have hle := hone before.length hb.length_le
    omega
  obtain ⟨hshown, hrecord, -⟩ := h 0 _ rfl rfl a ha (.inl rfl) honly
  exact ⟨hshown, hrecord⟩

end Switchboard
