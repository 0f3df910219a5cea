import Switchboard.Proofs.Floor.Leading
import Switchboard.Proofs.Task.Numbers

namespace Switchboard

namespace Exchange

def HasRecord (x : Exchange) (k : Nat) (r : CallRecord) : Prop :=
  (∃ set, (k, set, r) ∈ x.records) ∨ ∃ t, x.task? k = some t ∧ t.record = r

structure Lists (x : Exchange) (k : Nat) (number : String) : Prop where
  known : k < x.tasks.length
  task : ∀ t, x.task? k = some t → t.Bears number
  story : (x.story k).Bears number
  kept : ∃ r, x.HasRecord k r

variable {x x' : Exchange} {k : Nat} {number : String} {r : CallRecord}

lemma Lists.number_eq (h : x.Lists k number) (hr : x.HasRecord k r) : r.number = number := by
  obtain ⟨set, hset⟩ | ⟨t, ht, rfl⟩ := hr
  · exact h.story set r (mem_records.1 hset)
  · exact (h.task t ht).written

lemma Lists.of_same (h : x.Lists k number) (hl : x.tasks.length ≤ x'.tasks.length)
    (ht : x'.task? k = x.task? k) (hs : x'.story k = x.story k) : x'.Lists k number where
  known := Nat.lt_of_lt_of_le h.known hl
  task t ht' := h.task t (ht ▸ ht')
  story := hs ▸ h.story
  kept := by
    obtain ⟨r, hr⟩ := h.kept
    refine ⟨r, hr.imp ?_ ?_⟩
    · rintro ⟨set, hset⟩
      exact ⟨set, mem_records.2 (hs ▸ mem_records.1 hset)⟩
    · rintro ⟨t, ht', hr⟩
      exact ⟨t, ht ▸ ht', hr⟩

lemma Lists.departed {t : Task} {set s : RecorderSet} {l : Log} {p : PromiseId}
    (h : x.Lists k number) (hl : x.tasks.length ≤ x'.tasks.length) (ht : x.task? k = some t)
    (hopen : t.IsOpen p) (hb : t.bound = some s) (hd : t.Departure set l)
    (hgone : x'.task? k = none) (hs : x'.story k = x.story k ++ l) : x'.Lists k number where
  known := Nat.lt_of_lt_of_le h.known hl
  task t' ht' := by cases hgone.symm.trans ht'
  story := hs ▸ h.story.append ((h.task t ht).departure hd)
  kept := by
    obtain ⟨s', r, e, rfl, -⟩ := Task.departure_story hopen hb hd
    refine ⟨r, .inl ⟨s', mem_records.2 ?_⟩⟩
    rw [hs]
    exact List.mem_append_right _ (List.mem_cons_self ..)

end Exchange

namespace Floor

variable {f : Floor} {k p q : Nat} {number : String} {id : CallId}

lemma Sound.bound_of_mem (h : f.Sound) {c : Presence} (hc : c ∈ f.calls) {t : Task}
    (ht : f.exchange.task? c.task = some t) : ∃ s, t.bound = some s := by
  obtain ⟨admissions, h⟩ := h
  obtain ⟨a, -, hp⟩ := Accounted.present h c hc
  obtain ⟨t', ht', hpend⟩ := hp.pending
  obtain rfl := Option.some.inj ((hp.task ▸ ht).symm.trans ht')
  obtain ⟨s, hs, -⟩ := hpend.bound
  exact ⟨s, hs⟩

lemma Sound.unborn (h : f.Sound) : f.exchange.story f.exchange.tasks.length = [] := by
  obtain ⟨admissions, h⟩ := h
  exact Accounted.unborn h _ (Nat.le_refl _)

lemma Sound.lists_act (h : f.Sound) (hx : f.exchange.Lists k number) (deed : Deed) :
    (f.act deed).exchange.Lists k number := by
  have hlength := length_tasks_act h.distinct deed
  obtain ⟨ht, hs⟩ | ⟨hin, -, hgone, hdeparts⟩ := h.untouched deed hx.known
  · exact hx.of_same hlength ht hs
  · obtain ⟨c, hc, rfl⟩ := List.mem_map.1 hin
    obtain ⟨t, ht, hopen, -⟩ := h.pending_of_mem hc
    obtain ⟨s, hb⟩ := h.bound_of_mem hc ht
    obtain ⟨set, l, hd, hstory⟩ := hdeparts t ht
    exact hx.departed hlength ht hopen hb hd hgone hstory

lemma Sound.lists_run (h : f.Sound) (hx : f.exchange.Lists k number) (deeds : List Deed) :
    (deeds.foldl Floor.act f).exchange.Lists k number := by
  induction deeds generalizing f with
  | nil => exact hx
  | cons deed deeds ih => exact ih (h.act deed) (h.lists_act hx deed)

lemma Sound.lists_bring (h : f.Sound) (hd : f.door? p = some (q, id)) (bounds : ServiceBounds)
    (number : String) (start : Timestamp) (taken : Bool) (now : Timestamp) :
    (f.bring p bounds number start taken now).1.exchange.Lists f.exchange.tasks.length number := by
  obtain ⟨pool, queue, hp, hq, hqueue, rfl⟩ := door?_of_some hd
  have hqueue' : f.queueOf? pool = some queue := by rw [queueOf?, hq, Option.bind_some, hqueue]
  let t := (Task.newcomer f.exchange.promises bounds number start taken).admitted
    f.exchange.promises (f.nextId pool.ids).1 pool.recorders
  have hopen : t.IsOpen f.exchange.promises :=
    Task.admitted_isOpen (Task.newcomer_isOpen ..) ..
  have htask : (f.exchange.welcome t).task? f.exchange.tasks.length = some t := by
    rw [Exchange.task?_welcome, if_pos rfl]
  have hlength : (f.exchange.welcome t).tasks.length = f.exchange.tasks.length + 1 :=
    length_welcome ..
  have hlists : (f.exchange.welcome t).Lists f.exchange.tasks.length number := by
    refine ⟨hlength ▸ Nat.lt_succ_self _, ?_, ?_, ⟨_, .inr ⟨t, htask, rfl⟩⟩⟩
    · intro t' ht'
      obtain rfl := Option.some.inj (htask.symm.trans ht')
      exact ⟨rfl, rfl⟩
    · rw [show (f.exchange.welcome t).story f.exchange.tasks.length = [] from h.unborn]
      exact Log.bears_nil
  have hbring : ∃ ks set, (f.exchange.welcome t).Departs
      (f.bring p bounds number start taken now).1.exchange ks set := by
    rw [bring_eq]
    simp only [hp, hq, hqueue']
    rw [register_eq rfl]
    cases taken with
    | true => exact ⟨_, default, (Exchange.Handles.refl _ [_] default).release now⟩
    | false =>
      have hqueue₁ : (f.welcome pool.ids t).queue? q = some queue := hqueue
      obtain ⟨gone, -, hd⟩ := enqueue_spec now (p := p) hqueue₁
        ⟨f.exchange.tasks.length, (f.nextId pool.ids).1, number⟩ (.of f.exchange.promises)
      exact ⟨_, _, hd⟩
  obtain ⟨ks, set, hdeparts⟩ := hbring
  have hle := Nat.le_of_eq hdeparts.length.symm
  by_cases hk : f.exchange.tasks.length ∈ ks
  · obtain ⟨l, hl, hdeparture⟩ := hdeparts.departed _ hk t htask
    exact hlists.departed hle htask hopen rfl hdeparture (hdeparts.gone _ hk) hl
  · obtain ⟨ht, hs⟩ := hdeparts.others _ hk
    exact hlists.of_same hle ht hs

end Floor

end Switchboard
