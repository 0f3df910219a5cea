import Mathlib.Data.List.Induction
import Switchboard.Proofs.Floor.Arrivals
import Switchboard.Proofs.Floor.Working

/-! The account of a day: every call that was given an identifier is still on the floor and has sent
out nothing, or it has left and told its whole story. -/

namespace Switchboard

open scoped List

structure Admission.Pending (a : Admission) (G : Admission → RecorderSet → Prop) (t : Task) :
    Prop where
  isOpen : t.IsOpen a.task
  callId : t.callId = a.id
  bound : ∃ s, t.bound = some s ∧ G a s

structure Admission.Present (a : Admission) (G : Admission → RecorderSet → Prop) (x : Exchange)
    (c : Presence) : Prop where
  task : c.task = a.task
  waiting : ∀ q, c.place = .waiting q → q = a.queue
  onLine : ∀ s, c.place = .onLine s → G a s
  pending : ∃ t, x.task? a.task = some t ∧ a.Pending G t
  silent : x.story a.task = []

def Admission.Gone (a : Admission) (G : Admission → RecorderSet → Prop) (x : Exchange) : Prop :=
  ∃ t set, a.Pending G t ∧ G a set ∧ t.Departure set (x.story a.task)

section Same

variable {a : Admission} {G : Admission → RecorderSet → Prop} {x x' : Exchange} {c : Presence}

lemma Admission.Present.of_same (h : a.Present G x c) (ht : x'.task? a.task = x.task? a.task)
    (hs : x'.story a.task = x.story a.task) : a.Present G x' c := by
  obtain ⟨t, htask, hp⟩ := h.pending
  exact ⟨h.task, h.waiting, h.onLine, ⟨t, ht.trans htask, hp⟩, hs.trans h.silent⟩

lemma Admission.Gone.of_same (h : a.Gone G x) (hs : x'.story a.task = x.story a.task) :
    a.Gone G x' := by
  obtain ⟨t, set, hp, hg, hd⟩ := h
  exact ⟨t, set, hp, hg, hs ▸ hd⟩

end Same

structure Accounted (G : Admission → RecorderSet → Prop) (calls : List Presence) (x : Exchange)
    (admissions : List Admission) : Prop where
  aligned : x.Aligned
  promises : x.promises = x.tasks.length
  unborn : ∀ k, x.tasks.length ≤ k → x.story k = []
  distinct : (calls.map Presence.task).Nodup
  numbers : (admissions.map Admission.task).Nodup
  bounded : ∀ a ∈ admissions, a.task < x.tasks.length
  present : ∀ c ∈ calls, ∃ a ∈ admissions, a.Present G x c
  gone : ∀ a ∈ admissions, a.task ∉ calls.map Presence.task → a.Gone G x
  /-- A task that was never admitted sent out nothing but an outcome of its own. -/
  strangers : ∀ k, k ∉ admissions.map Admission.task →
    x.story k = [] ∨ ∃ o, x.story k = [.settled k o]
  tickets : ∀ a ∈ admissions, ∀ ticket, a.reply = .ok (.ok ticket) →
    ticket = ⟨a.id, .of a.task⟩

namespace Accounted

variable {G H : Admission → RecorderSet → Prop} {calls calls' gone : List Presence}
  {x x' : Exchange} {admissions : List Admission}

lemma empty (G : Admission → RecorderSet → Prop) : Accounted G [] .empty [] where
  aligned := rfl
  promises := rfl
  unborn _ _ := rfl
  distinct := .nil
  numbers := .nil
  bounded _ h := absurd h List.not_mem_nil
  present _ h := absurd h List.not_mem_nil
  gone _ h := absurd h List.not_mem_nil
  strangers _ _ := .inl rfl
  tickets _ h := absurd h List.not_mem_nil

lemma admission_unique (h : Accounted G calls x admissions) {a b : Admission} (ha : a ∈ admissions)
    (hb : b ∈ admissions) (hab : a.task = b.task) : a = b :=
  List.inj_on_of_nodup_map h.numbers ha hb hab

lemma leave (h : Accounted G calls x admissions) {set : RecorderSet}
    (hc : calls ~ gone ++ calls') (hd : x.Departs x' (gone.map Presence.task) set)
    (hs : ∀ c ∈ gone, ∀ a ∈ admissions, a.Present G x c → G a set) :
    Accounted G calls' x' admissions := by
  have hdis : ((gone ++ calls').map Presence.task).Nodup := (hc.map _).nodup_iff.1 h.distinct
  rw [List.map_append] at hdis
  obtain ⟨-, hn', hd'⟩ := List.nodup_append.1 hdis
  have hgone (c : Presence) (hm : c ∈ gone) : c ∈ calls := hc.mem_iff.2 (List.mem_append_left _ hm)
  have hstay (c : Presence) (hm : c ∈ calls') : c ∈ calls :=
    hc.mem_iff.2 (List.mem_append_right _ hm)
  have stranger (k : Nat) (hk : k ∉ admissions.map Admission.task) :
      k ∉ gone.map Presence.task := by
    intro hm
    obtain ⟨c, hcg, rfl⟩ := List.mem_map.1 hm
    obtain ⟨a, ha, hp⟩ := h.present c (hgone c hcg)
    exact hk (hp.task ▸ List.mem_map_of_mem ha)
  constructor
  · exact hd.aligned h.aligned
  · rw [hd.promises, hd.length, h.promises]
  · intro k hk
    rw [hd.length] at hk
    have hka : k ∉ admissions.map Admission.task := by
      intro hm
      obtain ⟨a, ha, rfl⟩ := List.mem_map.1 hm
      exact absurd (h.bounded a ha) (Nat.not_lt.2 hk)
    exact (hd.others k (stranger k hka)).2.trans (h.unborn k hk)
  · exact hn'
  · exact h.numbers
  · intro a ha
    exact hd.length ▸ h.bounded a ha
  · intro c hm
    obtain ⟨a, ha, hp⟩ := h.present c (hstay c hm)
    have hk : a.task ∉ gone.map Presence.task := by
      intro hm'
      exact hd' _ hm' _ (List.mem_map_of_mem hm) hp.task.symm
    obtain ⟨htask, hstory⟩ := hd.others a.task hk
    exact ⟨a, ha, hp.of_same htask hstory⟩
  · intro a ha hna
    by_cases hk : a.task ∈ gone.map Presence.task
    · obtain ⟨c, hcg, hct⟩ := List.mem_map.1 hk
      obtain ⟨b, hb, hp⟩ := h.present c (hgone c hcg)
      obtain rfl : a = b := h.admission_unique ha hb (hct.symm.trans hp.task)
      obtain ⟨t, ht, hpend⟩ := hp.pending
      obtain ⟨l, hl, hdep⟩ := hd.departed a.task hk t ht
      rw [hp.silent, List.nil_append] at hl
      exact ⟨t, set, hpend, hs c hcg a ha hp, hl ▸ hdep⟩
    · have hk' : a.task ∉ calls.map Presence.task := by
        rw [(hc.map _).mem_iff, List.map_append, List.mem_append]
        exact not_or.2 ⟨hk, hna⟩
      exact (h.gone a ha hk').of_same (hd.others a.task hk).2
  · intro k hk
    rw [(hd.others k (stranger k hk)).2]
    exact h.strangers k hk
  · exact h.tickets

lemma answer (h : Accounted G calls x admissions) {e : Entry} {q : Nat} {set : RecorderSet}
    (hc : calls ++ [⟨e, .onLine set⟩] ~ ⟨e, .waiting q⟩ :: calls')
    (hs : ∀ a ∈ admissions, a.queue = q → G a set) : Accounted G calls' x admissions := by
  have htasks := Floor.perm_tasks_of_answer hc
  have hold : (⟨e, .waiting q⟩ : Presence) ∈ calls := by
    have hm : (⟨e, .waiting q⟩ : Presence) ∈ calls ++ [⟨e, .onLine set⟩] :=
      hc.mem_iff.2 (List.mem_cons_self ..)
    rcases List.mem_append.1 hm with hm | hm
    · exact hm
    · simp at hm
  refine { h with distinct := htasks.nodup_iff.1 h.distinct, present := ?_, gone := ?_ }
  · intro c hm
    have hm' : c ∈ calls ++ [⟨e, .onLine set⟩] := hc.mem_iff.2 (List.mem_cons_of_mem _ hm)
    rcases List.mem_append.1 hm' with hm' | hm'
    · exact h.present c hm'
    · obtain rfl := List.mem_singleton.1 hm'
      obtain ⟨a, ha, hp⟩ := h.present _ hold
      refine ⟨a, ha, hp.task, (fun _ he => by cases he), ?_, hp.pending, hp.silent⟩
      intro s he
      obtain rfl : set = s := by simpa using he
      exact hs a ha (hp.waiting q rfl).symm
  · intro a ha hna
    exact h.gone a ha fun hm => hna (htasks.mem_iff.1 hm)

lemma arrive (h : Accounted G calls x admissions) {a : Admission} {t : Task} {c : Presence}
    (ha : a.task = x.tasks.length) (hct : c.task = a.task) (hcp : c.place = .waiting a.queue)
    (hp : a.Pending G t)
    (ht : ∀ ticket, a.reply = .ok (.ok ticket) → ticket = ⟨a.id, .of a.task⟩) :
    Accounted G (calls ++ [c]) (x.welcome t) (admissions ++ [a]) := by
  have htask (k : Nat) : (x.welcome t).task? k = if k = a.task then some t else x.task? k := by
    rw [x.task?_welcome, ha]
  have hlength : (x.welcome t).tasks.length = x.tasks.length + 1 := by
    simp [Exchange.welcome]
  have hne (b : Admission) (hb : b ∈ admissions) : b.task ≠ a.task := by
    rw [ha]
    exact Nat.ne_of_lt (h.bounded b hb)
  have hnc (d : Presence) (hd : d ∈ calls) : d.task ≠ a.task := by
    obtain ⟨b, hb, hpres⟩ := h.present d hd
    exact hpres.task ▸ hne b hb
  constructor
  · exact h.aligned
  · rw [hlength, ← h.promises]
    rfl
  · intro k hk
    exact h.unborn k (by omega)
  · rw [List.map_append, List.nodup_append]
    refine ⟨h.distinct, List.nodup_singleton _, ?_⟩
    intro k hk j hj
    obtain ⟨d, hd, rfl⟩ := List.mem_map.1 hk
    obtain rfl : j = c.task := by simpa using hj
    exact hct ▸ hnc d hd
  · rw [List.map_append, List.nodup_append]
    refine ⟨h.numbers, List.nodup_singleton _, ?_⟩
    intro k hk j hj
    obtain ⟨b, hb, rfl⟩ := List.mem_map.1 hk
    obtain rfl : j = a.task := by simpa using hj
    exact hne b hb
  · intro b hb
    rcases List.mem_append.1 hb with hb | hb
    · exact hlength ▸ Nat.lt_succ_of_lt (h.bounded b hb)
    · obtain rfl := List.mem_singleton.1 hb
      omega
  · intro d hd
    rcases List.mem_append.1 hd with hd | hd
    · obtain ⟨b, hb, hpres⟩ := h.present d hd
      have hsame : (x.welcome t).task? b.task = x.task? b.task := by rw [htask, if_neg (hne b hb)]
      exact ⟨b, List.mem_append_left _ hb, hpres.of_same hsame rfl⟩
    · obtain rfl := List.mem_singleton.1 hd
      have ht' : (x.welcome t).task? a.task = some t := by rw [htask, if_pos rfl]
      refine ⟨a, List.mem_append_right _ (List.mem_singleton.2 rfl), hct, ?_, ?_, ⟨t, ht', hp⟩,
        h.unborn _ (Nat.le_of_eq ha.symm)⟩
      · intro q hq
        simpa using hq.symm.trans hcp
      · intro s hs
        simp [hcp] at hs
  · intro b hb hn
    rw [List.map_append, List.mem_append, not_or] at hn
    rcases List.mem_append.1 hb with hb | hb
    · exact h.gone b hb hn.1
    · obtain rfl := List.mem_singleton.1 hb
      exact absurd (by simpa using hct.symm) hn.2
  · intro k hk
    rw [List.map_append, List.mem_append, not_or] at hk
    exact h.strangers k hk.1
  · intro b hb
    rcases List.mem_append.1 hb with hb | hb
    · exact h.tickets b hb
    · obtain rfl := List.mem_singleton.1 hb
      exact ht

lemma giveUp (h : Accounted G calls x admissions) {t : Task} (ht : t.IsOpen x.promises)
    (hb : t.bound = none) (now : Timestamp) :
    Accounted G calls ((x.welcome t).releaseAll [x.tasks.length] now).1 admissions := by
  obtain ⟨hk, hs⟩ := (x.welcome t).releaseAll_spec [x.tasks.length] now
  generalize ((x.welcome t).releaseAll [x.tasks.length] now).1 = y at hk hs ⊢
  have hlength : y.tasks.length = x.tasks.length + 1 := by
    rw [hk.length]
    simp [Exchange.welcome]
  have others (k : Nat) (hne : k ≠ x.tasks.length) :
      y.task? k = x.task? k ∧ y.story k = x.story k := by
    obtain ⟨htask, hstory⟩ := hs k
    simp only [List.mem_singleton, hne, if_false, List.append_nil] at htask hstory
    rw [x.task?_welcome, if_neg hne] at htask
    exact ⟨htask, hstory⟩
  have newcomer : ∃ o, y.story x.tasks.length = [.settled x.tasks.length o] := by
    obtain ⟨-, hstory⟩ := hs x.tasks.length
    have htask : (x.welcome t).task? x.tasks.length = some t := by rw [x.task?_welcome, if_pos rfl]
    have hsilent : (x.welcome t).story x.tasks.length = [] := h.unborn _ (Nat.le_refl _)
    refine ⟨.error (.abandoned t.callId), ?_⟩
    rw [hstory, hsilent, if_pos (List.mem_singleton.2 rfl), Exchange.lastWords, htask]
    rw [← h.promises]
    exact Task.drop_unbound ht hb now
  have hne (a : Admission) (ha : a ∈ admissions) : a.task ≠ x.tasks.length :=
    Nat.ne_of_lt (h.bounded a ha)
  constructor
  · exact hk.aligned h.aligned
  · rw [hk.promises, hlength, ← h.promises]
    rfl
  · intro k hk
    rw [(others k (by omega)).2]
    exact h.unborn k (by omega)
  · exact h.distinct
  · exact h.numbers
  · intro a ha
    exact hlength ▸ Nat.lt_succ_of_lt (h.bounded a ha)
  · intro c hc
    obtain ⟨a, ha, hp⟩ := h.present c hc
    obtain ⟨htask, hstory⟩ := others a.task (hne a ha)
    exact ⟨a, ha, hp.of_same htask hstory⟩
  · intro a ha hn
    exact (h.gone a ha hn).of_same (others a.task (hne a ha)).2
  · intro k hka
    by_cases hkl : k = x.tasks.length
    · exact .inr (hkl ▸ newcomer)
    · rw [(others k hkl).2]
      exact h.strangers k hka
  · exact h.tickets

end Accounted

structure Floor.Grants (f : Floor) (G : Admission → RecorderSet → Prop) : Prop where
  queue : ∀ (a : Admission) queue, f.queue? a.queue = some queue → G a queue.recorders
  pool : ∀ (a : Admission) p pool, f.pool? p = some pool → pool.queue = some a.queue →
    G a pool.recorders

namespace Day

variable {d : Day} {G : Admission → RecorderSet → Prop}

def Sound (G : Admission → RecorderSet → Prop) (d : Day) : Prop :=
  Accounted G d.floor.calls d.floor.exchange d.admissions

lemma sound_empty (G : Admission → RecorderSet → Prop) : Sound G ⟨.empty, []⟩ := Accounted.empty G

lemma sound_of_move (h : d.Sound G) (hg : d.floor.Grants G) {f : Floor} (hm : d.floor.Move f) :
    Sound G ⟨f, d.admissions⟩ := by
  cases hm with
  | leave gone set hands calls departs =>
    apply Accounted.leave h calls departs
    intro c hc a ha hp
    have hs := hands c hc
    cases hpl : c.place with
    | waiting q =>
      obtain rfl := hp.waiting q hpl
      simp only [Floor.HandsTo, hpl] at hs
      obtain ⟨queue, hq, rfl⟩ := hs
      exact hg.queue a queue hq
    | onLine s =>
      simp only [Floor.HandsTo, hpl] at hs
      exact hs ▸ hp.onLine s hpl
  | answer q e p pool isPool draws calls exchange =>
    have ha := Accounted.answer h calls fun a _ hq => hg.pool a p pool isPool (hq ▸ draws)
    simpa only [Sound, exchange] using ha

lemma sound_bring (h : d.Sound G) (hg : d.floor.Grants G) (p : Nat) (bounds : ServiceBounds)
    (number : String) (start : Timestamp) (taken : Bool) (now : Timestamp) :
    (d.act (.bring p bounds number start taken now)).Sound G := by
  cases hd : d.floor.door? p with
  | none =>
    have ha : d.floor.admission? (.bring p bounds number start taken now) = none := by
      simp only [Floor.admission?, hd, Option.map_none]
    have hf := Floor.bring_of_no_door bounds number start now hd taken
    have ht := Task.newcomer_isOpen d.floor.exchange.promises bounds number start taken
    simp only [act, ha, Option.toList_none, List.append_nil, Floor.act, hf]
    exact Accounted.giveUp h ht rfl now
  | some door =>
    obtain ⟨q, id⟩ := door
    let a : Admission := ⟨d.floor.exchange.tasks.length, q, id,
      (d.floor.bring p bounds number start taken now).2⟩
    have ha : d.floor.admission? (.bring p bounds number start taken now) = some a := by
      simp only [Floor.admission?, hd, Option.map_some, a]
    have hf := Floor.bring_arrives bounds number start now hd taken
    have ht : ∀ ticket, a.reply = .ok (.ok ticket) → ticket = ⟨a.id, .of a.task⟩ := by
      intro ticket hr
      obtain ⟨hfuture, q', hd'⟩ := Floor.bring_ticket bounds number start now hr
      have hid : ticket.callId = id := by
        have := hd'.symm.trans hd
        simp only [Option.some.injEq, Prod.mk.injEq] at this
        exact this.2
      obtain ⟨callId, future⟩ := ticket
      simp only at hid hfuture
      rw [hid, hfuture, h.promises]
    simp only [act, ha, Option.toList_some, Floor.act]
    generalize (d.floor.bring p bounds number start taken now).1 = f at hf ⊢
    obtain ⟨p', pool, isPool, draws, queue, isQueue, t, isOpen, callId, bound, number', gone, calls,
      departs⟩ := hf
    have hopen : t.IsOpen a.task := by
      rw [h.promises] at isOpen
      exact isOpen
    have hp : a.Pending G t :=
      ⟨hopen, callId, pool.recorders, bound, hg.pool a p' pool isPool draws⟩
    let c : Presence := ⟨⟨d.floor.exchange.tasks.length, id, number'⟩, .waiting q⟩
    have harrive := Accounted.arrive h (c := c) rfl rfl rfl hp ht
    have htasks : (gone.map (⟨·, .waiting q⟩)).map Presence.task = gone.map Entry.task := by
      rw [List.map_map]
      rfl
    apply harrive.leave calls (htasks ▸ departs)
    intro c hc b _ hb
    obtain ⟨e, -, rfl⟩ := List.mem_map.1 hc
    obtain rfl := hb.waiting q rfl
    exact hg.queue b queue isQueue

lemma sound_act (h : d.Sound G) (hg : d.floor.Grants G) (deed : Floor.Deed) :
    (d.act deed).Sound G := by
  rcases Floor.bring_or_move h.distinct deed with
    ⟨p, bounds, number, start, taken, now, rfl⟩ | ⟨hm, ha⟩
  · exact sound_bring h hg p bounds number start taken now
  · simpa only [act, ha, Option.toList_none, List.append_nil] using sound_of_move h hg hm

lemma sound_run (h : d.Sound G) {deeds : List Floor.Deed}
    (hg : ∀ l, l <+: deeds → (d.run l).floor.Grants G) : (d.run deeds).Sound G := by
  induction deeds using List.reverseRecOn with
  | nil => exact h
  | append_singleton deeds deed ih =>
    have hpre : deeds <+: deeds ++ [deed] := List.prefix_append ..
    rw [run_append]
    exact sound_act (ih fun l hl => hg l (hl.trans hpre)) (hg deeds hpre) deed

end Day

end Switchboard
