import Switchboard.Proofs.Floor.Resolution

/-! The record of a call and its outcome agree, and the record comes first: at no moment of a calm
day is there an outcome whose record was not handed out before. -/

namespace Switchboard

namespace Exchange

/-- The exchange as it was when the journal ended with `J`. -/
def upTo (x : Exchange) (J : List (Nat × Event)) : Exchange :=
  { x with journal := J, log := J.map Prod.snd }

variable {x : Exchange} {J : List (Nat × Event)}

lemma proper_upTo (h : x.Proper) (hJ : J <+: x.journal) : (x.upTo J).Proper :=
  ⟨rfl, fun j e hm => h.own j e (hJ.subset hm)⟩

lemma story_upTo (hJ : J <+: x.journal) (k : Nat) : (x.upTo J).story k <+: x.story k :=
  hJ.filterMap _

end Exchange

lemma Log.ending?_of_prefix {l : Log} {k : Nat} {set : RecorderSet} {r : CallRecord} {o : Outcome}
    {e : Option Outcome} (hl : l <+: [.recorded set r, .settled k o]) (he : l.ending? k = some e) :
    Event.recorded set r ∈ l ∧ e = some o := by
  rcases List.prefix_cons_iff.1 hl with rfl | ⟨t, rfl, ht⟩
  · cases he
  · refine ⟨List.mem_cons_self .., ?_⟩
    rcases List.prefix_cons_iff.1 ht with rfl | ⟨u, rfl, -⟩
    · cases he
    · have hend : Log.ending? k (.recorded set r :: .settled k o :: u) = some (some o) := by
        simp [Log.ending?]
      exact Option.some.inj (he.symm.trans hend)

lemma CallFuture.ending?_of_tryResult {p : PromiseId} {log : Log} {o : Outcome}
    (h : ((CallFuture.of p).tryResult log).1 = some o) :
    ∃ e, log.ending? p = some e ∧ e.getD (.error CallFuture.closed) = o := by
  cases he : log.ending? p with
  | none => simp [tryResult, of, he] at h
  | some e => exact ⟨e, rfl, by simpa [tryResult, of, he] using h⟩

namespace Accounted

variable {G : Admission → RecorderSet → Prop} {calls : List Presence} {x : Exchange}
  {admissions : List Admission} {a : Admission}

lemma record_of_outcome (h : Accounted G calls x admissions) (hc : ∀ a s, G a s → s.Calm)
    (ha : a ∈ admissions) {J : List (Nat × Event)} (hJ : J <+: x.journal) {o : Outcome}
    (ho : ((CallFuture.of a.task).tryResult (J.map Prod.snd)).1 = some o) :
    ∃ set r, (a.task, .recorded set r) ∈ J ∧ r.callId = a.id ∧ r.Agrees o := by
  have hproper := Exchange.proper_upTo h.proper hJ
  have hstory := Exchange.story_upTo hJ a.task
  obtain ⟨e, he, heo⟩ := CallFuture.ending?_of_tryResult ho
  have he : ((x.upTo J).story a.task).ending? a.task = some e := by
    rw [← hproper.ending?_log]
    exact he
  rcases h.silent_or_gone ha with hs | ⟨-, hg⟩
  · rw [hs, List.prefix_nil] at hstory
    rw [hstory] at he
    cases he
  · obtain ⟨set, r, e', hs, -, hid, -, hcalm⟩ := hg.story
    obtain ⟨o', rfl, hagree⟩ := hcalm (hc a)
    obtain ⟨hm, rfl⟩ := Log.ending?_of_prefix (hs ▸ hstory) he
    obtain rfl : o' = o := heo
    exact ⟨set, r, Exchange.mem_story.1 hm, hid, hagree⟩

end Accounted

lemma Floor.Equipped.door?_isSome {f : Floor} (he : f.Equipped) {p : Nat} {pool : Pool}
    (hp : f.pool? p = some pool) : (f.door? p).isSome := by
  obtain ⟨q, hq, hs⟩ := he p pool hp
  obtain ⟨queue, hqueue⟩ := Option.isSome_iff_exists.1 hs
  simp only [door?, hp, hq, queueOf?, Option.bind_some, hqueue, Option.isSome_some]

theorem record_agrees_with_outcome (deeds : List Floor.Deed) (hc : Day.Calm deeds) :
    let d := Day.after deeds
    let journal := d.floor.exchange.journal
    journal.map Prod.snd = d.floor.log ∧
      (∀ p pool, d.floor.pool? p = some pool → (d.floor.door? p).isSome) ∧
      ∀ a ∈ d.admissions,
        (∀ ticket, a.reply = .ok (.ok ticket) → ticket = ⟨a.id, .of a.task⟩) ∧
        ∀ J, J <+: journal → ∀ o,
          ((CallFuture.of a.task).tryResult (J.map Prod.snd)).1 = some o →
          ∃ set r, (a.task, .recorded set r) ∈ J ∧ r.callId = a.id ∧ r.Agrees o := by
  have h := Day.sound_after_of_calm hc
  have he : (Day.after deeds).floor.Equipped := by
    apply Day.equipped_run
    intro p pool hp
    simp [Floor.pool?, Floor.empty] at hp
  refine ⟨h.aligned, fun p pool hp => he.door?_isSome hp, ?_⟩
  intro a ha
  refine ⟨h.tickets a ha, ?_⟩
  intro J hJ o ho
  exact h.record_of_outcome (fun _ _ => id) ha hJ ho

def Day.ofOneCall : List Floor.Deed :=
  let midnight := Timestamp.ofPosition 0
  [.build 1 4, .setRecorders 0 ⟨7, [.keeping "cdr"]⟩,
    .bring 0 ⟨1, 2, .ofSeconds 3⟩ "555-0100" midnight false midnight, .beginStart 0,
    .work 0 0 midnight 0, .work 0 0 midnight 0]

theorem record_agrees_with_outcome_of_one_call :
    Day.Calm Day.ofOneCall ∧
      ∃ set r, (0, .recorded set r) ∈ (Day.after Day.ofOneCall).floor.exchange.journal ∧
        r.callId = 1 ∧ r.Agrees (.ok ⟨.completed, .ofSeconds 3, 1⟩) := by
  have hc : Day.Calm Day.ofOneCall := by
    intro p set hm
    obtain ⟨-, rfl⟩ : p = 0 ∧ set = ⟨7, [.keeping "cdr"]⟩ := by simpa [Day.ofOneCall] using hm
    exact fun _ => rfl
  let a : Admission := ⟨0, 0, 1, .ok (.ok ⟨1, .of 0⟩)⟩
  have ha : a ∈ (Day.after Day.ofOneCall).admissions := by
    have hadm : (Day.after Day.ofOneCall).admissions = [a] := rfl
    rw [hadm]
    exact List.mem_singleton.2 rfl
  have ho : ((CallFuture.of 0).tryResult
      ((Day.after Day.ofOneCall).floor.exchange.journal.map Prod.snd)).1 =
        some (.ok ⟨.completed, .ofSeconds 3, 1⟩) := by rfl
  obtain ⟨-, -, h⟩ := record_agrees_with_outcome Day.ofOneCall hc
  obtain ⟨-, hr⟩ := h a ha
  exact ⟨hc, hr _ List.prefix_rfl _ ho⟩

end Switchboard
