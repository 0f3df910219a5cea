import Mathlib.Data.List.Basic
import Switchboard.Proofs.Task.Deeds

/-! The promises of a task. The one in place is sent the first outcome that the call comes to, or
word of the end of the task; one that was replaced or refused is sent nothing. -/

namespace Switchboard

namespace Log

def ends (q : PromiseId) (log : Log) : List (Option Outcome) := log.filterMap (endOf q)

lemma ends_append (q : PromiseId) (l l' : Log) : ends q (l ++ l') = l.ends q ++ l'.ends q :=
  List.filterMap_append

lemma ends_withdrawn (q p : PromiseId) :
    ends q [.withdrawn p] = if q = p then [none] else [] := by
  by_cases hq : q = p <;> simp [ends, endOf, hq, eq_comm]

lemma ends_settled (q p : PromiseId) (o : Outcome) :
    ends q [.settled p o] = if q = p then [some o] else [] := by
  by_cases hq : q = p <;> simp [ends, endOf, hq, eq_comm]

lemma outcomes_eq (q : PromiseId) (log : Log) : log.outcomes q = (log.ends q).filterMap id := by
  rw [outcomes, ends, List.filterMap_filterMap]
  apply List.filterMap_congr
  intro e _
  cases e with
  | settled p o | withdrawn p => by_cases hp : p = q <;> simp [endOf, hp]
  | recorded set r | late id => rfl

lemma tryResult_eq (q : PromiseId) (log : Log) :
    ((CallFuture.of q).tryResult log).1 =
      (log.ends q).head?.map (·.getD (.error CallFuture.closed)) := by
  rw [CallFuture.tryResult, CallFuture.of, ending?_eq, ← ends]
  cases log.ends q <;> rfl

end Log

namespace Task

def promise? (t : Task) : Option PromiseId := t.promise.map Promise.id

structure Hushes (t t' : Task) (l : Log) : Prop where
  promise : t'.promise = t.promise
  replaced : t'.promiseReplaced = t.promiseReplaced
  silent : ∀ q, l.ends q = []

inductive Delivers (t t' : Task) : Option Outcome → Log → Prop
  | nothing (l : Log) (h : t.Hushes t' l) : Delivers t t' none l
  | settled (p : PromiseId) (o : Outcome) (l : Log) (before : t.promise? = some p)
      (after : t'.promise = none) (replaced : t'.promiseReplaced = t.promiseReplaced)
      (ends : ∀ q, l.ends q = if q = p then [some o] else []) : Delivers t t' (some o) l
  | late (o : Outcome) (l : Log) (before : t.promise = none) (h : t.Hushes t' l) :
      Delivers t t' (some o) l

variable {t t' : Task} {l : Log} {set : RecorderSet}

lemma Hushes.handOut (r : CallRecord) (set : RecorderSet) :
    t.Hushes ({ t with record := r }.handOut set).state
      ({ t with record := r }.handOut set).events := by
  rw [Task.handOut]
  split <;> exact ⟨rfl, rfl, fun _ => rfl⟩

lemma Hushes.recordFailure (t : Task) (now : Timestamp) (set : RecorderSet) :
    t.Hushes (t.recordFailure now set).state (t.recordFailure now set).events := by
  rw [Task.recordFailure, closeFailed]
  split
  · exact handOut t.record set
  · exact handOut (t.record.finishFailed now) set

lemma Hushes.closeUnserviced (t : Task) (now : Timestamp) (status : CallStatus)
    (set : RecorderSet) :
    t.Hushes ((t.closeUnserviced now status).handOut set).state
      ((t.closeUnserviced now status).handOut set).events := by
  rw [Task.closeUnserviced]
  split
  · exact handOut t.record set
  · exact handOut (t.record.finishUnserviced now status) set

lemma Hushes.resolve (h : t.Hushes t' l) (o : Outcome) :
    t.Delivers (t'.resolve o).state (some o) (l ++ (t'.resolve o).events) := by
  rw [Task.resolve]
  cases hp : t'.promise with
  | none =>
    refine .late o _ (h.promise.symm.trans hp) ⟨h.promise, h.replaced, fun q => ?_⟩
    rw [Log.ends_append, h.silent]
    rfl
  | some p =>
    refine .settled p.id o _ ?_ rfl h.replaced fun q => ?_
    · rw [promise?, ← h.promise, hp]
      rfl
    · rw [Log.ends_append, h.silent]
      exact Log.ends_settled q p.id o

lemma Delivers.promise {o : Option Outcome} (h : t.Delivers t' o l) :
    t'.promise = t.promise ∨ t'.promise = none := by
  cases h with
  | nothing _ hl => exact .inl hl.promise
  | late o _ before hl => exact .inl hl.promise
  | settled p o _ before after replaced ends => exact .inr after

lemma resolve_reply_eq (t : Task) (o : Outcome) :
    (t.resolve o).reply =
      .ok (if t.promise? = none then .error (.alreadyResolved t.callId) else .ok ()) := by
  rw [resolve, promise?]
  cases t.promise <;> simp

lemma takeFuture_promise? (t : Task) : t.takeFuture.1.promise? = t.promise? := by
  rw [takeFuture]
  cases hp : t.promise with
  | none => rfl
  | some p =>
    have hid : p.takeFuture.1.id = p.id := by
      rw [Promise.takeFuture]
      split <;> rfl
    simp [promise?, hp, hid]

lemma takeFuture_promiseReplaced (t : Task) :
    t.takeFuture.1.promiseReplaced = t.promiseReplaced := by
  rw [takeFuture]
  split <;> rfl

end Task

namespace Desk

namespace Deed

def outcome? (t : Task) : Deed → Option Outcome
  | .resolve o => some o
  | .reject _ status _ => some (.ok (.unserviced status t.callId))
  | .execute pickedUp ended draw set =>
    match (t.execute pickedUp ended draw set).reply with
    | .ok (.error e) => some (.error e)
    | _ => none
  | _ => none

def attached? (d : Desk) (t : Task) : Deed → Option PromiseId
  | .attach asked =>
    match (d.attach t asked).2.1 with
    | .ok (.ok ()) => some d.promises
    | _ => none
  | _ => none

lemma delivers {deed : Deed} (hc : deed.Calm) (next : PromiseId) (t : Task)
    (htake : deed ≠ .takeFuture) (hattach : ∀ asked, deed ≠ .attach asked) :
    t.Delivers (deed.undergo next t).1 (deed.outcome? t) (deed.undergo next t).2 := by
  cases deed with
  | takeFuture => exact absurd rfl htake
  | attach asked => exact absurd rfl (hattach asked)
  | assignCallId id | assignOperator id | bind set =>
    exact .nothing [] ⟨rfl, rfl, fun _ => rfl⟩
  | recordFailure now set => exact .nothing _ (.recordFailure t now set)
  | resolve o =>
    have hnothing : t.Hushes t [] := ⟨rfl, rfl, fun _ => rfl⟩
    exact hnothing.resolve o
  | reject now status set =>
    rw [undergo, Task.reject_eq t now status (hc set (.inl rfl))]
    exact (Task.Hushes.closeUnserviced t now status set).resolve _
  | execute pickedUp ended draw set =>
    rw [undergo, outcome?, Task.execute_eq t pickedUp ended draw (hc set (.inl rfl))]
    cases t.answer pickedUp draw with
    | error c => exact .nothing [] ⟨rfl, rfl, fun _ => rfl⟩
    | ok answer =>
      cases answer with
      | ok answer => exact .nothing _ (.handOut _ set)
      | error e => exact (Task.Hushes.recordFailure t ended set).resolve (.error e)

end Deed

structure Ledger where
  desk : Desk
  /-- The promises that were attached, oldest first. -/
  attached : List PromiseId
  /-- The first outcome that was sent, with the promise that was in place. -/
  first : Option (PromiseId × Outcome)

namespace Ledger

open Deed

def place (g : Ledger) : PromiseId := g.attached.getLast?.getD 0

def note (g : Ledger) (deed : Deed) : Ledger :=
  match g.desk.task with
  | none => g
  | some t =>
    ⟨g.desk.act deed, g.attached ++ (deed.attached? g.desk t).toList,
      g.first.or ((deed.outcome? t).map (g.place, ·))⟩

def of (d : Desk) (deeds : List Deed) : Ledger := deeds.foldl note ⟨d, [], none⟩

lemma of_concat (d : Desk) (deeds : List Deed) (deed : Deed) :
    of d (deeds ++ [deed]) = (of d deeds).note deed := by
  simp [of]

lemma desk_of (d : Desk) (deeds : List Deed) : (of d deeds).desk = d.run deeds := by
  induction deeds using List.reverseRecOn with
  | nil => rfl
  | append_singleton deeds deed ih =>
    rw [of_concat, run_concat, ← ih, note]
    cases h : (of d deeds).desk.task with
    | none => simp [act, h]
    | some t => rfl

def owed (g : Ledger) (q : PromiseId) : List (Option Outcome) :=
  if q = g.place then g.first.toList.map (some ·.2)
  else if q < g.desk.promises then [none] else []

structure Agrees (g : Ledger) (t : Task) : Prop where
  place_lt : g.place < g.desk.promises
  replaced : t.promiseReplaced = !g.attached.isEmpty
  promise : t.promise? = if g.first.isSome then none else some g.place
  sent : ∀ s, g.first = some s → s.1 = g.place
  ends : ∀ q, g.desk.log.ends q = g.owed q

variable {g : Ledger} {t t' : Task} {deed : Deed} {q : PromiseId}

lemma owed_of_lt (hq : q < g.desk.promises) (hne : q ≠ g.place) : g.owed q = [none] := by
  rw [owed, if_neg hne, if_pos hq]

lemma owed_of_ge (hplace : g.place < g.desk.promises) (hq : g.desk.promises ≤ q) :
    g.owed q = [] := by
  rw [owed, if_neg (Nat.ne_of_gt (Nat.lt_of_lt_of_le hplace hq)), if_neg (Nat.not_lt.2 hq)]

lemma owed_refused {g' : Ledger} (hlt : g.place < g.desk.promises) (hplace : g'.place = g.place)
    (hfirst : g'.first = g.first) (hpromises : g'.desk.promises = g.desk.promises + 1)
    (q : PromiseId) :
    g.owed q ++ (if q = g.desk.promises then [none] else []) = g'.owed q := by
  have hlt' : g'.place < g'.desk.promises := by
    rw [hplace, hpromises]
    exact Nat.lt_succ_of_lt hlt
  rcases Nat.lt_trichotomy q g.desk.promises with h | rfl | h
  · rw [if_neg (Nat.ne_of_lt h), List.append_nil, owed, owed, hplace, hfirst, hpromises, if_pos h,
      if_pos (Nat.lt_succ_of_lt h)]
  · have hne : g.desk.promises ≠ g'.place := by
      rw [hplace]
      exact (Nat.ne_of_lt hlt).symm
    rw [if_pos rfl, owed_of_ge hlt (Nat.le_refl _),
      owed_of_lt (hpromises ▸ Nat.lt_succ_self g.desk.promises) hne]
    rfl
  · rw [if_neg (Nat.ne_of_gt h), owed_of_ge hlt (Nat.le_of_lt h),
      owed_of_ge hlt' (hpromises ▸ h)]
    rfl

lemma owed_replaced {g' : Ledger} (hlt : g.place < g.desk.promises) (hopen : g.first = none)
    (hplace : g'.place = g.desk.promises) (hfirst : g'.first = none)
    (hpromises : g'.desk.promises = g.desk.promises + 1) (q : PromiseId) :
    g.owed q ++ (if q = g.place then [none] else []) = g'.owed q := by
  rw [owed, owed, hplace, hfirst, hopen, hpromises]
  rcases Nat.lt_trichotomy q g.desk.promises with h | rfl | h
  · rw [if_neg (Nat.ne_of_lt h), if_pos (Nat.lt_succ_of_lt h), if_pos h]
    by_cases hq : q = g.place <;> simp [hq]
  · simp [Nat.ne_of_gt hlt]
  · have hne : q ≠ g.place := Nat.ne_of_gt (Nat.lt_trans hlt h)
    rw [if_neg hne, if_neg (Nat.not_lt_of_gt h), if_neg hne, if_neg (Nat.ne_of_gt h),
      if_neg (Nat.not_lt.2 h)]
    rfl

lemma note_eq (ht : g.desk.task = some t) (deed : Deed) :
    g.note deed = ⟨g.desk.act deed, g.attached ++ (deed.attached? g.desk t).toList,
      g.first.or ((deed.outcome? t).map (g.place, ·))⟩ := by
  rw [note, ht]

lemma Agrees.hush (h : g.Agrees t) {d : Desk} {l : Log} (hpromises : d.promises = g.desk.promises)
    (hlog : d.log = g.desk.log ++ l) (hpromise : t'.promise? = t.promise?)
    (hreplaced : t'.promiseReplaced = t.promiseReplaced) (hl : ∀ q, l.ends q = []) :
    Agrees ⟨d, g.attached, g.first⟩ t' where
  place_lt := hpromises ▸ h.place_lt
  replaced := hreplaced.trans h.replaced
  promise := hpromise.trans h.promise
  sent := h.sent
  ends q := by
    change d.log.ends q = _
    rw [hlog, Log.ends_append, hl, List.append_nil, h.ends, owed, owed, hpromises]
    rfl

lemma Agrees.takeFuture (h : g.Agrees t) (ht : g.desk.task = some t) :
    (g.note .takeFuture).Agrees t.takeFuture.1 := by
  have hfirst : g.first.or ((Deed.takeFuture.outcome? t).map (g.place, ·)) = g.first :=
    Option.or_none
  have hattached : g.attached ++ (Deed.takeFuture.attached? g.desk t).toList = g.attached :=
    List.append_nil _
  rw [note_eq ht, act_eq ht, hfirst, hattached]
  apply h.hush (l := [])
  · rfl
  · rfl
  · exact t.takeFuture_promise?
  · exact t.takeFuture_promiseReplaced
  · exact fun _ => rfl

lemma Agrees.send (h : g.Agrees t) (ht : g.desk.task = some t) (hc : deed.Calm)
    (htake : deed ≠ .takeFuture) (hattach : ∀ asked, deed ≠ .attach asked) :
    (g.note deed).Agrees (deed.undergo g.desk.promises t).1 := by
  have hd := delivers hc g.desk.promises t htake hattach
  have hpromises : g.desk.promises + deed.promises = g.desk.promises := by
    cases deed <;> first | rfl | exact absurd rfl (hattach _)
  have hattached : deed.attached? g.desk t = none := by
    cases deed <;> first | rfl | exact absurd rfl (hattach _)
  rw [note_eq ht, act_eq ht, hattached, Option.toList_none, List.append_nil]
  generalize deed.outcome? t = o at hd ⊢
  generalize deed.undergo g.desk.promises t = after at hd ⊢
  obtain ⟨t', l⟩ := after
  have hsame (hl : t.Hushes t' l) : t'.promise? = t.promise? := by
    rw [Task.promise?, hl.promise, Task.promise?]
  cases hd with
  | nothing _ hl =>
    rw [Option.map_none, Option.or_none]
    exact h.hush hpromises rfl (hsame hl) hl.replaced hl.silent
  | late o _ before hl =>
    have hover : g.first.or ((some o).map (g.place, ·)) = g.first := by
      have hp := h.promise
      cases hfirst : g.first with
      | none => simp [hfirst, Task.promise?, before] at hp
      | some s => rfl
    rw [hover]
    exact h.hush hpromises rfl (hsame hl) hl.replaced hl.silent
  | settled p o _ before after replaced ends =>
    have hp := before ▸ h.promise
    cases hfirst : g.first with
    | some s => simp [hfirst] at hp
    | none =>
      obtain rfl : p = g.place := by simpa [hfirst] using hp
      refine ⟨hpromises.symm ▸ h.place_lt, replaced.trans h.replaced, ?_, ?_, ?_⟩
      · have hnone : t'.promise = none := after
        simp [Task.promise?, hnone]
      · intro s hs
        obtain rfl : (g.place, o) = s := by simpa using hs
        rfl
      · intro q
        change (g.desk.log ++ l).ends q = _
        rw [Log.ends_append, h.ends, ends, owed, owed, hfirst]
        change _ = if q = g.place then [some o]
          else if q < g.desk.promises + deed.promises then [none] else []
        rw [hpromises]
        by_cases hq : q = g.place <;> simp [hq]

lemma attach_cases (d : Desk) (t : Task) (asked : Nat) :
    let deed := Deed.attach asked
    let after := deed.undergo d.promises t
    ((t.promise? = none ∨ t.promiseReplaced = true ∨ t.hasId = true) ∧
      (d.attach t asked).2.1 = .ok (.error (.promiseLocked t.number)) ∧
        deed.attached? d t = none ∧ after = (t, [.withdrawn d.promises])) ∨
    ∃ old, t.promise? = some old ∧ t.promiseReplaced = false ∧ t.hasId = false ∧
      (d.attach t asked).2.1 = .ok (.ok ()) ∧ deed.attached? d t = some d.promises ∧
        after = ({ t with promise := some ⟨d.promises, 0 < asked⟩, promiseReplaced := true },
          [.withdrawn old]) := by
  simp only [attached?, attach_eq, turn, undergo, Task.attachPromise, Task.promise?]
  cases hp : t.promise with
  | none => simp
  | some old =>
    by_cases hlocked : t.promiseReplaced = true ∨ t.hasId = true
    · left
      simp [hlocked]
    · right
      obtain ⟨hr, hi⟩ := not_or.1 hlocked
      simp [hr, hi]

lemma Agrees.attach (h : g.Agrees t) (ht : g.desk.task = some t) (asked : Nat) :
    (g.note (.attach asked)).Agrees ((Deed.attach asked).undergo g.desk.promises t).1 := by
  have hplace := h.place_lt
  have hfirst : g.first.or (((Deed.attach asked).outcome? t).map (g.place, ·)) = g.first :=
    Option.or_none
  rw [note_eq ht, act_eq ht, hfirst]
  obtain ⟨-, -, hnone, hafter⟩ | ⟨old, hp, hr, -, -, hsome, hafter⟩ := attach_cases g.desk t asked
  · rw [hnone, hafter, Option.toList_none, List.append_nil]
    refine ⟨Nat.lt_succ_of_lt hplace, h.replaced, h.promise, h.sent, ?_⟩
    intro q
    change (g.desk.log ++ [Event.withdrawn g.desk.promises]).ends q = _
    rw [Log.ends_append, Log.ends_withdrawn, h.ends]
    apply owed_refused hplace <;> rfl
  · -- There is a promise to replace only as long as no outcome was sent.
    obtain ⟨hopen, rfl⟩ : g.first = none ∧ old = g.place := by
      have hplaced := hp ▸ h.promise
      cases hg : g.first with
      | none => exact ⟨rfl, by simpa [hg] using hplaced⟩
      | some s => simp [hg] at hplaced
    rw [hsome, hafter, hopen, Option.toList_some]
    refine ⟨?_, by simp, by simp [Task.promise?, place], by simp, ?_⟩
    · simp [place, Deed.promises]
    · intro q
      change (g.desk.log ++ [Event.withdrawn g.place]).ends q = _
      rw [Log.ends_append, Log.ends_withdrawn, h.ends]
      exact owed_replaced hplace hopen (by simp [place]) rfl rfl q

lemma Agrees.note (h : g.Agrees t) (ht : g.desk.task = some t) (hc : deed.Calm) :
    (g.note deed).Agrees (deed.undergo g.desk.promises t).1 := by
  by_cases htake : deed = .takeFuture
  · exact htake ▸ h.takeFuture ht
  by_cases hattach : ∃ asked, deed = .attach asked
  · obtain ⟨asked, rfl⟩ := hattach
    exact h.attach ht asked
  exact h.send ht hc htake fun asked hd => hattach ⟨asked, hd⟩

end Ledger

end Desk

end Switchboard
