import Mathlib.Data.List.Induction
import Mathlib.Tactic.Lemma
import Switchboard.Floor

/-! Days on a floor. On a day the deeds of callers, operators and those who direct the pools follow
one another in any order; the day also tells which calls were given an identifier. -/

namespace Switchboard

namespace Floor

def bring (f : Floor) (p : Nat) (bounds : ServiceBounds) (number : String) (start : Timestamp)
    (taken : Bool) (now : Timestamp) : Floor × Except Crash (Except DispatchError Ticket) :=
  let (t, f) := f.newTask bounds number start
  f.addTask p (if taken then t.takeFuture.1 else t) now

def work (f : Floor) (p i : Nat) (now : Timestamp) (draw : Nat) : Floor :=
  match (f.pool? p).bind (·.operators[i]?) with
  | some ⟨_, .awake⟩ => f.look p i now
  | some ⟨_, .serving ..⟩ => f.finishCall p i now draw
  | some ⟨_, .returning⟩ => f.comeBack p i now
  | _ => f

inductive Deed
  | build (size : Nat) (capacity : UInt64)
  | bring (p : Nat) (bounds : ServiceBounds) (number : String) (start : Timestamp) (taken : Bool)
      (now : Timestamp)
  | beginStart (p : Nat)
  | revive (p : Nat)
  | wakeAll (p : Nat)
  | stop (p : Nat)
  | transfer (p old : Nat) (now : Timestamp)
  | replaceQueue (p : Nat) (capacity : UInt64) (now : Timestamp)
  | setRecorders (p : Nat) (set : RecorderSet)
  | setCapacity (q : Nat) (capacity : UInt64)
  | work (p i : Nat) (now : Timestamp) (draw : Nat)
  | close (p : Nat)
  | dismiss (p : Nat) (now : Timestamp)

def act (f : Floor) : Deed → Floor
  | .build size capacity =>
    match f.buildPool size capacity with
    | .ok (_, f) => f
    | .error _ => f
  | .bring p bounds number start taken now => (f.bring p bounds number start taken now).1
  | .beginStart p => (f.beginStart p).2
  | .revive p => f.revive p
  | .wakeAll p => f.modifyPool p Pool.wakeAll
  | .stop p => f.stop p
  | .transfer p old now => (f.transfer p old now).1
  | .replaceQueue p capacity now => (f.replaceQueue p capacity now).1
  | .setRecorders p set => f.setRecorders p set
  | .setCapacity q capacity => f.setCapacity q capacity
  | .work p i now draw => f.work p i now draw
  | .close p => f.close p
  | .dismiss p now => (f.dismiss p now).1

def door? (f : Floor) (p : Nat) : Option (Nat × CallId) :=
  match f.pool? p with
  | none => none
  | some pool =>
    match pool.queue, f.queueOf? pool with
    | some q, some _ => some (q, (f.nextId pool.ids).1)
    | _, _ => none

end Floor

structure Admission where
  task : Nat
  queue : Nat
  id : CallId
  reply : Except Crash (Except DispatchError Ticket)

def Floor.admission? (f : Floor) : Floor.Deed → Option Admission
  | .bring p bounds number start taken now =>
    (f.door? p).map fun (q, id) =>
      ⟨f.exchange.tasks.length, q, id, (f.bring p bounds number start taken now).2⟩
  | _ => none

lemma holds_or_broken {α : Type} {P : List α → Prop} {Breaks : List α → α → Prop} (hnil : P [])
    (hstep : ∀ l a, P l → ¬ Breaks l a → P (l ++ [a])) (l : List α) :
    P l ∨ ∃ before a later, l = before ++ a :: later ∧ P before ∧ Breaks before a ∧
      ∀ more, more <+: later → ¬ P (before ++ a :: more) := by
  induction l using List.reverseRecOn with
  | nil => exact .inl hnil
  | append_singleton l a ih =>
    by_cases hnow : P (l ++ [a])
    · exact .inl hnow
    apply Or.inr
    rcases ih with hbefore | ⟨before, first, later, rfl, hbefore, hfirst, hsince⟩
    · have hbreaks : Breaks l a := by
        by_contra hkeeps
        exact hnow (hstep l a hbefore hkeeps)
      refine ⟨l, a, [], rfl, hbefore, hbreaks, ?_⟩
      intro more hmore
      rwa [List.prefix_nil.1 hmore]
    · refine ⟨before, first, later ++ [a], by simp, hbefore, hfirst, ?_⟩
      intro more hmore
      rcases List.prefix_concat_iff.1 hmore with rfl | hmore
      · simpa using hnow
      · exact hsince more hmore

structure Day where
  floor : Floor
  admissions : List Admission

namespace Day

def act (d : Day) (deed : Floor.Deed) : Day :=
  ⟨d.floor.act deed, d.admissions ++ (d.floor.admission? deed).toList⟩

def run (d : Day) (deeds : List Floor.Deed) : Day := deeds.foldl act d

def after (deeds : List Floor.Deed) : Day := run ⟨.empty, []⟩ deeds

lemma run_append (d : Day) (deeds more : List Floor.Deed) :
    d.run (deeds ++ more) = (d.run deeds).run more :=
  List.foldl_append

lemma after_append (deeds more : List Floor.Deed) :
    Day.after (deeds ++ more) = (Day.after deeds).run more :=
  run_append ..

lemma admissions_run (d : Day) (deeds : List Floor.Deed) :
    d.admissions ⊆ (d.run deeds).admissions := by
  induction deeds generalizing d with
  | nil => exact List.Subset.refl d.admissions
  | cons deed deeds ih =>
    intro a ha
    exact ih (d.act deed) (List.mem_append_left _ ha)

end Day

end Switchboard
