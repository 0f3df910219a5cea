import Mathlib.Data.List.Basic
import Switchboard.Proofs.Task.Departure

/-! Handing records round. Each member of a set is handed a record in its turn; a refusal is passed
over, a crash ends the round, and neither changes who is handed the next record. -/

namespace Switchboard

namespace RecorderSet

def write (s : RecorderSet) (r : CallRecord) : Turn RecorderSet Unit :=
  ⟨s, [.recorded s r], match s.crash? r with
    | none => .ok ()
    | some c => .error c⟩

inductive Round (s : RecorderSet) (r : CallRecord) : Prop
  | whole (quiet : ∀ w ∈ s.members, w.crash? r = none) (reached : s.reached r = s.members)
      (reply : (s.write r).reply = .ok ())
  | cut (before : List Recorder) (w : Recorder) (after : List Recorder) (c : Crash)
      (members : s.members = before ++ w :: after) (quiet : ∀ v ∈ before, v.crash? r = none)
      (crashes : w.crash? r = some c) (reached : s.reached r = before ++ [w])
      (reply : (s.write r).reply = .error c)

def turns (ws : List Recorder) (name : String) (r : CallRecord) : Nat :=
  (ws.takeWhile fun w => (w.crash? r).isNone).countP (·.name == name)

variable {s : RecorderSet} {r : CallRecord} {name : String}

lemma write_reply (s : RecorderSet) (r : CallRecord) :
    (s.write r).reply = match s.crash? r with
      | none => .ok ()
      | some c => .error c := rfl

lemma handOut_eq_write {t : Task} (h : t.recorded = false) (s : RecorderSet) :
    t.handOut s =
      ⟨{ t with recorded := true }, (s.write t.record).events, (s.write t.record).reply⟩ := by
  rw [Task.handOut, h]
  rfl

lemma reached_go_of_quiet {ws : List Recorder} (h : ∀ w ∈ ws, w.crash? r = none)
    (rest : List Recorder) : reached.go r (ws ++ rest) = ws ++ reached.go r rest := by
  induction ws with
  | nil => rfl
  | cons w ws ih =>
    obtain ⟨hw, hws⟩ := List.forall_mem_cons.1 h
    rw [List.cons_append, reached.go, hw, ih hws]
    rfl

lemma goes_round (s : RecorderSet) (r : CallRecord) : s.Round r := by
  cases hc : s.crash? r with
  | none =>
    have hquiet : ∀ w ∈ s.members, w.crash? r = none := List.findSome?_eq_none_iff.1 hc
    refine .whole hquiet ?_ (by rw [write_reply, hc])
    simpa [reached, reached.go] using reached_go_of_quiet hquiet []
  | some c =>
    obtain ⟨before, w, after, hmembers, hw, hquiet⟩ := List.findSome?_eq_some_iff.1 hc
    refine .cut before w after c hmembers hquiet hw ?_ (by rw [write_reply, hc])
    rw [reached, hmembers, reached_go_of_quiet hquiet, reached.go, hw]
    rfl

lemma countP_reached_go {ws : List Recorder}
    (h : ∀ w ∈ ws, w.name = name → w.answer r = .kept) :
    (reached.go r ws).countP (fun w => w.name == name && w.answer r == .kept) =
      (ws.takeWhile fun w => (w.crash? r).isNone).countP (·.name == name) := by
  induction ws with
  | nil => rfl
  | cons w ws ih =>
    obtain ⟨hw, hws⟩ := List.forall_mem_cons.1 h
    rw [reached.go, List.takeWhile_cons]
    cases ha : w.answer r with
    | crashed reason =>
      have hcrash : w.crash? r = some ⟨reason⟩ := by rw [Recorder.crash?, ha]
      simp [hcrash, ha]
    | refused =>
      have hquiet : w.crash? r = none := by rw [Recorder.crash?, ha]
      have hname : w.name ≠ name := fun hn => nomatch ha.symm.trans (hw hn)
      simp [hquiet, hname, ih hws]
    | kept =>
      have hquiet : w.crash? r = none := by rw [Recorder.crash?, ha]
      simp [hquiet, ha, List.countP_cons, ih hws]

lemma copies_eq_turns (h : ∀ w ∈ s.members, w.name = name → w.answer r = .kept) :
    s.copies name r = turns s.members name r := by
  rw [copies, ← List.countP_eq_length_filter]
  exact countP_reached_go h

inductive Deed
  | add (w : Recorder)
  | replace (ws : List Recorder)
  /-- From now on each member answers in a way of its own, as when the disk of one is full. -/
  | change (answers : Nat → CallRecord → Answer)
  | write (r : CallRecord)

def act (s : RecorderSet) : Deed → RecorderSet
  | .add w => s.add w
  | .replace ws => s.replace ws
  | .change answers =>
    { s with members := s.members.mapIdx fun i w => { w with answer := answers i } }
  | .write r => (s.write r).state

def run (s : RecorderSet) (deeds : List Deed) : RecorderSet := deeds.foldl act s

def rounds (s : RecorderSet) : List Deed → List (RecorderSet × CallRecord)
  | [] => []
  | .write r :: deeds => (s, r) :: (s.act (.write r)).rounds deeds
  | deed :: deeds => (s.act deed).rounds deeds

def story (s : RecorderSet) (deeds : List Deed) : Log :=
  (s.rounds deeds).flatMap fun (s, r) => (s.write r).events

def registered (ws : List Recorder) : List Deed → List Recorder
  | [] => ws
  | .add w :: deeds => registered (ws ++ [w]) deeds
  | .replace ws' :: deeds => registered ws' deeds
  | .change answers :: deeds =>
    registered (ws.mapIdx fun i w => { w with answer := answers i }) deeds
  | .write _ :: deeds => registered ws deeds

def writings (ws : List Recorder) : List Deed → List (List Recorder × CallRecord)
  | [] => []
  | .write r :: deeds => (ws, r) :: writings ws deeds
  | deed :: deeds => writings (registered ws [deed]) deeds

lemma members_run (s : RecorderSet) (deeds : List Deed) :
    (s.run deeds).members = registered s.members deeds := by
  induction deeds generalizing s with
  | nil => rfl
  | cons deed deeds ih => cases deed <;> exact ih _

lemma members_rounds (s : RecorderSet) (deeds : List Deed) :
    (s.rounds deeds).map (fun (s, r) => (s.members, r)) = writings s.members deeds := by
  induction deeds generalizing s with
  | nil => rfl
  | cons deed deeds ih =>
    cases deed with
    | write r => exact congrArg ((s.members, r) :: ·) (ih _)
    | add | replace | change => exact ih _

lemma rounds_append (s : RecorderSet) (deeds more : List Deed) :
    s.rounds (deeds ++ more) = s.rounds deeds ++ (s.run deeds).rounds more := by
  induction deeds generalizing s with
  | nil => rfl
  | cons deed deeds ih =>
    cases deed with
    | write r => exact congrArg ((s, r) :: ·) (ih _)
    | add | replace | change => exact ih _

lemma kept_events (writes : List (RecorderSet × CallRecord)) (name : String) :
    Log.kept name (writes.flatMap fun (s, r) => (s.write r).events) =
      writes.flatMap fun (s, r) => List.replicate (s.copies name r) r := by
  rw [Log.kept, List.flatMap_assoc]
  exact List.flatMap_congr fun _ _ => List.append_nil _

end RecorderSet

open RecorderSet in
theorem records_go_round (first : RecorderSet) (deeds : List Deed) :
    let s := first.run deeds
    s.members = registered first.members deeds ∧
    (first.rounds deeds).map (fun (s, r) => (s.members, r)) = writings first.members deeds ∧
    (∀ r, s.Round r) ∧
    (∀ t : Task, t.recorded = false → t.handOut s =
      ⟨{ t with recorded := true }, (s.write t.record).events, (s.write t.record).reply⟩) ∧
    (∀ name, (∀ ws r, (ws, r) ∈ writings first.members deeds →
        ∀ w ∈ ws, w.name = name → w.answer r = .kept) →
      (first.story deeds).kept name =
        (writings first.members deeds).flatMap fun (ws, r) => List.replicate (turns ws name r) r) ∧
    ∀ r more,
      first.rounds (deeds ++ .write r :: more) = first.rounds deeds ++ (s, r) :: s.rounds more ∧
      first.rounds (deeds ++ more) = first.rounds deeds ++ s.rounds more := by
  intro s
  have hwritings := members_rounds first deeds
  refine ⟨members_run first deeds, hwritings, s.goes_round, fun t ht => handOut_eq_write ht s, ?_,
    fun r more => ?_⟩
  · intro name hname
    rw [← hwritings] at hname ⊢
    rw [story, kept_events, List.flatMap_map]
    refine List.flatMap_congr fun (s, r) hround => ?_
    dsimp only
    rw [copies_eq_turns (hname s.members r (List.mem_map_of_mem hround))]
  · exact ⟨rounds_append first deeds (.write r :: more), rounds_append first deeds more⟩

theorem records_go_round_cut_short :
    let r := CallRecord.opened "555-0100" ⟨2024, 3, 1, 12, 0, 0, 0⟩
    let memory := Recorder.keeping "memory"
    let exploding := Recorder.crashing "panic" "recorder exploded"
    let first : RecorderSet := ⟨0, [memory, .refusing "fail"]⟩
    let deeds : List RecorderSet.Deed :=
      [.write r, .add memory, .add exploding, .add memory, .write r, .replace [memory], .write r]
    (∀ ws r, (ws, r) ∈ RecorderSet.writings first.members deeds →
      ∀ w ∈ ws, w.name = "memory" → w.answer r = .kept) ∧
      (first.run (deeds.take 5)).members =
        [memory, .refusing "fail", memory, exploding, memory] ∧
      (first.story deeds).kept "memory" = [r, r, r, r] := by
  intro r memory exploding first deeds
  have hname : ∀ ws r, (ws, r) ∈ RecorderSet.writings first.members deeds →
      ∀ w ∈ ws, w.name = "memory" → w.answer r = .kept := by
    have hwritings : RecorderSet.writings first.members deeds =
        [([memory, .refusing "fail"], r),
          ([memory, .refusing "fail", memory, exploding, memory], r), ([memory], r)] := rfl
    intro ws r' hwriting
    rw [hwritings, List.mem_cons, List.mem_cons, List.mem_singleton] at hwriting
    obtain ⟨rfl, rfl⟩ | ⟨rfl, rfl⟩ | ⟨rfl, rfl⟩ := hwriting <;> decide
  obtain ⟨hmembers, -⟩ := records_go_round first (deeds.take 5)
  obtain ⟨-, -, -, -, hkept, -⟩ := records_go_round first deeds
  exact ⟨hname, hmembers, hkept "memory" hname⟩

end Switchboard
