import Switchboard.Call.Record

/-! Recorders keep the detail records of calls. A set of recorders hands a record to each of its
members in turn; one that refuses it is passed over, one that crashes ends the round. -/

namespace Switchboard

inductive Answer
  | kept
  | refused
  | crashed (reason : String)
deriving DecidableEq, Repr

structure Recorder where
  name : String
  answer : CallRecord → Answer

namespace Recorder

def keeping (name : String) : Recorder := ⟨name, fun _ => .kept⟩

def refusing (name : String) : Recorder := ⟨name, fun _ => .refused⟩

def crashing (name reason : String) : Recorder := ⟨name, fun _ => .crashed reason⟩

def crash? (w : Recorder) (r : CallRecord) : Option Crash :=
  match w.answer r with
  | .crashed reason => some ⟨reason⟩
  | _ => none

end Recorder

structure RecorderSet where
  /-- Tells one set from another, whatever their members. -/
  label : Nat
  members : List Recorder

namespace RecorderSet

def empty (label : Nat) : RecorderSet := ⟨label, []⟩

instance : Inhabited RecorderSet := ⟨empty 0⟩

def add (s : RecorderSet) (w : Recorder) : RecorderSet :=
  { s with members := s.members ++ [w] }

def replace (s : RecorderSet) (ws : List Recorder) : RecorderSet :=
  { s with members := ws }

def size (s : RecorderSet) : Nat := s.members.length

def description (s : RecorderSet) : String :=
  "RecorderSet \x7b recorders: " ++ toString s.size ++ " \x7d"

def reached (s : RecorderSet) (r : CallRecord) : List Recorder :=
  go s.members
where
  go : List Recorder → List Recorder
    | [] => []
    | w :: ws => if (w.crash? r).isSome then [w] else w :: go ws

def crash? (s : RecorderSet) (r : CallRecord) : Option Crash :=
  s.members.findSome? (·.crash? r)

def copies (s : RecorderSet) (name : String) (r : CallRecord) : Nat :=
  ((s.reached r).filter fun w => w.name == name && w.answer r == .kept).length

end RecorderSet

end Switchboard
