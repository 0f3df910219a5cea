import Switchboard.Center
import Switchboard.Proofs.Floor.Concord
import Switchboard.Proofs.Queue.Notices

/-! Who is told of the calls that the queue of a pool turns away: the recorders of the pool, from
the moment at which a center is opened and until a deed parts the two. -/

namespace Switchboard

namespace Tenancy

def opening (members : List Recorder) (size : Nat) (capacity : UInt64) : List Deed :=
  [.newRecorders members, .floor (.build size capacity), .floor (.setRecorders 0 ⟨0, members⟩)]

variable {members : List Recorder} {size : Nat} {capacity : UInt64} {t : Tenancy} {p q : Nat}
  {pool : Pool} {queue : CallQueue}

lemma floor_opening (h : Floor.overflow? size (some capacity) = none) :
    (after (opening members size capacity)).floor =
      ((Floor.empty.newRecorders members).2.newPool size capacity).2.setRecorders 0 ⟨0, members⟩ :=
  congrArg (·.setRecorders 0 ⟨0, members⟩) (Floor.act_build h)

lemma keeper_opening (h : Floor.overflow? size (some capacity) = none) :
    (after (opening members size capacity)).keeper 0 = some 0 := by
  have he : step (step Floor.empty (.newRecorders members)) (.floor (.build size capacity)) =
      ((Floor.empty.newRecorders members).2.newPool size capacity).2 := Floor.act_build h
  simp only [after, opening, run, List.foldl_cons, List.foldl_nil, act, taker?]
  rw [he]
  rfl

lemma concord_opening (members : List Recorder) (size : Nat) (capacity : UInt64) :
    (after (opening members size capacity)).Concord 0 :=
  concord_of_setRecorders (after ((opening members size capacity).take 2)) 0 ⟨0, members⟩

lemma Concord.writesTo (h : t.Concord p) (hp : t.floor.pool? p = some pool)
    (hq : pool.queue = some q) (hkeeper : t.keeper q = some p)
    (hqueue : t.floor.queue? q = some queue) : queue.WritesTo pool.recorders := by
  rw [← h pool q queue hp hq hkeeper hqueue]
  exact queue.writesTo_recorders

structure LeadTo (deeds : List Deed) (c : Center) : Prop where
  floor : (after deeds).floor = c.floor
  concord : (after deeds).Concord c.dispatcher.pool
  keeper : ∃ pool q queue, c.livePool? = some pool ∧ pool.queue = some q ∧
    (after deeds).keeper q = some c.dispatcher.pool ∧ c.floor.queue? q = some queue

end Tenancy

open Tenancy

namespace Center

variable {plan : Plan} {file : WatchedFile} {c : Center}

lemma opening_of_withProvider {p : Provider} {monitor : Option Monitor}
    (h : withProvider plan file p monitor = .ok (.ok c)) : ∃ deeds, LeadTo deeds c := by
  rw [withProvider] at h
  split at h
  · cases h
  · dsimp only at h
    rw [Floor.buildPool] at h
    split at h
    · obtain rfl := Except.ok.inj (Except.ok.inj h)
      exact ⟨opening _ _ _, floor_opening ‹_›, concord_opening _ _ _,
        ⟨_, 0, _, rfl, rfl, keeper_opening ‹_›, rfl⟩⟩
    · cases h

lemma opening_of_ofPlan (h : ofPlan plan file = .ok (.ok c)) : ∃ deeds, LeadTo deeds c := by
  rw [ofPlan] at h
  split at h
  · cases h
  · exact opening_of_withProvider h
  · exact opening_of_withProvider h

end Center

/-- A pool hears of the calls that its queue turns away, or else a deed parted the two and nothing
united them since. They are united when a center opens, and whenever the pool is given recorders, a
queue, or all that another has. -/
theorem pool_hears_of_rejected_calls (deeds : List Deed) (p : Nat) :
    let t := after deeds
    (t.Concord p ∨
      ∃ before deed later, deeds = before ++ deed :: later ∧ (after before).Concord p ∧
        (after before).Jars p deed ∧
        ∀ more, more <+: later → ¬ (after (before ++ deed :: more)).Concord p) ∧
    (t.Concord p → ∀ pool q queue, t.floor.pool? p = some pool → pool.queue = some q →
      t.keeper q = some p → t.floor.queue? q = some queue → queue.WritesTo pool.recorders) ∧
    (∀ set, (t.act (.floor (.setRecorders p set))).Concord p) ∧
    (∀ q now, (t.act (.installQueue p q now)).Concord p) ∧
    (∀ old now, (t.floor.pool? old).isSome → (t.floor.transfer p old now).2 = none →
      (t.act (.floor (.transfer p old now))).Concord p) ∧
    ∀ plan file c, Center.ofPlan plan file = .ok (.ok c) → ∃ first, LeadTo first c := by
  intro t
  refine ⟨concord_or_jarred deeds p, ?_, ?_, ?_, ?_, ?_⟩
  · exact fun h pool q queue hp hq hkeeper hqueue => h.writesTo hp hq hkeeper hqueue
  · exact fun set => concord_of_setRecorders t p set
  · exact fun q now => concord_of_installQueue t p q now
  · exact fun old now ho hcalm => concord_of_transfer ho hcalm
  · exact fun plan file c h => Center.opening_of_ofPlan h

theorem pool_hears_of_rejected_calls_after_hand_over :
    let deeds := opening [.keeping "memory"] 1 10 ++
      [.floor (.build 1 10), .floor (.transfer 1 0 (.ofPosition 0))]
    (after deeds).Concord 1 ∧ ∃ queue, (after deeds).floor.queue? 0 = some queue ∧
      queue.WritesTo ⟨0, [.keeping "memory"]⟩ := by
  intro deeds
  obtain ⟨-, -, -, -, htransfer, -⟩ := pool_hears_of_rejected_calls (deeds.take 4) 1
  have hconcord : (after deeds).Concord 1 := htransfer 0 (.ofPosition 0) rfl rfl
  obtain ⟨-, hears, -⟩ := pool_hears_of_rejected_calls deeds 1
  exact ⟨hconcord, _, rfl, hears hconcord _ 0 _ rfl rfl rfl rfl⟩

namespace Tenancy

def ofOthers : List Deed :=
  [.newQueue 4 ⟨0, [.keeping "memory"]⟩, .newIds 1,
    .poolAround 1 (some 0) ⟨1, [.keeping "file"]⟩ 0]

def ofTakeover : List Deed :=
  let midnight := Timestamp.ofPosition 0
  let bounds : ServiceBounds := ⟨1, 1, .ofSeconds 1⟩
  [.floor (.build 1 10), .floor (.build 1 10),
    .floor (.setRecorders 1 ⟨2, [.keeping "memory", .crashing "panic" "recorder exploded"]⟩),
    .floor (.bring 1 bounds "555-0100" midnight false midnight),
    .floor (.transfer 1 0 midnight), .floor (.setCapacity 0 0),
    .floor (.bring 1 bounds "555-0101" midnight false midnight)]

theorem pool_deaf_to_rejected_calls :
    ¬ (after ofOthers).Concord 0 ∧ ¬ (after ofTakeover).Concord 1 ∧
      ((after ofTakeover).floor.exchange.records.map fun (k, set, r) =>
        (k, set.label, r.status)) = [(0, 2, .rejected), (1, 0, .overloaded)] := by
  refine ⟨?_, ?_, ?_⟩
  · intro h
    cases congrArg RecorderSet.label (h _ 0 _ rfl rfl rfl rfl)
  · intro h
    cases congrArg RecorderSet.label (h _ 0 _ rfl rfl rfl rfl)
  · rfl

end Tenancy

end Switchboard
