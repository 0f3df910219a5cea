import Mathlib.Data.List.Induction
import Switchboard.Proofs.Floor.Waiting

/-! Shifts on a floor. On a shift a start takes its time: it hires new operators one by one, and
other things happen in between. -/

namespace Switchboard

namespace Pool

def reviveAt (p : Pool) (first i : Nat) : Pool :=
  { p with operators := p.operators.modify i fun o =>
      if o.isGone then ⟨UInt64.ofNat (first + i), .awake⟩ else o }

end Pool

structure Start where
  pool : Nat
  /-- The number kept for an operator in the first place. -/
  first : Nat
  /-- The place that it looks at next. -/
  next : Nat
deriving DecidableEq

structure Shift where
  floor : Floor
  starts : List Start

namespace Shift

inductive Deed
  | floor (deed : Floor.Deed)
  | installQueue (p q : Nat) (now : Timestamp)
  | carryOn (n : Nat)

def beginStart (s : Shift) (p : Nat) : Shift :=
  match s.floor.pool? p with
  | none => s
  | some pool =>
    let (more, f) := s.floor.beginStart p
    if more then
      ⟨{ f with hired := f.hired + pool.size }, s.starts ++ [⟨p, f.hired + 1, 0⟩]⟩
    else ⟨f, s.starts⟩

def carryOn (s : Shift) (n : Nat) : Shift :=
  match s.starts[n]? with
  | none => s
  | some start =>
    match s.floor.pool? start.pool with
    | none => { s with starts := s.starts.eraseIdx n }
    | some pool =>
      if start.next < pool.size then
        ⟨s.floor.setPool start.pool (pool.reviveAt start.first start.next),
          s.starts.set n { start with next := start.next + 1 }⟩
      else ⟨s.floor.setPool start.pool pool.wakeAll, s.starts.eraseIdx n⟩

def act (s : Shift) : Deed → Shift
  | .floor (.beginStart p) => s.beginStart p
  | .floor (.revive _) => s
  | .floor (.wakeAll _) => s
  | .floor deed => { s with floor := s.floor.act deed }
  | .installQueue p q now => { s with floor := (s.floor.installQueue p q now).1 }
  | .carryOn n => s.carryOn n

def run (s : Shift) (deeds : List Deed) : Shift := deeds.foldl act s

def after (deeds : List Deed) : Shift := run ⟨.empty, []⟩ deeds

lemma run_append (s : Shift) (deeds more : List Deed) :
    s.run (deeds ++ more) = (s.run deeds).run more :=
  List.foldl_append

lemma after_append (deeds more : List Deed) : after (deeds ++ more) = (after deeds).run more :=
  run_append ..

end Shift

namespace Pool

def revivedUpTo (p : Pool) (first n : Nat) : Pool :=
  { p with operators := p.operators.mapIdx fun i o =>
      if i < n ∧ o.isGone = true then ⟨UInt64.ofNat (first + i), .awake⟩ else o }

lemma size_revivedUpTo (pool : Pool) (first n : Nat) :
    (pool.revivedUpTo first n).size = pool.size := by
  simp [size, revivedUpTo]

lemma revivedUpTo_zero (pool : Pool) (first : Nat) : pool.revivedUpTo first 0 = pool := by
  have h : (pool.revivedUpTo first 0).operators = pool.operators := by
    apply List.ext_getElem?
    intro i
    simp only [revivedUpTo, List.getElem?_mapIdx]
    cases pool.operators[i]? <;> simp
  exact congrArg (fun operators => { pool with operators := operators }) h

lemma reviveAt_revivedUpTo (pool : Pool) (first n : Nat) :
    (pool.revivedUpTo first n).reviveAt first n = pool.revivedUpTo first (n + 1) := by
  have h : ((pool.revivedUpTo first n).reviveAt first n).operators =
      (pool.revivedUpTo first (n + 1)).operators := by
    apply List.ext_getElem?
    intro i
    simp only [reviveAt, revivedUpTo, List.getElem?_modify, List.getElem?_mapIdx]
    cases pool.operators[i]? with
    | none => rfl
    | some o =>
      by_cases hi : n = i
      · subst hi
        simp
      · have hlt : i < n + 1 ↔ i < n := by omega
        simp [hi, hlt]
  exact congrArg (fun operators => { pool with operators := operators }) h

lemma revivedUpTo_size (pool : Pool) (first : Nat) :
    pool.revivedUpTo first pool.size = pool.revive first := by
  have h : (pool.revivedUpTo first pool.size).operators = (pool.revive first).operators := by
    apply List.ext_getElem?
    intro i
    simp only [revivedUpTo, revive, List.getElem?_mapIdx]
    cases ho : pool.operators[i]? with
    | none => rfl
    | some o =>
      obtain ⟨hi, -⟩ := List.getElem?_eq_some_iff.1 ho
      simp [size, hi]
  exact congrArg (fun operators => { pool with operators := operators }) h

end Pool

namespace Shift

variable {s : Shift} {p : Nat} {pool : Pool}

def midStart (s : Shift) (p : Nat) (pool : Pool) (n : Nat) : Shift :=
  ⟨{ s.floor.setPool p (pool.revivedUpTo (s.floor.hired + 1) n) with
      hired := s.floor.hired + pool.size },
    s.starts ++ [⟨p, s.floor.hired + 1, n⟩]⟩

lemma carryOn_midStart (hp : (s.floor.pool? p).isSome) (pool : Pool) {n : Nat}
    (hn : n < pool.size) :
    (s.midStart p pool n).carryOn s.starts.length = s.midStart p pool (n + 1) := by
  obtain ⟨before, hbefore⟩ := Option.isSome_iff_exists.1 hp
  have hstart : (s.midStart p pool n).starts[s.starts.length]? =
      some ⟨p, s.floor.hired + 1, n⟩ := by
    simp [midStart]
  have hpool : (s.midStart p pool n).floor.pool? p =
      some (pool.revivedUpTo (s.floor.hired + 1) n) :=
    (Floor.pool?_setPool hbefore _ p).trans (if_pos rfl)
  simp only [carryOn, hstart, hpool, Pool.size_revivedUpTo, hn, if_true]
  simp [midStart, Floor.setPool, Pool.reviveAt_revivedUpTo]

lemma carryOn_midStart_size (hp : (s.floor.pool? p).isSome) (pool : Pool) :
    (s.midStart p pool pool.size).carryOn s.starts.length =
      ⟨{ s.floor.setPool p (pool.revive (s.floor.hired + 1)).wakeAll with
        hired := s.floor.hired + pool.size }, s.starts⟩ := by
  obtain ⟨before, hbefore⟩ := Option.isSome_iff_exists.1 hp
  have hstart : (s.midStart p pool pool.size).starts[s.starts.length]? =
      some ⟨p, s.floor.hired + 1, pool.size⟩ := by
    simp [midStart]
  have hpool : (s.midStart p pool pool.size).floor.pool? p =
      some (pool.revive (s.floor.hired + 1)) := by
    rw [← Pool.revivedUpTo_size]
    exact (Floor.pool?_setPool hbefore _ p).trans (if_pos rfl)
  have hsize : (pool.revive (s.floor.hired + 1)).size = pool.size := by
    rw [← Pool.revivedUpTo_size, Pool.size_revivedUpTo]
  simp only [carryOn, hstart, hpool, hsize, Nat.lt_irrefl, if_false]
  simp [midStart, Floor.setPool, List.eraseIdx_append_of_length_le]

lemma run_midStart (hp : (s.floor.pool? p).isSome) (pool : Pool) {n : Nat} (hn : n ≤ pool.size) :
    (s.midStart p pool 0).run (List.replicate n (.carryOn s.starts.length)) =
      s.midStart p pool n := by
  induction n with
  | zero => rfl
  | succ n ih =>
    rw [List.replicate_succ', run_append, ih (by omega)]
    exact carryOn_midStart hp pool hn

theorem run_start (hp : s.floor.pool? p = some pool) :
    s.run (.floor (.beginStart p) :: List.replicate (pool.size + 1) (.carryOn s.starts.length)) =
      { s with floor := s.floor.start p } := by
  have hsome : (s.floor.pool? p).isSome := by simp [hp]
  cases hpaused : pool.paused with
  | false =>
    have hbegin : s.act (.floor (.beginStart p)) = { s with floor := s.floor.start p } := by
      simp [act, beginStart, Floor.start, Floor.beginStart, hp, Pool.beginStart, hpaused]
    have hidle (n : Nat) : ({ s with floor := s.floor.start p } : Shift).run
        (List.replicate n (.carryOn s.starts.length)) = { s with floor := s.floor.start p } := by
      induction n with
      | zero => rfl
      | succ n ih =>
        rw [List.replicate_succ', run_append, ih]
        simp [run, act, carryOn]
    exact (congrArg (run · _) hbegin).trans (hidle _)
  | true =>
    let pool₁ := pool.beginStart.2
    let f₁ := s.floor.setPool p pool₁
    have hbegin : s.act (.floor (.beginStart p)) = s.midStart p pool₁ 0 := by
      rw [midStart, Pool.revivedUpTo_zero]
      simp only [act, beginStart, Floor.beginStart, hp, Pool.beginStart, hpaused, if_true]
      rfl
    have hp₁ : f₁.pool? p = some pool₁ := (Floor.pool?_setPool hp pool₁ p).trans (if_pos rfl)
    have hp₂ : ({ f₁.setPool p (pool₁.revive (f₁.hired + 1)) with
        hired := f₁.hired + pool₁.size } : Floor).pool? p =
          some (pool₁.revive (f₁.hired + 1)) :=
      (Floor.pool?_setPool hp₁ _ p).trans (if_pos rfl)
    have hstart : s.floor.start p =
        { s.floor.setPool p (pool₁.revive (s.floor.hired + 1)).wakeAll with
          hired := s.floor.hired + pool₁.size } := by
      have hb : s.floor.beginStart p = (true, f₁) := by
        simp only [Floor.beginStart, hp, Pool.beginStart, hpaused]
        rfl
      simp only [Floor.start, hb, if_true, Floor.revive, hp₁]
      rw [Floor.modifyPool_of_some hp₂]
      simp [Floor.setPool, f₁]
    calc s.run (.floor (.beginStart p) :: List.replicate (pool.size + 1) (.carryOn s.starts.length))
      _ = (s.midStart p pool₁ 0).run
          (List.replicate (pool₁.size + 1) (.carryOn s.starts.length)) :=
        congrArg (run · _) hbegin
      _ = (s.midStart p pool₁ pool₁.size).carryOn s.starts.length := by
        rw [List.replicate_succ', run_append, run_midStart hsome pool₁ (Nat.le_refl _)]
        rfl
      _ = { s with floor := s.floor.start p } := by rw [carryOn_midStart_size hsome, hstart]

inductive Turn (s : Shift) (p : Nat) : Deed → Option Pool → Option Pool → Prop
  | rests (deed : Deed) (pool : Option Pool)
      (others : ∀ n start, deed = .carryOn n → s.starts[n]? = some start → start.pool = p →
        pool = none) : Turn s p deed pool pool
  | floor {deed : Floor.Deed} {before after : Option Pool}
      (turn : s.floor.Turn p deed before after) : Turn s p (.floor deed) before after
  | rehoused (q : Nat) (now : Timestamp) (pool : Pool)
      (crashes : (s.floor.installQueue p q now).2 ≠ none) :
      Turn s p (.installQueue p q now) (some pool) (some { pool with queue := some q })
  | rehousedAwake (q : Nat) (now : Timestamp) (pool : Pool) :
      Turn s p (.installQueue p q now) (some pool) (some { pool with queue := some q }.wakeAll)
  | revived (n : Nat) (start : Start) (pool : Pool) (isStart : s.starts[n]? = some start)
      (ofPool : start.pool = p) (next : start.next < pool.size) :
      Turn s p (.carryOn n) (some pool) (some (pool.reviveAt start.first start.next))
  | woken (n : Nat) (start : Start) (pool : Pool) (isStart : s.starts[n]? = some start)
      (ofPool : start.pool = p) (done : pool.size ≤ start.next) :
      Turn s p (.carryOn n) (some pool) (some pool.wakeAll)

lemma pool?_beginStart (s : Shift) (p j : Nat) :
    (s.beginStart p).floor.pool? j = (s.floor.act (.beginStart p)).pool? j := by
  cases hp : s.floor.pool? p with
  | none => simp only [beginStart, Floor.act, Floor.beginStart, hp]
  | some pool =>
    simp only [beginStart, Floor.act, Floor.beginStart, hp]
    split <;> rfl

lemma turn_installQueue (s : Shift) (p j q : Nat) (now : Timestamp) :
    s.Turn p (.installQueue j q now) (s.floor.pool? p)
      ((s.floor.installQueue j q now).1.pool? p) := by
  have rests (pool : Option Pool) : s.Turn p (.installQueue j q now) pool pool := by
    apply Turn.rests
    intro n start hn
    cases hn
  cases hj : s.floor.pool? j with
  | none =>
    rw [Floor.installQueue_of_none hj]
    exact rests _
  | some pool =>
    rw [Floor.pool?_installQueue hj]
    split
    · rw [‹p = j›, hj]
      cases hcrash : (s.floor.installQueue j q now).2 with
      | none => exact .rehousedAwake q now pool
      | some crash => exact .rehoused q now pool (by simp [hcrash])
    · exact rests _

lemma turn_carryOn (s : Shift) (p n : Nat) :
    s.Turn p (.carryOn n) (s.floor.pool? p) ((s.carryOn n).floor.pool? p) := by
  cases hn : s.starts[n]? with
  | none =>
    simp only [carryOn, hn]
    apply Turn.rests
    rintro k start hk hstart
    cases hk
    cases hn.symm.trans hstart
  | some start =>
    have rests {pool : Option Pool} (h : start.pool = p → pool = none) :
        s.Turn p (.carryOn n) pool pool := by
      apply Turn.rests
      rintro k start' hk hstart
      cases hk
      obtain rfl := Option.some.inj (hn.symm.trans hstart)
      exact h
    cases hs : s.floor.pool? start.pool with
    | none =>
      simp only [carryOn, hn, hs]
      exact rests fun hp => hp ▸ hs
    | some pool =>
      simp only [carryOn, hn, hs]
      split
      · rw [Floor.pool?_setPool hs]
        split
        · rw [‹p = start.pool›, hs]
          exact .revived n start pool hn rfl ‹_›
        · exact rests fun hp => absurd hp.symm ‹_›
      · rw [Floor.pool?_setPool hs]
        split
        · rw [‹p = start.pool›, hs]
          exact .woken n start pool hn rfl (Nat.not_lt.1 ‹_›)
        · exact rests fun hp => absurd hp.symm ‹_›

theorem turn_act (s : Shift) (p : Nat) (deed : Deed) :
    s.Turn p deed (s.floor.pool? p) ((s.act deed).floor.pool? p) := by
  cases deed with
  | floor deed =>
    have turn := Floor.turn_act s.floor p deed
    cases deed with
    | beginStart j =>
      rw [act, pool?_beginStart]
      exact .floor turn
    | revive | wakeAll => exact .floor (.rests _ _)
    | _ => exact .floor turn
  | installQueue j q now => exact turn_installQueue s p j q now
  | carryOn n => exact turn_carryOn s p n

lemma starts_beginStart (hp : s.floor.pool? p = some pool) :
    (s.beginStart p).starts =
      if pool.paused then s.starts ++ [⟨p, s.floor.hired + 1, 0⟩] else s.starts := by
  simp only [beginStart, Floor.beginStart, hp, Pool.beginStart]
  split <;> rfl

lemma mem_starts_act {start : Start} (h : start ∈ s.starts) (deed : Deed) :
    start ∈ (s.act deed).starts ∨ ∃ n, deed = .carryOn n ∧ s.starts[n]? = some start := by
  cases deed with
  | floor deed =>
    cases deed with
    | beginStart p =>
      cases hp : s.floor.pool? p with
      | none => exact .inl (by simpa only [act, beginStart, hp] using h)
      | some pool =>
        rw [act, starts_beginStart hp]
        split
        · exact .inl (List.mem_append_left _ h)
        · exact .inl h
    | _ => exact .inl h
  | installQueue p q now => exact .inl h
  | carryOn n =>
    obtain ⟨k, hk⟩ := List.mem_iff_getElem?.1 h
    by_cases hkn : k = n
    · exact .inr ⟨n, rfl, hkn ▸ hk⟩
    · have hset (start' : Start) : start ∈ s.starts.set n start' :=
        List.mem_iff_getElem?.2 ⟨k, by rw [List.getElem?_set_ne (Ne.symm hkn), hk]⟩
      have herase : start ∈ s.starts.eraseIdx n :=
        List.mem_eraseIdx_iff_getElem?.2 ⟨k, hkn, hk⟩
      refine .inl ?_
      rw [act, carryOn]
      split
      · exact h
      · split
        · exact herase
        · split
          · exact hset _
          · exact herase

lemma mem_starts_of_next {n : Nat} {start : Start} (hn : s.starts[n]? = some start)
    (hp : s.floor.pool? start.pool = some pool) (hnext : start.next < pool.size) :
    { start with next := start.next + 1 } ∈ (s.act (.carryOn n)).starts := by
  obtain ⟨hlt, -⟩ := List.getElem?_eq_some_iff.1 hn
  simp only [act, carryOn, hn, hp, hnext, if_true]
  exact List.mem_set hlt _

end Shift

end Switchboard
