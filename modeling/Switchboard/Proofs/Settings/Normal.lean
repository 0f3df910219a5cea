import Mathlib.Data.Nat.Dist
import Mathlib.Order.Interval.Set.Defs
import Mathlib.Tactic.Lemma
import Switchboard.Settings

/-! Settings in normal form: every value lies in its allowed range and the bounds are in order. Of
all such settings, the normal form of others is the one with the nearest values. -/

namespace Switchboard

structure IsNearest (allowed : Set ℕ) (v r : ℕ) : Prop where
  mem : r ∈ allowed
  lt : ∀ x ∈ allowed, x ≠ r → v.dist r < v.dist x

section Nearest

variable {allowed : Set ℕ} {v r r' : ℕ}

lemma IsNearest.unique (h : IsNearest allowed v r) (h' : IsNearest allowed v r') : r = r' := by
  by_contra hne
  exact Nat.lt_asymm (h.lt r' h'.mem (Ne.symm hne)) (h'.lt r h.mem hne)

lemma isNearest_self (h : v ∈ allowed) : IsNearest allowed v v := by
  refine ⟨h, fun x _ hne => ?_⟩
  rw [Nat.dist_self]
  exact Nat.dist_pos_of_ne hne.symm

lemma isNearest_ite {lo hi : ℕ} (h : lo ≤ hi) (v : ℕ) :
    IsNearest (Set.Icc lo hi) v (if v < lo then lo else if hi < v then hi else v) := by
  obtain hlow | hlow := Nat.lt_or_ge v lo
  · rw [if_pos hlow]
    refine ⟨⟨Nat.le_refl lo, h⟩, fun x ⟨hx, _⟩ hne => ?_⟩
    rw [Nat.dist_eq_sub_of_le (by omega), Nat.dist_eq_sub_of_le (by omega)]
    omega
  · rw [if_neg (Nat.not_lt.2 hlow)]
    obtain hhigh | hhigh := Nat.lt_or_ge hi v
    · rw [if_pos hhigh]
      refine ⟨⟨h, Nat.le_refl hi⟩, fun x ⟨_, hx⟩ hne => ?_⟩
      rw [Nat.dist_eq_sub_of_le_right (by omega), Nat.dist_eq_sub_of_le_right (by omega)]
      omega
    · rw [if_neg (Nat.not_lt.2 hhigh)]
      exact isNearest_self ⟨hlow, hhigh⟩

end Nearest

namespace Settings

structure InRange (s : Settings) : Prop where
  rMin : 4 ≤ s.rMin ∧ s.rMin ≤ 100
  rMax : 5 ≤ s.rMax ∧ s.rMax ≤ 140
  ordered : s.rMin ≤ s.rMax
  operators : 2 ≤ s.operators ∧ s.operators ≤ 80
  queueSize : 15 ≤ s.queueSize ∧ s.queueSize ≤ 350

structure Normalizes (s t : Settings) : Prop where
  bounds : ∃ rMin rMax : UInt32, IsNearest (Set.Icc 4 100) s.rMin.toNat rMin.toNat ∧
    IsNearest (Set.Icc 5 140) s.rMax.toNat rMax.toNat ∧
    (t.rMin, t.rMax) = if rMax < rMin then (rMax, rMin) else (rMin, rMax)
  operators : IsNearest (Set.Icc 2 80) s.operators.toNat t.operators.toNat
  queueSize : IsNearest (Set.Icc 15 350) s.queueSize.toNat t.queueSize.toNat

variable {s t t' : Settings}

lemma isNearest_clamp32 (lo hi : UInt32) (h : lo ≤ hi) (v : UInt32) :
    IsNearest (Set.Icc lo.toNat hi.toNat) v.toNat (clamp32 lo hi v).toNat := by
  rw [clamp32, apply_ite UInt32.toNat, apply_ite UInt32.toNat]
  exact isNearest_ite h v.toNat

lemma isNearest_clamp64 (lo hi : UInt64) (h : lo ≤ hi) (v : UInt64) :
    IsNearest (Set.Icc lo.toNat hi.toNat) v.toNat (clamp64 lo hi v).toNat := by
  rw [clamp64, apply_ite UInt64.toNat, apply_ite UInt64.toNat]
  exact isNearest_ite h v.toNat

lemma normalizes_normalized (s : Settings) : s.Normalizes s.normalized where
  bounds := ⟨clamp32 4 100 s.rMin, clamp32 5 140 s.rMax, isNearest_clamp32 4 100 (by decide) _,
    isNearest_clamp32 5 140 (by decide) _, rfl⟩
  operators := isNearest_clamp64 2 80 (by decide) _
  queueSize := isNearest_clamp64 15 350 (by decide) _

lemma Normalizes.unique (h : s.Normalizes t) (h' : s.Normalizes t') : t = t' := by
  obtain ⟨⟨rMin, rMax, hmin, hmax, hbounds⟩, hoperators, hqueueSize⟩ := h
  obtain ⟨⟨rMin', rMax', hmin', hmax', hbounds'⟩, hoperators', hqueueSize'⟩ := h'
  obtain rfl := UInt32.toNat_inj.1 (hmin.unique hmin')
  obtain rfl := UInt32.toNat_inj.1 (hmax.unique hmax')
  obtain ⟨hrMin, hrMax⟩ := Prod.mk.inj (hbounds.trans hbounds'.symm)
  cases t
  cases t'
  congr
  · exact UInt64.toNat_inj.1 (hoperators.unique hoperators')
  · exact UInt64.toNat_inj.1 (hqueueSize.unique hqueueSize')

lemma Normalizes.inRange (h : s.Normalizes t) : t.InRange := by
  obtain ⟨⟨rMin, rMax, hmin, hmax, hbounds⟩, hoperators, hqueueSize⟩ := h
  have hrMin : 4 ≤ rMin ∧ rMin ≤ 100 := hmin.mem
  have hrMax : 5 ≤ rMax ∧ rMax ≤ 140 := hmax.mem
  have hfour : (4 : UInt32) ≤ 5 := by decide
  have hhundred : (100 : UInt32) ≤ 140 := by decide
  cases t
  by_cases hlt : rMax < rMin
  · rw [if_pos hlt] at hbounds
    obtain ⟨rfl, rfl⟩ := Prod.mk.inj hbounds
    have hle := UInt32.le_of_lt hlt
    exact ⟨⟨UInt32.le_trans hfour hrMax.1, UInt32.le_trans hle hrMin.2⟩,
      ⟨UInt32.le_trans hrMax.1 hle, UInt32.le_trans hrMin.2 hhundred⟩, hle,
      hoperators.mem, hqueueSize.mem⟩
  · rw [if_neg hlt] at hbounds
    obtain ⟨rfl, rfl⟩ := Prod.mk.inj hbounds
    exact ⟨hrMin, hrMax, UInt32.not_lt.1 hlt, hoperators.mem, hqueueSize.mem⟩

lemma InRange.normalizes (h : s.InRange) : s.Normalizes s where
  bounds := ⟨s.rMin, s.rMax, isNearest_self h.rMin, isNearest_self h.rMax,
    (if_neg (UInt32.not_lt.2 h.ordered)).symm⟩
  operators := isNearest_self h.operators
  queueSize := isNearest_self h.queueSize

lemma inRange_initial : initial.InRange := by
  constructor <;> decide

lemma inRange_normalized (s : Settings) : s.normalized.InRange := (normalizes_normalized s).inRange

lemma normalized_of_inRange (h : s.InRange) : s.normalized = s :=
  (normalizes_normalized s).unique h.normalizes

theorem normalized_is_projection (s : Settings) :
    s.normalized.InRange ∧ (s.normalized = s ↔ s.InRange) ∧
      s.normalized.normalized = s.normalized ∧ ∀ t, t = s.normalized ↔ s.Normalizes t := by
  have hrange := inRange_normalized s
  refine ⟨hrange, ⟨fun h => h ▸ hrange, normalized_of_inRange⟩, normalized_of_inRange hrange, ?_⟩
  intro t
  constructor
  · rintro rfl
    exact normalizes_normalized s
  · exact fun h => h.unique (normalizes_normalized s)

example : (⟨200, 20, 0, 1000⟩ : Settings).normalized = ⟨20, 100, 2, 350⟩ := by decide

end Settings

end Switchboard
