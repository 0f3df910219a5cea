import Mathlib.Data.List.Induction
import Switchboard.Proofs.Json.Scanning

namespace Switchboard

namespace Json

lemma isDigits_digits (n : Nat) : IsDigits (Decimal.digits n) :=
  ⟨Nat.toDigits_ne_nil, fun _ hc => Nat.isDigit_of_mem_toDigits (by decide) (by decide) hc⟩

lemma isWhole_digits (n : Nat) : IsWhole (Decimal.digits n) := by
  refine ⟨isDigits_digits n, ?_⟩
  induction n using Nat.strong_induction_on with
  | h n ih =>
    rw [Decimal.digits, Nat.toDigits_eq_if (by decide)]
    split
    · exact fun _ => rfl
    · rename_i hn
      have hpos : 0 < n / 10 := by omega
      -- A zero at the front would make the quotient a lone zero, but it is not zero.
      intro hhead
      rw [List.head?_append, Option.or_of_isSome (by simp [Nat.toDigits_ne_nil])] at hhead
      have hone : (Nat.toDigits 10 (n / 10)).length = 1 := ih (n / 10) (by omega) hhead
      obtain ⟨c, hc⟩ := List.length_eq_one_iff.1 hone
      have hzero : Nat.toDigits 10 (n / 10) = ['0'] := by
        rw [hc] at hhead ⊢
        cases hhead
        rfl
      have hvalue := Nat.ofDigitChars_ten_toDigits (n := n / 10)
      rw [hzero] at hvalue
      exact absurd hvalue (Nat.ne_of_lt hpos)

lemma digitChar_of_isDigit {c : Char} (hc : c.isDigit = true) :
    c.toNat - '0'.toNat < 10 ∧ (c.toNat - '0'.toNat).digitChar = c := by
  have hrange : 48 ≤ c.toNat ∧ c.toNat ≤ 57 := by
    simpa [Char.isDigit, UInt32.le_iff_toNat_le] using hc
  have hchar : ∀ d < 10, Nat.digitChar d = Char.ofNat (48 + d) := by decide
  have hzero : '0'.toNat = 48 := rfl
  refine ⟨by omega, ?_⟩
  rw [hchar _ (by omega), hzero, Nat.add_sub_cancel' hrange.1, Char.ofNat_toNat]

lemma ofDigitChars_concat (ds : List Char) (c : Char) :
    Nat.ofDigitChars 10 (ds ++ [c]) 0 =
      10 * Nat.ofDigitChars 10 ds 0 + (c.toNat - '0'.toNat) := by
  rw [Nat.ofDigitChars_append, Nat.ofDigitChars_cons, Nat.ofDigitChars_nil]

lemma digits_ofDigitChars {ds : List Char} (hds : IsWhole ds) :
    Decimal.digits (Nat.ofDigitChars 10 ds 0) = ds := by
  induction ds using List.reverseRecOn with
  | nil => exact absurd rfl hds.1.1
  | append_singleton ds c ih =>
    obtain ⟨⟨-, hdigits⟩, hhead⟩ := hds
    obtain ⟨hlt, hchar⟩ := digitChar_of_isDigit (hdigits c (by simp))
    rw [ofDigitChars_concat]
    cases ds with
    | nil =>
      rw [Nat.ofDigitChars_nil, Nat.mul_zero, Nat.zero_add, Decimal.digits,
        Nat.toDigits_of_lt_base hlt, hchar]
      rfl
    | cons d ds =>
      have hd : d ≠ '0' := by
        rintro rfl
        have := hhead rfl
        simp at this
      have hds : IsWhole (d :: ds) :=
        ⟨⟨nofun, fun c hc => hdigits c (List.mem_append_left _ hc)⟩,
          fun h => absurd (Option.some.inj h) hd⟩
      have hdigits := ih hds
      have hpos : 0 < Nat.ofDigitChars 10 (d :: ds) 0 := by
        apply Nat.pos_of_ne_zero
        intro hzero
        rw [hzero, Decimal.digits, Nat.toDigits_zero] at hdigits
        exact hd (List.cons.inj hdigits).1.symm
      calc Decimal.digits (10 * Nat.ofDigitChars 10 (d :: ds) 0 + (c.toNat - '0'.toNat))
        _ = Decimal.digits (Nat.ofDigitChars 10 (d :: ds) 0) ++
              Decimal.digits (c.toNat - '0'.toNat) :=
            (Nat.toDigits_append_toDigits (by decide) hpos hlt).symm
        _ = (d :: ds) ++ [c] := by
            rw [hdigits, Decimal.digits, Nat.toDigits_of_lt_base hlt, hchar]

namespace Numeral

lemma le_ofDigitChars (ds : List Char) (m : Nat) : m ≤ Nat.ofDigitChars 10 ds m := by
  rw [Nat.ofDigitChars_eq_ofDigitChars_zero]
  have := Nat.le_mul_of_pos_left m (Nat.pow_pos (n := ds.length) (show 0 < 10 by decide))
  omega

lemma absorb_of_lt (ds : List Char) (m : Nat) (h : Nat.ofDigitChars 10 ds m < UInt64.size) :
    absorb m ds = (Nat.ofDigitChars 10 ds m, 0) := by
  induction ds generalizing m with
  | nil => rfl
  | cons d ds ih =>
    rw [Nat.ofDigitChars_cons, Nat.mul_comm] at h ⊢
    have hnext := Nat.lt_of_le_of_lt (le_ofDigitChars ..) h
    simp only [absorb, hnext, if_true]
    exact ih _ h

lemma nearestDouble_le {n : Nat} (hn : n ≠ 0) : nearestDouble n ≤ 2 * n := by
  have hunit : 1 <<< (Nat.log2 n - 52) ≤ n := by
    rw [Nat.one_shiftLeft]
    exact (Nat.pow_le_pow_right (by decide) (Nat.sub_le ..)).trans (Nat.log2_self_le hn)
  have hq : n / (1 <<< (Nat.log2 n - 52)) * (1 <<< (Nat.log2 n - 52)) ≤ n := Nat.div_mul_le_self ..
  simp only [nearestDouble]
  split
  · rw [Nat.add_mul]
    omega
  · omega

lemma natural?_eq_some {n : Numeral} {v : Nat} (h : n.natural? = some v) :
    n.negative = false ∧ n.fraction = [] ∧ n.exponent = none ∧
      Nat.ofDigitChars 10 n.whole 0 = v ∧ v < UInt64.size := by
  simp only [natural?] at h
  split at h
  · cases h
  · rename_i hfits
    simp only [Bool.or_eq_true, not_or, Bool.not_eq_true, Bool.not_eq_false', List.isEmpty_iff,
      Option.isSome_eq_false_iff, Option.isNone_iff_eq_none, decide_eq_true_eq] at hfits
    cases h
    exact ⟨hfits.1.1.1, hfits.1.1.2, hfits.1.2, rfl, Nat.lt_of_not_le hfits.2⟩

def ofNat (v : Nat) : Numeral := ⟨false, Decimal.digits v, [], none⟩

lemma written_ofNat (v : Nat) : (ofNat v).Written (Decimal.digits v) := by
  have := Written.positive (isWhole_digits v) .none .none
  rwa [List.append_nil, List.append_nil] at this

lemma natural?_ofNat {v : Nat} (hv : v < UInt64.size) : (ofNat v).natural? = some v := by
  have hvalue : Nat.ofDigitChars 10 (Decimal.digits v) 0 = v := Nat.ofDigitChars_ten_toDigits
  simp [natural?, ofNat, hvalue, hv]

lemma isTooLarge_ofNat {v : Nat} (hv : v < UInt64.size) : (ofNat v).isTooLarge = false := by
  have hvalue : Nat.ofDigitChars 10 (Decimal.digits v) 0 = v := Nat.ofDigitChars_ten_toDigits
  have hscientific : (ofNat v).scientific = (v, 0) := by
    simp only [scientific, ofNat, absorb_of_lt _ _ (hvalue.symm ▸ hv), hvalue]
    rfl
  have hbound : 2 * UInt64.size ≤ doubleBound := by decide
  simp only [isTooLarge, hscientific]
  by_cases hzero : v = 0
  · simp [hzero]
  · have hnear := nearestDouble_le hzero
    have hone : nearestDouble (Nat.pow 10 (Int.toNat 0)) = 1 := by decide
    simp only [hone, Nat.mul_one]
    have hsmall : ¬ doubleBound ≤ nearestDouble v := by omega
    simp [hsmall]

lemma Written.eq_digits {n : Numeral} {s : List Char} {v : Nat} (hs : n.Written s)
    (h : n.natural? = some v) : s = Decimal.digits v := by
  obtain ⟨hnegative, hfraction, hexponent, hvalue, -⟩ := natural?_eq_some h
  cases hs with
  | negative => cases hnegative
  | positive hwhole ht ht' =>
    dsimp only at hfraction hexponent hvalue
    subst hfraction hexponent
    cases ht with
    | some hds => exact absurd rfl hds.1
    | none =>
      cases ht'
      rw [← hvalue, digits_ofDigitChars hwhole, List.append_nil, List.append_nil]

end Numeral

variable {limit v : Nat} {b s r : List Char}

lemma startsNumeral_of_isDigit {c : Char} (hc : c.isDigit = true) :
    startsNumeral c = true ∧ isBlank c = false := by
  refine ⟨by simp [startsNumeral, hc], ?_⟩
  by_contra hblank
  simp only [isBlank, Bool.not_eq_false, Bool.or_eq_true, beq_iff_eq] at hblank
  rcases hblank with ((rfl | rfl) | rfl) | rfl <;> cases hc

lemma natural_append (hlimit : limit ≤ UInt64.size) (hv : v < limit) (hb : Blanks b)
    (hr : Ends r) : natural limit (b ++ (Decimal.digits v ++ r)) = .ok (v, r) := by
  obtain ⟨c, s, hc, hs⟩ := isDigit_head (isDigits_digits v) r
  obtain ⟨hstarts, hblank⟩ := startsNumeral_of_isDigit hc
  have hscan := scan_append (Numeral.written_ofNat v) hr .cutShort
  have hsize := Nat.lt_of_lt_of_le hv hlimit
  rw [hs] at hscan ⊢
  rw [natural, skipBlank_append hb, skipBlank_cons hblank]
  simp only [hstarts, if_true, hscan, bind, Except.bind, Numeral.isTooLarge_ofNat hsize,
    Numeral.natural?_ofNat hsize, hv]
  rfl

lemma natural_eq_ok (h : natural limit s = .ok (v, r)) :
    v < limit ∧ ∃ b, Blanks b ∧ s = b ++ (Decimal.digits v ++ r) := by
  rw [natural] at h
  split at h
  · cases h
  · rename_i c s' hskip
    obtain ⟨b, hb, rfl⟩ := exists_blanks_of_skipBlank hskip
    split at h
    · obtain ⟨⟨n, r'⟩, hscan, h⟩ := bind_eq_ok h
      obtain ⟨t, ht, hs⟩ := scan_eq_ok hscan
      dsimp only at h
      split at h
      · cases h
      · split at h
        · rename_i hnatural
          split at h
          · rename_i hlt
            cases h
            exact ⟨hlt, b, hb, by rw [hs, ht.eq_digits hnatural]⟩
          · cases h
        · cases h
    · cases h

end Json

end Switchboard
