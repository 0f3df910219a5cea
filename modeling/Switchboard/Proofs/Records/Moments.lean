import Mathlib.Tactic.Lemma
import Switchboard.Timestamp

/-! Numerals and moments are read back from what is written of them. A numeral ends before the first
character that is no digit, so whatever follows a moment does not matter. -/

namespace Switchboard

namespace Decimal

lemma isDigit_of_mem_padded {width n : Nat} {c : Char} (h : c ∈ padded width n) :
    c.isDigit = true := by
  obtain hzero | hdigit := List.mem_append.1 h
  · rw [(List.mem_replicate.1 hzero).2]
    decide
  · exact Nat.isDigit_of_mem_toDigits (by decide) (by decide) hdigit

lemma padded_ne_nil (width n : Nat) : padded width n ≠ [] :=
  List.append_ne_nil_of_right_ne_nil _ Nat.toDigits_ne_nil

lemma value?_padded (width n : Nat) : value? (padded width n) = some n := by
  have hdigits : (padded width n).all Char.isDigit = true :=
    List.all_eq_true.2 fun c hc => isDigit_of_mem_padded hc
  have hvalue : Nat.ofDigitChars 10 (padded width n) 0 = n := by
    rw [padded, digits, Nat.ofDigitChars_append, Nat.ofDigitChars_replicate_zero, Nat.mul_zero,
      Nat.ofDigitChars_ten_toDigits]
  simp only [value?, hdigits, List.isEmpty_eq_false_iff.2 (padded_ne_nil width n), hvalue]
  rfl

lemma padded_zero (n : Nat) : padded 0 n = digits n := by
  rw [padded, Nat.zero_sub]
  rfl

lemma value?_digits (n : Nat) : value? (digits n) = some n :=
  padded_zero n ▸ value?_padded 0 n

lemma until?_padded {c : Char} (hc : c.isDigit = false) (width n : Nat) (rest : List Char) :
    until? c (padded width n ++ c :: rest) = some (n, rest) := by
  have hdigits : ∀ c ∈ padded width n, c.isDigit = true := fun _ h => isDigit_of_mem_padded h
  have htake : (padded width n ++ c :: rest).takeWhile Char.isDigit = padded width n := by
    rw [List.takeWhile_append_of_pos hdigits, List.takeWhile_cons_of_neg (by simp [hc]),
      List.append_nil]
  have hdrop : (padded width n ++ c :: rest).dropWhile Char.isDigit = c :: rest := by
    rw [List.dropWhile_append_of_pos hdigits, List.dropWhile_cons_of_neg (by simp [hc])]
  simp only [until?, hdrop, htake, value?_padded]
  rfl

end Decimal

namespace Timestamp

def printed (t : Timestamp) : Timestamp :=
  { t with nanos := ⟨t.nanos / 1000000 * 1000000, by omega⟩ }

lemma year?_padded (width n : Nat) (rest : List Char) :
    year? (Decimal.padded width n ++ '-' :: rest) = some ((n : Int), rest) := by
  have huntil := Decimal.until?_padded (c := '-') (by decide) width n rest
  have hdigits : ∀ c ∈ Decimal.padded width n, c.isDigit = true :=
    fun _ h => Decimal.isDigit_of_mem_padded h
  cases hp : Decimal.padded width n with
  | nil => exact absurd hp (Decimal.padded_ne_nil width n)
  | cons c cs =>
    rw [hp] at huntil hdigits
    have hc : c.isDigit = true := hdigits c (List.mem_cons_self ..)
    rw [List.cons_append] at huntil ⊢
    rw [year?, huntil]
    · rfl
    · intro _ heq
      cases heq
      cases hc
    · intro _ heq
      cases heq
      cases hc

lemma year?_yearText (y : Int) (rest : List Char) :
    year? (yearText y ++ '-' :: rest) = some (y, rest) := by
  rw [yearText]
  split
  · rw [year?_padded, Int.toNat_of_nonneg (by omega)]
  · have huntil := Decimal.until?_padded (c := '-') (by decide) 4 y.natAbs rest
    split
    · simp only [List.cons_append, year?, huntil, Option.map_some]
      rw [show -(y.natAbs : Int) = y by omega]
    · simp only [List.cons_append, year?, huntil, Option.map_some]
      rw [show (y.natAbs : Int) = y by omega]

theorem read?_text (t : Timestamp) : read? t.text = some t.printed := by
  have hdash := Decimal.until?_padded (c := '-') (by decide)
  have hspace := Decimal.until?_padded (c := ' ') (by decide)
  have hcolon := Decimal.until?_padded (c := ':') (by decide)
  have hdot := Decimal.until?_padded (c := '.') (by decide)
  obtain ⟨year, month, day, hour, minute, second, nanos⟩ := t
  have hbounds : (0 < month.val + 1 ∧ month.val + 1 - 1 < 12) ∧
      (0 < day.val + 1 ∧ day.val + 1 - 1 < 31) ∧ hour.val < 24 ∧ minute.val < 60 ∧
      second.val < 61 ∧ nanos.val / 1000000 < 1000 := by omega
  simp only [read?, text, List.append_assoc, List.cons_append, year?_yearText, hdash, hspace,
    hcolon, hdot, Decimal.value?_padded, Option.bind_eq_bind, Option.bind_some, dif_pos hbounds]
  rfl

end Timestamp

end Switchboard
