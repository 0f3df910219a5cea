import Mathlib.Data.List.TakeDrop
import Mathlib.Data.List.TakeWhile
import Switchboard.Proofs.Json.Grammar

/-! The leaves of a JSON document are scanned by the grammar: what a scanner takes off the front of
a text is a numeral or a text, and each of these is taken whole when it stands at the front. -/

namespace Switchboard.Json

variable {s r : List Char} {c : Char}

lemma bind_eq_ok {ε α β : Type} {x : Except ε α} {f : α → Except ε β} {b : β}
    (h : x >>= f = .ok b) : ∃ a, x = .ok a ∧ f a = .ok b := by
  cases x with
  | error e => cases h
  | ok a => exact ⟨a, rfl, h⟩

lemma map_eq_ok {ε α β : Type} {x : Except ε α} {f : α → β} {b : β} (h : x.map f = .ok b) :
    ∃ a, x = .ok a ∧ f a = b := by
  cases x with
  | error e => cases h
  | ok a => exact ⟨a, rfl, Except.ok.inj h⟩

lemma blanks_nil : Blanks [] := nofun

lemma skipBlank_append {b : List Char} (hb : Blanks b) (s : List Char) :
    skipBlank (b ++ s) = skipBlank s :=
  List.dropWhile_append_of_pos hb

lemma skipBlank_cons (hc : isBlank c = false) (s : List Char) : skipBlank (c :: s) = c :: s :=
  List.dropWhile_cons_of_neg (by simp [hc])

lemma exists_blanks (s : List Char) : ∃ b, Blanks b ∧ s = b ++ skipBlank s :=
  ⟨s.takeWhile isBlank, fun _ hc => List.mem_takeWhile_imp hc,
    List.takeWhile_append_dropWhile.symm⟩

lemma exists_blanks_of_skipBlank (h : skipBlank s = r) : ∃ b, Blanks b ∧ s = b ++ r := by
  obtain ⟨b, hb, hs⟩ := exists_blanks s
  exact ⟨b, hb, h ▸ hs⟩

lemma blanks_of_skipBlank (h : skipBlank s = []) : Blanks s := by
  obtain ⟨b, hb, hs⟩ := exists_blanks_of_skipBlank h
  rwa [hs, List.append_nil]

def Unlike (p : Char → Bool) (s : List Char) : Prop := ∀ c ∈ s.head?, p c = false

def continues (c : Char) : Bool := c.isDigit || c == '.' || c == 'e' || c == 'E'

abbrev Ends (s : List Char) : Prop := Unlike continues s

section Numerals

open Numeral

variable {n : Numeral} {ds : List Char} {e : DocumentFault}

lemma Unlike.digit (h : Ends r) : Unlike Char.isDigit r := by
  intro c hc
  have := h c hc
  simp only [continues, Bool.or_eq_false_iff] at this
  exact this.1.1.1

lemma run_append (hds : IsDigits ds) (hr : Unlike Char.isDigit r) (e : DocumentFault) :
    run e (ds ++ r) = .ok (ds, r) := by
  obtain ⟨hne, hdigits⟩ := hds
  have hrest : r.takeWhile Char.isDigit = [] ∧ r.dropWhile Char.isDigit = r := by
    cases r with
    | nil => exact ⟨rfl, rfl⟩
    | cons c r =>
      have hc : c.isDigit = false := hr c rfl
      exact ⟨List.takeWhile_cons_of_neg (by simp [hc]), List.dropWhile_cons_of_neg (by simp [hc])⟩
  have hspan : (ds ++ r).span Char.isDigit = (ds, r) := by
    rw [List.span_eq_takeWhile_dropWhile, List.takeWhile_append_of_pos hdigits,
      List.dropWhile_append_of_pos hdigits, hrest.1, hrest.2, List.append_nil]
  rw [run, hspan]
  cases ds with
  | nil => exact absurd rfl hne
  | cons d ds => rfl

lemma run_eq_ok (h : run e s = .ok (ds, r)) : IsDigits ds ∧ s = ds ++ r := by
  rw [run, List.span_eq_takeWhile_dropWhile] at h
  split at h
  · cases h
  · cases h
  · rename_i hnone hsome heq
    cases h
    obtain ⟨rfl, rfl⟩ := Prod.mk.inj heq
    refine ⟨⟨?_, fun _ hc => List.mem_takeWhile_imp hc⟩, List.takeWhile_append_dropWhile.symm⟩
    intro hnil
    cases hr : s.dropWhile Char.isDigit with
    | nil => exact hnone hnil hr
    | cons c r => exact hsome c r hnil hr

lemma isWhole_iff (hds : IsDigits ds) :
    IsWhole ds ↔ (ds.head? == some '0' && 1 < ds.length) = false := by
  have hpos := List.length_pos_iff.2 hds.1
  by_cases hhead : ds.head? = some '0'
  · simp only [IsWhole, hds, hhead, true_and, true_imp_iff, beq_self_eq_true, Bool.true_and,
      decide_eq_false_iff_not]
    omega
  · simp [IsWhole, hds, hhead]

lemma wholePart_append (hds : IsWhole ds) (hr : Unlike Char.isDigit r) (e : DocumentFault) :
    wholePart e (ds ++ r) = .ok (ds, r) := by
  simp only [wholePart, run_append hds.1 hr e, bind, Except.bind, (isWhole_iff hds.1).1 hds]
  rfl

lemma wholePart_eq_ok (h : wholePart e s = .ok (ds, r)) : IsWhole ds ∧ s = ds ++ r := by
  cases hrun : run e s with
  | error e' => simp [wholePart, hrun, bind, Except.bind] at h
  | ok p =>
    simp only [wholePart, hrun, bind, Except.bind] at h
    split at h
    · cases h
    · rename_i hzero
      cases h
      obtain ⟨hds, hs⟩ := run_eq_ok hrun
      exact ⟨(isWhole_iff hds).2 (Bool.eq_false_iff.2 hzero), hs⟩

lemma fractionPart_append {t : List Char} (ht : IsFraction ds t) (hr : Unlike (· == '.') r)
    (hdigit : Unlike Char.isDigit r) (e : DocumentFault) :
    fractionPart e (t ++ r) = .ok (ds, r) := by
  cases ht with
  | none =>
    rw [List.nil_append, fractionPart]
    intro r' h
    have := hr '.' (by rw [h]; rfl)
    cases this
  | some hds => exact run_append hds hdigit e

lemma fractionPart_eq_ok (h : fractionPart e s = .ok (ds, r)) :
    ∃ t, IsFraction ds t ∧ s = t ++ r := by
  rw [fractionPart.eq_def] at h
  split at h
  · obtain ⟨hds, rfl⟩ := run_eq_ok h
    exact ⟨'.' :: ds, .some hds, rfl⟩
  · cases h
    exact ⟨[], .none, rfl⟩

lemma isDigit_head (hds : IsDigits ds) (r : List Char) :
    ∃ d s, d.isDigit = true ∧ ds ++ r = d :: s := by
  obtain ⟨hne, hdigits⟩ := hds
  cases ds with
  | nil => exact absurd rfl hne
  | cons d ds => exact ⟨d, ds ++ r, hdigits d (List.mem_cons_self ..), rfl⟩

lemma exponentPart_append {x : Option (Bool × List Char)} {t : List Char} (ht : IsExponent x t)
    (hr : Ends r) (e : DocumentFault) : exponentPart e (t ++ r) = .ok (x, r) := by
  cases ht with
  | none =>
    cases r with
    | nil => rfl
    | cons c r =>
      have hc : (c == 'e' || c == 'E') = false := by
        have := hr c rfl
        simp only [continues, Bool.or_eq_false_iff] at this ⊢
        exact ⟨this.1.2, this.2⟩
      simp only [List.nil_append, exponentPart, hc]
      rfl
  | @some c hc negative sign ds hsign hds =>
    have hc : (c == 'e' || c == 'E') = true := by simpa using hc
    have hrun := run_append hds hr.digit e
    cases hsign with
    | plus => simp [exponentPart, hc, hrun, bind, Except.bind]
    | minus => simp [exponentPart, hc, hrun, bind, Except.bind]
    | none =>
      obtain ⟨d, s, hd, hs⟩ := isDigit_head hds r
      have hsign : d ≠ '-' ∧ d ≠ '+' := by
        constructor
        · rintro rfl
          cases hd
        · rintro rfl
          cases hd
      rw [hs] at hrun
      simp [exponentPart, hc, hs, hrun, bind, Except.bind, hsign]

lemma exponentPart_eq_ok {x : Option (Bool × List Char)} (h : exponentPart e s = .ok (x, r)) :
    ∃ t, IsExponent x t ∧ s = t ++ r := by
  cases s with
  | nil =>
    cases h
    exact ⟨[], .none, rfl⟩
  | cons c s =>
    rw [exponentPart.eq_def] at h
    dsimp only at h
    split at h
    · rename_i hc
      have hc : c = 'e' ∨ c = 'E' := by simpa using hc
      have written {negative : Bool} {sign s' : List Char} (hsign : IsSign negative sign)
          (h : (run e s' >>= fun p => .ok (some (negative, p.1), p.2)) = .ok (x, r)) :
          ∃ t, IsExponent x t ∧ c :: (sign ++ s') = t ++ r := by
        cases hrun : run e s' with
        | error e' => simp [hrun, bind, Except.bind] at h
        | ok p =>
          rw [hrun] at h
          cases h
          obtain ⟨hds, rfl⟩ := run_eq_ok hrun
          exact ⟨_, .some hc hsign hds, by simp⟩
      split at h
      · exact written .minus h
      · exact written .plus h
      · exact written .none h
    · cases h
      exact ⟨[], .none, rfl⟩

def scanUnsigned (negative : Bool) (e : DocumentFault) (s : List Char) :
    Except DocumentFault (Numeral × List Char) := do
  let (whole, s) ← wholePart e s
  let (fraction, s) ← fractionPart e s
  let (exponent, s) ← exponentPart e s
  .ok (⟨negative, whole, fraction, exponent⟩, s)

lemma scan_minus (e : DocumentFault) (s : List Char) : scan e ('-' :: s) = scanUnsigned true e s :=
  rfl

lemma scan_of_no_minus (hs : ∀ s', s ≠ '-' :: s') (e : DocumentFault) :
    scan e s = scanUnsigned false e s := by
  rw [scan.eq_def]
  split
  rename_i heq
  split at heq
  · exact absurd rfl (hs _)
  · cases heq
    rfl

lemma IsExponent.unlike {x : Option (Bool × List Char)} {t : List Char} (ht : IsExponent x t)
    (hr : Ends r) : Unlike Char.isDigit (t ++ r) ∧ Unlike (· == '.') (t ++ r) := by
  cases ht with
  | none =>
    refine ⟨hr.digit, ?_⟩
    intro c hc
    have := hr c hc
    simp only [continues, Bool.or_eq_false_iff] at this
    exact this.1.1.2
  | some hc =>
    rcases hc with rfl | rfl
    · exact ⟨fun _ h => by cases h; rfl, fun _ h => by cases h; rfl⟩
    · exact ⟨fun _ h => by cases h; rfl, fun _ h => by cases h; rfl⟩

lemma IsFraction.unlike {t : List Char} (ht : IsFraction ds t) (hr : Unlike Char.isDigit r) :
    Unlike Char.isDigit (t ++ r) := by
  cases ht with
  | none => exact hr
  | some =>
    intro c hc
    cases hc
    rfl

lemma scanUnsigned_append {negative : Bool} {whole t t' : List Char}
    {x : Option (Bool × List Char)} (hwhole : IsWhole whole) (ht : IsFraction ds t)
    (ht' : IsExponent x t') (hr : Ends r) (e : DocumentFault) :
    scanUnsigned negative e (whole ++ (t ++ (t' ++ r))) = .ok (⟨negative, whole, ds, x⟩, r) := by
  obtain ⟨hdigit, hpoint⟩ := ht'.unlike hr
  simp only [scanUnsigned, bind, Except.bind, wholePart_append hwhole (ht.unlike hdigit) e,
    fractionPart_append ht hpoint hdigit e, exponentPart_append ht' hr e]

lemma scanUnsigned_eq_ok {negative : Bool} (h : scanUnsigned negative e s = .ok (n, r)) :
    ∃ whole ds x t t', n = ⟨negative, whole, ds, x⟩ ∧ IsWhole whole ∧ IsFraction ds t ∧
      IsExponent x t' ∧ s = whole ++ (t ++ (t' ++ r)) := by
  obtain ⟨⟨whole, s₁⟩, h₁, h⟩ := bind_eq_ok h
  obtain ⟨⟨ds, s₂⟩, h₂, h⟩ := bind_eq_ok h
  obtain ⟨⟨x, s₃⟩, h₃, h⟩ := bind_eq_ok h
  cases h
  obtain ⟨hwhole, rfl⟩ := wholePart_eq_ok h₁
  obtain ⟨t, ht, rfl⟩ := fractionPart_eq_ok h₂
  obtain ⟨t', ht', rfl⟩ := exponentPart_eq_ok h₃
  exact ⟨whole, ds, x, t, t', rfl, hwhole, ht, ht', rfl⟩

lemma scan_append (hn : n.Written s) (hr : Ends r) (e : DocumentFault) :
    scan e (s ++ r) = .ok (n, r) := by
  cases hn with
  | negative hwhole ht ht' =>
    rw [List.cons_append, scan_minus, List.append_assoc, List.append_assoc]
    exact scanUnsigned_append hwhole ht ht' hr e
  | positive hwhole ht ht' =>
    rw [List.append_assoc, List.append_assoc, scan_of_no_minus]
    · exact scanUnsigned_append hwhole ht ht' hr e
    · intro s' hs'
      obtain ⟨d, s, hd, hs⟩ := isDigit_head hwhole.1 (_ ++ (_ ++ r))
      cases hs.symm.trans hs'
      cases hd

lemma scan_eq_ok (h : scan e s = .ok (n, r)) : ∃ t, n.Written t ∧ s = t ++ r := by
  by_cases hs : ∃ s', s = '-' :: s'
  · obtain ⟨s', rfl⟩ := hs
    rw [scan_minus] at h
    obtain ⟨whole, ds, x, t, t', rfl, hwhole, ht, ht', rfl⟩ := scanUnsigned_eq_ok h
    exact ⟨_, .negative hwhole ht ht', by simp⟩
  · rw [scan_of_no_minus (not_exists.1 hs)] at h
    obtain ⟨whole, ds, x, t, t', rfl, hwhole, ht, ht', rfl⟩ := scanUnsigned_eq_ok h
    exact ⟨_, .positive hwhole ht ht', by simp⟩

end Numerals

section Texts

variable {t ds : List Char} {n : Nat}

lemma hexFour_append (hds : HexCode ds n) (r : List Char) : hexFour (ds ++ r) = .ok (n, r) := by
  obtain ⟨ha, hb, hc, hd⟩ := hds
  simp [hexFour, ha, hb, hc, hd]

lemma hexFour_eq_ok (h : hexFour s = .ok (n, r)) : ∃ ds, HexCode ds n ∧ s = ds ++ r := by
  rw [hexFour.eq_def] at h
  split at h
  · split at h
    · cases h
      exact ⟨_, .mk ‹_› ‹_› ‹_› ‹_›, rfl⟩
    · cases h
  · split at h <;> cases h

lemma escape_plain {x : Char} (hc : plainEscape? c = some x) (r : List Char) :
    escape (c :: r) = .ok (x, r) := by
  rw [escape.eq_def]
  split
  · rename_i heq
    cases heq
  · rename_i heq
    cases heq
    cases hc
  · rename_i heq
    cases heq
    rw [hc]

lemma isTrailing_of_isLeading (h : isLeading n = true) : isTrailing n = false := by
  simp only [isLeading, isTrailing, Bool.and_eq_true, decide_eq_true_eq, Bool.and_eq_false_iff,
    decide_eq_false_iff_not] at h ⊢
  omega

lemma escape_code (hds : HexCode ds n) (hleading : isLeading n = false)
    (htrailing : isTrailing n = false) (r : List Char) :
    escape ('u' :: (ds ++ r)) = .ok (Char.ofNat n, r) := by
  simp [escape, hexFour_append hds, bind, Except.bind, hleading, htrailing]

lemma escape_pair {ds' : List Char} {m : Nat} (hds : HexCode ds n) (hleading : isLeading n = true)
    (hds' : HexCode ds' m) (htrailing : isTrailing m = true) (r : List Char) :
    escape ('u' :: (ds ++ '\\' :: 'u' :: (ds' ++ r))) = .ok (ofHalves n m, r) := by
  simp [escape, trailingHalf, hexFour_append hds, hexFour_append hds', bind, Except.bind, hleading,
    isTrailing_of_isLeading hleading, htrailing, ofHalves]

lemma text_escape {x : Char} {r' : List Char} (h : escape r = .ok (x, r')) :
    text ('\\' :: r) = (text r').map fun (cs, t) => (x :: cs, t) := by
  rw [text]
  split
  · rename_i heq
    cases h.symm.trans heq
  · rename_i heq
    cases h.symm.trans heq
    cases text r' <;> rfl

lemma text_plain (hc : IsPlain c) (r : List Char) :
    text (c :: r) = (text r).map fun (cs, t) => (c :: cs, t) := by
  obtain ⟨hquote, hslash, hcontrol⟩ := hc
  rw [text]
  · rw [hcontrol]
    cases text r <;> rfl
  · exact hquote
  · exact hslash

lemma text_append (h : Spells s t) (r : List Char) : text (s ++ '"' :: r) = .ok (t, r) := by
  induction h with
  | nil => rw [List.nil_append, text]
  | plain hc hs ih =>
    rw [List.cons_append, text_plain hc, ih]
    rfl
  | escape hc hs ih =>
    rw [List.cons_append, List.cons_append, text_escape (escape_plain hc _), ih]
    rfl
  | code hds hleading htrailing hs ih =>
    have hescape := escape_code hds hleading htrailing
    simp only [List.cons_append, List.append_assoc]
    rw [text_escape (hescape _), ih]
    rfl
  | pair hds hleading hds' htrailing hs ih =>
    have hescape := escape_pair hds hleading hds' htrailing
    simp only [List.cons_append, List.append_assoc]
    rw [text_escape (hescape _), ih]
    rfl

lemma trailingHalf_eq_ok {k : Nat} (h : trailingHalf k s = .ok (c, r)) :
    ∃ ds m, HexCode ds m ∧ isTrailing m = true ∧ s = '\\' :: 'u' :: (ds ++ r) ∧
      c = ofHalves k m := by
  rw [trailingHalf.eq_def] at h
  split at h
  · cases h
  · cases h
  · obtain ⟨⟨m, s'⟩, hhex, hm⟩ := bind_eq_ok h
    obtain ⟨ds, hds, rfl⟩ := hexFour_eq_ok hhex
    dsimp only at hm
    split at hm
    · rename_i htrailing
      obtain ⟨rfl, rfl⟩ := Prod.mk.inj (Except.ok.inj hm)
      exact ⟨ds, m, hds, htrailing, rfl, rfl⟩
    · cases hm
  · cases h

lemma escape_eq_ok (h : escape s = .ok (c, r)) :
    ∃ e, s = e ++ r ∧ ∀ k t, Spells k t → Spells ('\\' :: (e ++ k)) (c :: t) := by
  rw [escape.eq_def] at h
  split at h
  · cases h
  · obtain ⟨⟨n, s'⟩, hhex, hn⟩ := bind_eq_ok h
    obtain ⟨ds, hds, rfl⟩ := hexFour_eq_ok hhex
    dsimp only at hn
    split at hn
    · cases hn
    · rename_i htrailing
      split at hn
      · rename_i hleading
        obtain ⟨ds', m, hds', htrailing', rfl, hc⟩ := trailingHalf_eq_ok hn
        rw [hc]
        refine ⟨'u' :: (ds ++ '\\' :: 'u' :: ds'), ?_, fun k t hk => ?_⟩
        · simp only [List.cons_append, List.append_assoc]
        · have hpair := Spells.pair hds hleading hds' htrailing' hk
          simpa only [List.cons_append, List.append_assoc] using hpair
      · rename_i hleading
        cases hn
        exact ⟨'u' :: ds, rfl, fun k t hk =>
          .code hds (Bool.eq_false_iff.2 hleading) (Bool.eq_false_iff.2 htrailing) hk⟩
  · split at h
    · cases h
      exact ⟨[_], rfl, fun k t hk => .escape ‹_› hk⟩
    · cases h

lemma text_eq_ok (h : text s = .ok (t, r)) : ∃ k, Spells k t ∧ s = k ++ '"' :: r := by
  fun_induction text s generalizing t with
  | case1 | case3 | case4 | case6 | case7 => cases h
  | case2 =>
    cases h
    exact ⟨[], .nil, rfl⟩
  | case5 s c s' hescape t' r' htext ih =>
    cases h
    obtain ⟨e, rfl, he⟩ := escape_eq_ok hescape
    obtain ⟨k, hk, rfl⟩ := ih htext
    exact ⟨_, he k t' hk, by simp⟩
  | case8 c s hquote hslash hcontrol t' r' htext ih =>
    cases h
    obtain ⟨k, hk, rfl⟩ := ih htext
    exact ⟨c :: k, .plain ⟨hquote, hslash, Bool.eq_false_iff.2 hcontrol⟩ hk, rfl⟩

lemma skipEscape_plain (hc : (plainEscape? c).isSome) (r : List Char) :
    skipEscape (c :: r) = .ok r := by
  rw [skipEscape.eq_def]
  split
  · rename_i heq
    cases heq
  · rename_i heq
    cases heq
    cases hc
  · rename_i heq
    cases heq
    rw [if_pos hc]

lemma skipEscape_code (hds : HexCode ds n) (r : List Char) :
    skipEscape ('u' :: (ds ++ r)) = .ok r := by
  simp [skipEscape, hexFour_append hds, Except.map]

lemma skipText_escape {r' : List Char} (h : skipEscape r = .ok r') :
    skipText ('\\' :: r) = skipText r' := by
  rw [skipText]
  split
  · rename_i heq
    cases h.symm.trans heq
  · rename_i heq
    cases h.symm.trans heq
    rfl

lemma skipText_plain (hc : IsPlain c) (r : List Char) : skipText (c :: r) = skipText r := by
  obtain ⟨hquote, hslash, hcontrol⟩ := hc
  rw [skipText]
  · rw [hcontrol]
    rfl
  · exact hquote
  · exact hslash

lemma skipText_append (h : IsText s) (r : List Char) : skipText (s ++ '"' :: r) = .ok r := by
  induction h with
  | nil => rw [List.nil_append, skipText]
  | plain hc hs ih => rw [List.cons_append, skipText_plain hc, ih]
  | escape hc hs ih =>
    rw [List.cons_append, List.cons_append, skipText_escape (skipEscape_plain hc _), ih]
  | code hds hs ih =>
    have hescape := skipEscape_code hds
    simp only [List.cons_append, List.append_assoc]
    rw [skipText_escape (hescape _), ih]

lemma skipEscape_eq_ok (h : skipEscape s = .ok r) :
    ∃ e, s = e ++ r ∧ ∀ k, IsText k → IsText ('\\' :: (e ++ k)) := by
  rw [skipEscape.eq_def] at h
  split at h
  · cases h
  · obtain ⟨⟨n, s'⟩, hhex, rfl⟩ := map_eq_ok h
    obtain ⟨ds, hds, rfl⟩ := hexFour_eq_ok hhex
    exact ⟨'u' :: ds, rfl, fun k hk => .code hds hk⟩
  · split at h
    · cases h
      exact ⟨[_], rfl, fun k hk => .escape ‹_› hk⟩
    · cases h

lemma skipText_eq_ok (h : skipText s = .ok r) : ∃ k, IsText k ∧ s = k ++ '"' :: r := by
  fun_induction skipText s with
  | case1 | case3 | case5 => cases h
  | case2 =>
    cases h
    exact ⟨[], .nil, rfl⟩
  | case4 s s' hescape ih =>
    obtain ⟨e, rfl, he⟩ := skipEscape_eq_ok hescape
    obtain ⟨k, hk, rfl⟩ := ih h
    exact ⟨_, he k hk, by simp⟩
  | case6 c s hquote hslash hcontrol ih =>
    obtain ⟨k, hk, rfl⟩ := ih h
    exact ⟨c :: k, .plain ⟨hquote, hslash, Bool.eq_false_iff.2 hcontrol⟩ hk, rfl⟩

end Texts

end Switchboard.Json
