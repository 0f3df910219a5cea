import Switchboard.Proofs.Json.Naturals

/-! Reading past a value. Just the values of the grammar are passed over, each up to its end. -/

namespace Switchboard.Json

variable {s r b v : List Char} {c : Char} {fuel : Nat}

lemma ends_blanks (hb : Blanks b) (hc : continues c = false) (s : List Char) :
    Ends (b ++ c :: s) := by
  intro d hd
  cases b with
  | nil =>
    cases hd
    exact hc
  | cons d' b =>
    cases hd
    have hblank := hb d (List.mem_cons_self ..)
    simp only [isBlank, Bool.or_eq_true, beq_iff_eq] at hblank
    rcases hblank with ((rfl | rfl) | rfl) | rfl <;> rfl

lemma word_append (w r : List Char) : word w (w ++ r) = .ok r := by
  induction w with
  | nil => rfl
  | cons c w ih => simpa [word] using ih

lemma word_eq_ok {w : List Char} (h : word w s = .ok r) : s = w ++ r := by
  induction w generalizing s with
  | nil =>
    cases h
    rfl
  | cons c w ih =>
    cases s with
    | nil => cases h
    | cons d s =>
      rw [word] at h
      split at h
      · rename_i hcd
        rw [← eq_of_beq hcd, List.cons_append, ← ih h]
      · cases h

def opens (c : Char) : Bool :=
  startsNumeral c || ['n', 't', 'f', '"', '[', '{'].contains c

lemma Numeral.Written.head {n : Numeral} (h : n.Written s) :
    ∃ c s', s = c :: s' ∧ startsNumeral c = true := by
  cases h with
  | negative => exact ⟨'-', _, rfl, rfl⟩
  | positive hwhole =>
    obtain ⟨c, s', hc, hs⟩ := isDigit_head hwhole.1 _
    exact ⟨c, s', hs, (startsNumeral_of_isDigit hc).1⟩

lemma Enclosed.head {α : Type} {opening closing : Char} {item : α → List Char → Prop} {as : List α}
    (h : Enclosed opening closing item as s) : ∃ s', s = opening :: s' := by
  cases h with
  | none => exact ⟨_, rfl⟩
  | some => exact ⟨_, rfl⟩

lemma IsValue.head (h : IsValue v) : ∃ c s, v = c :: s ∧ opens c = true := by
  cases h with
  | word hw =>
    simp only [List.map_cons, List.map_nil, List.mem_cons, List.not_mem_nil, or_false] at hw
    rcases hw with rfl | rfl | rfl
    · exact ⟨'n', _, rfl, rfl⟩
    · exact ⟨'t', _, rfl, rfl⟩
    · exact ⟨'f', _, rfl, rfl⟩
  | numeral hs =>
    obtain ⟨c, s', hs, hc⟩ := hs.head
    exact ⟨c, s', hs, by simp [opens, hc]⟩
  | text => exact ⟨'"', _, rfl, rfl⟩
  | list _ hs =>
    obtain ⟨s', hs⟩ := hs.head
    exact ⟨_, s', hs, rfl⟩
  | object _ hs =>
    obtain ⟨s', hs⟩ := hs.head
    exact ⟨_, s', hs, rfl⟩

lemma not_isBlank_of_opens (hc : opens c = true) : isBlank c = false := by
  by_contra hblank
  simp only [isBlank, Bool.not_eq_false, Bool.or_eq_true, beq_iff_eq] at hblank
  rcases hblank with ((rfl | rfl) | rfl) | rfl <;> cases hc

lemma skipBlank_skipBlank (s : List Char) : skipBlank (skipBlank s) = skipBlank s := by
  obtain ⟨b, hb, hs⟩ := exists_blanks s
  have hskip := skipBlank_append hb (skipBlank s)
  rw [← hs] at hskip
  exact hskip.symm

lemma skipValue_skipBlank (fuel : Nat) (s : List Char) :
    skipValue fuel (skipBlank s) = skipValue fuel s := by
  cases fuel with
  | zero => rfl
  | succ fuel => rw [skipValue, skipValue, skipBlank_skipBlank]

lemma skipElements_skipBlank (fuel : Nat) (s : List Char) :
    skipElements fuel (skipBlank s) = skipElements fuel s := by
  cases fuel with
  | zero => rfl
  | succ fuel => rw [skipElements, skipElements, skipValue_skipBlank]

lemma skipMembers_skipBlank (fuel : Nat) (s : List Char) :
    skipMembers fuel (skipBlank s) = skipMembers fuel s := by
  cases fuel with
  | zero => rfl
  | succ fuel => rw [skipMembers, skipMembers, skipBlank_skipBlank]

lemma skipValue_numeral (hc : startsNumeral c = true) (fuel : Nat) (s : List Char) :
    skipValue (fuel + 1) (c :: s) = (Numeral.scan .malformed (c :: s)).map (·.2) := by
  have hblank : isBlank c = false := not_isBlank_of_opens (by simp [opens, hc])
  rw [skipValue, skipBlank_cons hblank]
  split
  case h_8 heq =>
    cases heq
    rw [if_pos hc]
  all_goals rename_i heq
  all_goals cases heq
  all_goals cases hc

lemma skipValue_list (fuel : Nat) (s : List Char) :
    skipValue (fuel + 1) ('[' :: s) =
      match skipBlank s with
      | [] => .error .cutShort
      | ']' :: r => .ok r
      | r => skipElements fuel r := by
  rw [skipValue, skipBlank_cons rfl]
  rfl

lemma skipValue_elements (h : skipBlank s = c :: r) (hc : c ≠ ']') (fuel : Nat) :
    skipValue (fuel + 1) ('[' :: s) = skipElements fuel s := by
  rw [skipValue_list, ← skipElements_skipBlank fuel s, h]
  split
  · cases ‹_ = []›
  · exact absurd (List.cons.inj ‹_›).1 hc
  · rfl

lemma skipValue_object (fuel : Nat) (s : List Char) :
    skipValue (fuel + 1) ('{' :: s) =
      match skipBlank s with
      | [] => .error .cutShort
      | '}' :: r => .ok r
      | r => skipMembers fuel r := by
  rw [skipValue, skipBlank_cons rfl]
  rfl

lemma skipValue_members (h : skipBlank s = c :: r) (hc : c ≠ '}') (fuel : Nat) :
    skipValue (fuel + 1) ('{' :: s) = skipMembers fuel s := by
  rw [skipValue_object, ← skipMembers_skipBlank fuel s, h]
  split
  · cases ‹_ = []›
  · exact absurd (List.cons.inj ‹_›).1 hc
  · rfl

def PassesOver (v : List Char) : Prop :=
  ∀ fuel b r, 2 * v.length ≤ fuel → Blanks b → Ends r → skipValue fuel (b ++ (v ++ r)) = .ok r

lemma skipElements_item {t : List Char} (ht : Padded v t) (hv : PassesOver v)
    (hfuel : 2 * t.length ≤ fuel) (hc : continues c = false) (hblank : isBlank c = false)
    (r : List Char) :
    skipElements (fuel + 1) (t ++ c :: r) =
      match c :: r with
      | [] => .error .cutShort
      | ',' :: r => skipElements fuel r
      | ']' :: r => .ok r
      | _ => .error .malformed := by
  obtain ⟨hb, hb'⟩ := ht
  simp only [List.length_append] at hfuel
  have hskip := hv fuel _ _ (by omega) hb (ends_blanks hb' hc r)
  simp only [List.append_assoc, skipElements, hskip, skipBlank_append hb']
  exact (skipBlank_cons hblank r).symm ▸ rfl

lemma skipElements_append {vs : List (List Char)} {t : List Char} (ht : Joined Padded vs t)
    (hvs : ∀ v ∈ vs, PassesOver v) (fuel : Nat) (hfuel : 2 * t.length + 1 ≤ fuel) (r : List Char) :
    skipElements fuel (t ++ ']' :: r) = .ok r := by
  induction ht generalizing fuel with
  | one hv =>
    obtain ⟨fuel, rfl⟩ : ∃ k, fuel = k + 1 := ⟨fuel - 1, by omega⟩
    exact skipElements_item hv (hvs _ (by simp)) (by omega) rfl rfl r
  | more hv ht ih =>
    obtain ⟨fuel, rfl⟩ : ∃ k, fuel = k + 1 := ⟨fuel - 1, by omega⟩
    simp only [List.length_append, List.length_cons] at hfuel
    have hitem := skipElements_item (c := ',') hv (hvs _ (by simp)) (by omega : _ ≤ fuel) rfl rfl
    rw [List.append_assoc, List.cons_append, hitem]
    exact ih (fun w hw => hvs w (List.mem_cons_of_mem _ hw)) fuel (by omega)

lemma skipMembers_item {m : List Char × List Char} {t : List Char} (ht : IsMember Unread m t)
    (hm : PassesOver m.2) (hfuel : 2 * t.length ≤ fuel) (hc : continues c = false)
    (hblank : isBlank c = false) (r : List Char) :
    skipMembers (fuel + 1) (t ++ c :: r) =
      match c :: r with
      | [] => .error .cutShort
      | ',' :: r => skipMembers fuel r
      | '}' :: r => .ok r
      | _ => .error .malformed := by
  obtain ⟨⟨hk, -⟩, hb₁, hb₂, hb₃, hb₄⟩ := ht
  simp only [List.length_append, List.length_cons] at hfuel
  have hskip := hm fuel _ _ (by omega) hb₃ (ends_blanks hb₄ hc r)
  have hquote (s : List Char) : skipBlank ('"' :: s) = '"' :: s := skipBlank_cons rfl s
  have hcolon (s : List Char) : skipBlank (':' :: s) = ':' :: s := skipBlank_cons rfl s
  simp only [List.append_assoc, List.cons_append, skipMembers, skipBlank_append hb₁, hquote,
    skipText_append hk, skipBlank_append hb₂, hcolon, hskip, skipBlank_append hb₄]
  exact (skipBlank_cons hblank r).symm ▸ rfl

lemma skipMembers_append {ms : List (List Char × List Char)} {t : List Char}
    (ht : Joined (IsMember Unread) ms t) (hms : ∀ m ∈ ms, PassesOver m.2) (fuel : Nat)
    (hfuel : 2 * t.length + 1 ≤ fuel) (r : List Char) :
    skipMembers fuel (t ++ '}' :: r) = .ok r := by
  induction ht generalizing fuel with
  | one hm =>
    obtain ⟨fuel, rfl⟩ : ∃ k, fuel = k + 1 := ⟨fuel - 1, by omega⟩
    exact skipMembers_item hm (hms _ (by simp)) (by omega) rfl rfl r
  | more hm ht ih =>
    obtain ⟨fuel, rfl⟩ : ∃ k, fuel = k + 1 := ⟨fuel - 1, by omega⟩
    simp only [List.length_append, List.length_cons] at hfuel
    have hitem := skipMembers_item (c := ',') hm (hms _ (by simp)) (by omega : _ ≤ fuel) rfl rfl
    rw [List.append_assoc, List.cons_append, hitem]
    exact ih (fun m hm => hms m (List.mem_cons_of_mem _ hm)) fuel (by omega)

lemma Padded.front {t : List Char} (ht : Padded v t) (hv : IsValue v) (r : List Char) :
    ∃ c s, skipBlank (t ++ r) = c :: s ∧ opens c = true := by
  obtain ⟨hb, -⟩ := ht
  obtain ⟨c, s, rfl, hc⟩ := hv.head
  rw [List.append_assoc, skipBlank_append hb]
  exact ⟨c, _, skipBlank_cons (not_isBlank_of_opens hc) _, hc⟩

lemma IsMember.front {κ : Type} {key : List Char → κ → Prop} {m : κ × List Char} {t : List Char}
    (ht : IsMember key m t) (r : List Char) : ∃ s, skipBlank (t ++ r) = '"' :: s := by
  obtain ⟨-, hb, -⟩ := ht
  rw [List.append_assoc, skipBlank_append hb]
  exact ⟨_, skipBlank_cons rfl _⟩

lemma Joined.front {α : Type} {item : α → List Char → Prop} {as : List α} {t : List Char}
    (ht : Joined item as t) : ∃ a ∈ as, ∃ u s, item a u ∧ t = u ++ s := by
  cases ht with
  | one hs => exact ⟨_, List.mem_cons_self .., _, [], hs, (List.append_nil _).symm⟩
  | more hs => exact ⟨_, List.mem_cons_self .., _, _, hs, rfl⟩

lemma passesOver_of (hv : IsValue v) (h : ∀ fuel r, 2 * v.length ≤ fuel + 1 → Ends r →
    skipValue (fuel + 1) (v ++ r) = .ok r) : PassesOver v := by
  intro fuel b r hfuel hb hr
  obtain ⟨c, s, hs, -⟩ := hv.head
  have hlength := congrArg List.length hs
  rw [List.length_cons] at hlength
  obtain ⟨fuel, rfl⟩ : ∃ k, fuel = k + 1 := ⟨fuel - 1, by omega⟩
  rw [← skipValue_skipBlank, skipBlank_append hb, skipValue_skipBlank]
  exact h fuel r hfuel hr

lemma IsValue.passesOver (h : IsValue v) : PassesOver v := by
  -- Over the value: a list or an object is passed over when each value inside it is.
  induction h with
  | word hw =>
    apply passesOver_of (.word hw)
    intro fuel r _ _
    simp only [List.map_cons, List.map_nil, List.mem_cons, List.not_mem_nil, or_false] at hw
    rcases hw with rfl | rfl | rfl
    · exact word_append "ull".toList r
    · exact word_append "rue".toList r
    · exact word_append "alse".toList r
  | numeral hs =>
    apply passesOver_of (.numeral hs)
    intro fuel r _ hr
    obtain ⟨c, s', rfl, hc⟩ := hs.head
    have hscan := scan_append hs hr .malformed
    rw [List.cons_append] at hscan ⊢
    rw [skipValue_numeral hc, hscan]
    rfl
  | text hs =>
    apply passesOver_of (.text hs)
    intro fuel r _ _
    have hskip := skipText_append hs r
    rw [List.cons_append, List.append_assoc]
    exact hskip
  | list hvs hs ih =>
    apply passesOver_of (.list hvs hs)
    intro fuel r hfuel _
    cases hs with
    | none hb =>
      rw [List.cons_append, List.append_assoc, skipValue_list, skipBlank_append hb]
      rfl
    | @some _ t ht =>
      rw [List.length_cons, List.length_append, List.length_singleton] at hfuel
      have hskip := skipElements_append ht ih fuel (by omega) r
      obtain ⟨v, hv, u, s, hu, rfl⟩ := ht.front
      obtain ⟨c, s', hfront, hc⟩ := hu.front (hvs v hv) (s ++ ']' :: r)
      have hne : c ≠ ']' := by
        rintro rfl
        cases hc
      rw [← List.append_assoc] at hfront
      rw [List.cons_append, List.append_assoc]
      -- The reader looks for a closing bracket first, and no element opens with one.
      exact (skipValue_elements hfront hne fuel).trans hskip
  | object hms hs ih =>
    apply passesOver_of (.object hms hs)
    intro fuel r hfuel _
    cases hs with
    | none hb =>
      rw [List.cons_append, List.append_assoc, skipValue_object, skipBlank_append hb]
      rfl
    | @some _ t ht =>
      rw [List.length_cons, List.length_append, List.length_singleton] at hfuel
      have hskip := skipMembers_append ht ih fuel (by omega) r
      obtain ⟨m, hm, u, s, hu, rfl⟩ := ht.front
      obtain ⟨s', hfront⟩ := hu.front (s ++ '}' :: r)
      rw [← List.append_assoc] at hfront
      rw [List.cons_append, List.append_assoc]
      exact (skipValue_members hfront (by decide) fuel).trans hskip

lemma IsValue.unique {v' r' : List Char} (hv : IsValue v) (hv' : IsValue v') (hr : Ends r)
    (hr' : Ends r') (h : v ++ r = v' ++ r') : v = v' ∧ r = r' := by
  let fuel := 2 * v.length + 2 * v'.length
  have hskip := hv.passesOver fuel [] r (by omega) blanks_nil hr
  have hskip' := hv'.passesOver fuel [] r' (by omega) blanks_nil hr'
  rw [List.nil_append] at hskip hskip'
  rw [h, hskip'] at hskip
  obtain rfl := Except.ok.inj hskip
  exact ⟨List.append_cancel_right h, rfl⟩

lemma skip_append (hv : IsValue v) (hb : Blanks b) (hr : Ends r) :
    skip (b ++ (v ++ r)) = .ok r :=
  hv.passesOver _ b r (by simp only [List.length_append]; omega) hb hr

structure PassedOver (fuel : Nat) : Prop where
  value : ∀ s r, skipValue fuel s = .ok r → ∃ b v, Blanks b ∧ IsValue v ∧ s = b ++ (v ++ r)
  elements : ∀ s r, skipElements fuel s = .ok r →
    ∃ vs t, Joined Padded vs t ∧ (∀ v ∈ vs, IsValue v) ∧ s = t ++ ']' :: r
  members : ∀ s r, skipMembers fuel s = .ok r →
    ∃ ms t, Joined (IsMember Unread) ms t ∧ (∀ m ∈ ms, IsValue m.2) ∧ s = t ++ '}' :: r

lemma PassedOver.elements_succ (h : PassedOver fuel) (hskip : skipElements (fuel + 1) s = .ok r) :
    ∃ vs t, Joined Padded vs t ∧ (∀ v ∈ vs, IsValue v) ∧ s = t ++ ']' :: r := by
  rw [skipElements] at hskip
  split at hskip
  · cases hskip
  · rename_i s' hvalue
    obtain ⟨b, v, hb, hv, rfl⟩ := h.value _ _ hvalue
    split at hskip
    · cases hskip
    · rename_i s'' hcomma
      obtain ⟨b', hb', rfl⟩ := exists_blanks_of_skipBlank hcomma
      obtain ⟨vs, t, ht, hvs, rfl⟩ := h.elements _ _ hskip
      refine ⟨v :: vs, _, .more (.mk hb hb') ht, List.forall_mem_cons.2 ⟨hv, hvs⟩, by simp⟩
    · rename_i s'' hclose
      obtain ⟨b', hb', rfl⟩ := exists_blanks_of_skipBlank hclose
      cases hskip
      refine ⟨[v], _, .one (.mk hb hb'), List.forall_mem_singleton.2 hv, by simp⟩
    · cases hskip

lemma PassedOver.members_succ (h : PassedOver fuel) (hskip : skipMembers (fuel + 1) s = .ok r) :
    ∃ ms t, Joined (IsMember Unread) ms t ∧ (∀ m ∈ ms, IsValue m.2) ∧ s = t ++ '}' :: r := by
  rw [skipMembers] at hskip
  split at hskip
  · cases hskip
  · rename_i s₁ hquote
    obtain ⟨b₁, hb₁, rfl⟩ := exists_blanks_of_skipBlank hquote
    split at hskip
    · cases hskip
    · rename_i s₂ hname
      obtain ⟨k, hk, rfl⟩ := skipText_eq_ok hname
      split at hskip
      · cases hskip
      · rename_i s₃ hcolon
        obtain ⟨b₂, hb₂, rfl⟩ := exists_blanks_of_skipBlank hcolon
        split at hskip
        · cases hskip
        · rename_i s₄ hvalue
          obtain ⟨b₃, v, hb₃, hv, rfl⟩ := h.value _ _ hvalue
          split at hskip
          · cases hskip
          · rename_i s₅ hcomma
            obtain ⟨b₄, hb₄, rfl⟩ := exists_blanks_of_skipBlank hcomma
            obtain ⟨ms, t, ht, hms, rfl⟩ := h.members _ _ hskip
            have hm : IsMember Unread (k, v) _ := .mk ⟨hk, rfl⟩ hb₁ hb₂ hb₃ hb₄
            exact ⟨(k, v) :: ms, _, .more hm ht, List.forall_mem_cons.2 ⟨hv, hms⟩, by simp⟩
          · rename_i s₅ hclose
            obtain ⟨b₄, hb₄, rfl⟩ := exists_blanks_of_skipBlank hclose
            cases hskip
            have hm : IsMember Unread (k, v) _ := .mk ⟨hk, rfl⟩ hb₁ hb₂ hb₃ hb₄
            exact ⟨[(k, v)], _, .one hm, List.forall_mem_singleton.2 hv, by simp⟩
          · cases hskip
      · cases hskip
  · cases hskip

lemma PassedOver.value_succ (h : PassedOver fuel) (hskip : skipValue (fuel + 1) s = .ok r) :
    ∃ b v, Blanks b ∧ IsValue v ∧ s = b ++ (v ++ r) := by
  rw [skipValue] at hskip
  split at hskip
  · cases hskip
  · obtain ⟨b, hb, rfl⟩ := exists_blanks_of_skipBlank ‹_›
    obtain rfl := word_eq_ok hskip
    exact ⟨b, _, hb, .word (w := "null".toList) (by decide), rfl⟩
  · obtain ⟨b, hb, rfl⟩ := exists_blanks_of_skipBlank ‹_›
    obtain rfl := word_eq_ok hskip
    exact ⟨b, _, hb, .word (w := "true".toList) (by decide), rfl⟩
  · obtain ⟨b, hb, rfl⟩ := exists_blanks_of_skipBlank ‹_›
    obtain rfl := word_eq_ok hskip
    exact ⟨b, _, hb, .word (w := "false".toList) (by decide), rfl⟩
  · obtain ⟨b, hb, rfl⟩ := exists_blanks_of_skipBlank ‹_›
    obtain ⟨k, hk, rfl⟩ := skipText_eq_ok hskip
    exact ⟨b, _, hb, .text hk, by simp⟩
  · obtain ⟨b, hb, rfl⟩ := exists_blanks_of_skipBlank ‹_›
    split at hskip
    · cases hskip
    · obtain ⟨b', hb', rfl⟩ := exists_blanks_of_skipBlank ‹_›
      cases hskip
      exact ⟨b, _, hb, .list (List.forall_mem_nil _) (.none hb'), by simp⟩
    · rw [skipElements_skipBlank] at hskip
      obtain ⟨vs, t, ht, hvs, rfl⟩ := h.elements _ _ hskip
      exact ⟨b, _, hb, .list hvs (.some ht), by simp⟩
  · obtain ⟨b, hb, rfl⟩ := exists_blanks_of_skipBlank ‹_›
    split at hskip
    · cases hskip
    · obtain ⟨b', hb', rfl⟩ := exists_blanks_of_skipBlank ‹_›
      cases hskip
      exact ⟨b, _, hb, .object (List.forall_mem_nil _) (.none hb'), by simp⟩
    · rw [skipMembers_skipBlank] at hskip
      obtain ⟨ms, t, ht, hms, rfl⟩ := h.members _ _ hskip
      exact ⟨b, _, hb, .object hms (.some ht), by simp⟩
  · obtain ⟨b, hb, rfl⟩ := exists_blanks_of_skipBlank ‹_›
    split at hskip
    · obtain ⟨⟨n, r'⟩, hscan, rfl⟩ := map_eq_ok hskip
      obtain ⟨t, ht, hs⟩ := scan_eq_ok hscan
      exact ⟨b, t, hb, .numeral ht, by rw [hs]⟩
    · cases hskip

lemma passedOver (fuel : Nat) : PassedOver fuel := by
  induction fuel with
  | zero => exact ⟨nofun, nofun, nofun⟩
  | succ fuel ih =>
    exact ⟨fun _ _ => ih.value_succ, fun _ _ => ih.elements_succ, fun _ _ => ih.members_succ⟩

lemma skip_eq_ok (h : skip s = .ok r) : ∃ b v, Blanks b ∧ IsValue v ∧ s = b ++ (v ++ r) :=
  (passedOver _).value _ _ h

end Switchboard.Json
