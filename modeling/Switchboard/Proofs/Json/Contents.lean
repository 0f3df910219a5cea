import Switchboard.Proofs.Json.Records

/-! What a document holds. An object's members and a list's values are settled by the text, however
it is spelled and spaced. -/

namespace Switchboard.Json

variable {α : Type} {b b' r r' s V V' : List Char} {c c' : Char}

def HoldsObject (ms : List (List Char × List Char)) (s : List Char) : Prop :=
  ∃ V, IsObject Spells ms V ∧ Padded V s ∧ ∀ m ∈ ms, IsValue m.2

def HoldsList (vs : List (List Char)) (s : List Char) : Prop :=
  ∃ V, IsList vs V ∧ Padded V s ∧ ∀ v ∈ vs, IsValue v

lemma blanks_unique (hb : Blanks b) (hb' : Blanks b') (hc : isBlank c = false)
    (hc' : isBlank c' = false) (h : b ++ c :: r = b' ++ c' :: r') : c = c' ∧ r = r' := by
  have hskip := congrArg skipBlank h
  rw [skipBlank_append hb, skipBlank_append hb', skipBlank_cons hc, skipBlank_cons hc'] at hskip
  exact List.cons.inj hskip

lemma IsValue.skipBlank_append (hV : IsValue V) (hb : Blanks b) (r : List Char) :
    skipBlank (b ++ (V ++ r)) = V ++ r := by
  obtain ⟨c, s, rfl, hc⟩ := hV.head
  rw [Json.skipBlank_append hb]
  exact skipBlank_cons (not_isBlank_of_opens hc) _

structure Follows (closing c : Char) : Prop where
  kind : c = ',' ∨ c = closing
  isBlank : isBlank c = false
  continues : continues c = false

lemma follows_comma (closing : Char) : Follows closing ',' := ⟨.inl rfl, rfl, rfl⟩

lemma Padded.unique {t t' : List Char} {closing : Char} (ht : Padded V t) (ht' : Padded V' t')
    (hV : IsValue V) (hV' : IsValue V') (hc : Follows closing c) (hc' : Follows closing c')
    (h : t ++ c :: r = t' ++ c' :: r') : V = V' ∧ c = c' ∧ r = r' := by
  obtain ⟨hb₁, hb₂⟩ := ht
  obtain ⟨hb₁', hb₂'⟩ := ht'
  simp only [List.append_assoc] at h
  have hskip := congrArg skipBlank h
  rw [hV.skipBlank_append hb₁, hV'.skipBlank_append hb₁'] at hskip
  obtain ⟨rfl, hrest⟩ := hV.unique hV' (ends_blanks hb₂ hc.continues r)
    (ends_blanks hb₂' hc'.continues r') hskip
  exact ⟨rfl, blanks_unique hb₂ hb₂' hc.isBlank hc'.isBlank hrest⟩

lemma IsMember.unique {m m' : List Char × List Char} {t t' : List Char} {closing : Char}
    (ht : IsMember Spells m t) (ht' : IsMember Spells m' t') (hm : IsValue m.2) (hm' : IsValue m'.2)
    (hc : Follows closing c) (hc' : Follows closing c') (h : t ++ c :: r = t' ++ c' :: r') :
    m = m' ∧ c = c' ∧ r = r' := by
  obtain ⟨hk, hb₁, hb₂, hb₃, hb₄⟩ := ht
  obtain ⟨hk', hb₁', hb₂', hb₃', hb₄'⟩ := ht'
  simp only [List.append_assoc, List.cons_append] at h
  obtain ⟨-, hname⟩ := blanks_unique hb₁ hb₁' rfl rfl h
  have htext := congrArg text hname
  rw [text_append hk, text_append hk'] at htext
  obtain ⟨hfst, hcolon⟩ := Prod.mk.inj (Except.ok.inj htext)
  obtain ⟨-, hvalue⟩ := blanks_unique hb₂ hb₂' rfl rfl hcolon
  have hpadded := Padded.unique (.mk hb₃ hb₄) (.mk hb₃' hb₄') hm hm' hc hc'
    (by simpa only [List.append_assoc] using hvalue)
  exact ⟨Prod.ext hfst hpadded.1, hpadded.2⟩

structure Parted (closing : Char) (item : α → List Char → Prop) : Prop where
  front : ∀ {a u}, item a u → ∀ r, ∃ c s, skipBlank (u ++ r) = c :: s ∧ c ≠ closing
  unique : ∀ {a a' u u' c c' r r'}, item a u → item a' u' → Follows closing c →
    Follows closing c' → u ++ c :: r = u' ++ c' :: r' → a = a' ∧ c = c' ∧ r = r'

lemma Joined.unique {closing : Char} {item : α → List Char → Prop} {as as' : List α}
    {t t' : List Char} (hitem : Parted closing item) (hclosing : Follows closing closing)
    (hne : closing ≠ ',') (ht : Joined item as t) (ht' : Joined item as' t')
    (h : t ++ closing :: r = t' ++ closing :: r') : as = as' ∧ r = r' := by
  induction ht generalizing as' t' with
  | one ha =>
    cases ht' with
    | one ha' =>
      obtain ⟨rfl, -, hr⟩ := hitem.unique ha ha' hclosing hclosing h
      exact ⟨rfl, hr⟩
    | more ha' =>
      rw [List.append_assoc, List.cons_append] at h
      exact absurd (hitem.unique ha ha' hclosing (follows_comma _) h).2.1 hne
  | more ha _ ih =>
    rw [List.append_assoc, List.cons_append] at h
    cases ht' with
    | one ha' => exact absurd (hitem.unique ha ha' (follows_comma _) hclosing h).2.1.symm hne
    | more ha' ht' =>
      rw [List.append_assoc, List.cons_append] at h
      obtain ⟨rfl, -, hrest⟩ := hitem.unique ha ha' (follows_comma _) (follows_comma _) h
      obtain ⟨rfl, hr⟩ := ih ht' hrest
      exact ⟨rfl, hr⟩

lemma Joined.skipBlank_ne {closing : Char} {item : α → List Char → Prop} {as : List α}
    {t : List Char} (hitem : Parted closing item) (hclosing : isBlank closing = false)
    (ht : Joined item as t) (hb : Blanks b) : b ++ [closing] ≠ t ++ [closing] := by
  intro h
  obtain ⟨a, -, u, s, hu, rfl⟩ := ht.front
  obtain ⟨c, q, hskip, hc⟩ := hitem.front hu (s ++ [closing])
  rw [← List.append_assoc, ← h, skipBlank_append hb, skipBlank_cons hclosing] at hskip
  exact hc (List.cons.inj hskip).1.symm

lemma Enclosed.unique {opening closing : Char} {item : α → List Char → Prop} {as as' : List α}
    (hitem : Parted closing item) (hclosing : Follows closing closing) (hne : closing ≠ ',')
    (h : Enclosed opening closing item as V) (h' : Enclosed opening closing item as' V) :
    as = as' := by
  cases h with
  | none hb =>
    generalize hV : opening :: (_ ++ [closing]) = V at h'
    cases h' with
    | none => rfl
    | some ht' =>
      exact absurd (List.cons.inj hV).2 (ht'.skipBlank_ne hitem hclosing.isBlank hb)
  | some ht =>
    generalize hV : opening :: (_ ++ [closing]) = V at h'
    cases h' with
    | none hb' =>
      exact absurd (List.cons.inj hV).2.symm (ht.skipBlank_ne hitem hclosing.isBlank hb')
    | some ht' => exact (ht.unique hitem hclosing hne ht' (List.cons.inj hV).2).1

lemma parted_members : Parted '}' fun m t => IsValue m.2 ∧ IsMember Spells m t where
  front := by
    rintro m u ⟨-, hu⟩ r
    obtain ⟨s, hs⟩ := hu.front r
    exact ⟨'"', s, hs, by decide⟩
  unique := fun ⟨hm, hu⟩ ⟨hm', hu'⟩ hc hc' h => hu.unique hu' hm hm' hc hc' h

lemma parted_values : Parted ']' fun v t => IsValue v ∧ Padded v t where
  front := by
    rintro v u ⟨hv, hu⟩ r
    obtain ⟨c, s, hs, hc⟩ := hu.front hv r
    refine ⟨c, s, hs, ?_⟩
    rintro rfl
    cases hc
  unique := by
    rintro v v' u u' c c' r r' ⟨hv, hu⟩ ⟨hv', hu'⟩ hc hc' h
    exact hu.unique hu' hv hv' hc hc' h

lemma Joined.and {item : α → List Char → Prop} {P : α → Prop} {as : List α} {t : List Char}
    (h : Joined item as t) (has : ∀ a ∈ as, P a) : Joined (fun a t => P a ∧ item a t) as t := by
  induction h with
  | one ha => exact .one ⟨has _ (by simp), ha⟩
  | more ha _ ih =>
    exact .more ⟨has _ (by simp), ha⟩ (ih fun a h => has a (List.mem_cons_of_mem _ h))

lemma Enclosed.and {opening closing : Char} {item : α → List Char → Prop} {P : α → Prop}
    {as : List α} (h : Enclosed opening closing item as V) (has : ∀ a ∈ as, P a) :
    Enclosed opening closing (fun a t => P a ∧ item a t) as V := by
  cases h with
  | none hb => exact .none hb
  | some ht => exact .some (ht.and has)

lemma Padded.unique_value (hs : Padded V s) (hs' : Padded V' s) (hV : IsValue V)
    (hV' : IsValue V') : V = V' := by
  cases hs with
  | mk hb₁ hb₂ =>
  generalize h : _ ++ (V ++ _) = s at hs'
  obtain ⟨hb₁', hb₂'⟩ := hs'
  have hskip := congrArg skipBlank h
  rw [hV.skipBlank_append hb₁, hV'.skipBlank_append hb₁'] at hskip
  exact (hV.unique hV' hb₂.ends hb₂'.ends hskip).1

variable {ms ms' : List (List Char × List Char)} {vs vs' : List (List Char)}

lemma HoldsObject.unique (h : HoldsObject ms s) (h' : HoldsObject ms' s) : ms = ms' := by
  obtain ⟨V, hV, hs, hms⟩ := h
  obtain ⟨V', hV', hs', hms'⟩ := h'
  obtain rfl := hs.unique_value hs' (isValue_object hV hms) (isValue_object hV' hms')
  exact (hV.and hms).unique parted_members ⟨.inr rfl, rfl, rfl⟩ (by decide) (hV'.and hms')

lemma HoldsList.unique (h : HoldsList vs s) (h' : HoldsList vs' s) : vs = vs' := by
  obtain ⟨V, hV, hs, hvs⟩ := h
  obtain ⟨V', hV', hs', hvs'⟩ := h'
  obtain rfl := hs.unique_value hs' (.list hvs hV) (.list hvs' hV')
  exact (hV.and hvs).unique parted_values ⟨.inr rfl, rfl, rfl⟩ (by decide) (hV'.and hvs')

lemma HoldsObject.not_list (h : HoldsObject ms s) : ¬ HoldsList vs s := by
  rintro ⟨V', hV', hs', hvs⟩
  obtain ⟨V, hV, hs, hms⟩ := h
  obtain rfl := hs.unique_value hs' (isValue_object hV hms) (.list hvs hV')
  obtain ⟨q, hq⟩ := hV.head
  obtain ⟨q', hq'⟩ := hV'.head
  rw [hq] at hq'
  exact absurd (List.cons.inj hq').1 (by decide)

lemma spells_self {k : List Char} (hk : ∀ c ∈ k, IsPlain c) : Spells k k := by
  induction k with
  | nil => exact .nil
  | cons c k ih =>
    rw [List.forall_mem_cons] at hk
    exact .plain hk.1 (ih hk.2)

instance (c : Char) : Decidable (IsPlain c) := inferInstanceAs (Decidable (_ ∧ _ ∧ _))

instance (s : List Char) : Decidable (∀ c ∈ s, IsPlain c) := List.decidableBAll IsPlain s

lemma joined_intercalate {γ : Type} {item : α → List Char → Prop} {f : γ → α}
    {written : γ → List Char} {xs : List γ} (hne : xs ≠ [])
    (hxs : ∀ x ∈ xs, item (f x) (written x)) :
    Joined item (xs.map f) ([','].intercalate (xs.map written)) := by
  induction xs with
  | nil => exact absurd rfl hne
  | cons x xs ih =>
    rw [List.forall_mem_cons] at hxs
    cases xs with
    | nil =>
      have hone : Joined item [f x] (written x) := .one hxs.1
      simpa [List.intercalate] using hone
    | cons y xs =>
      have hmore : Joined item (f x :: (y :: xs).map f) _ :=
        .more hxs.1 (ih (List.cons_ne_nil _ _) hxs.2)
      simpa [List.intercalate] using hmore

def entry (m : String × List Char) : List Char × List Char := (m.1.toList, m.2)

lemma isObject_object {ms : List (String × List Char)}
    (hms : ∀ m ∈ ms, ∀ c ∈ m.1.toList, IsPlain c) :
    IsObject Spells (ms.map entry) (object ms) := by
  have member (m : String × List Char) (hm : m ∈ ms) :
      IsMember Spells (entry m) (quoted m.1.toList ++ ':' :: m.2) := by
    have hmember : IsMember Spells (entry m) _ :=
      .mk (spells_self (hms m hm)) blanks_nil blanks_nil blanks_nil blanks_nil
    simpa [quoted, entry] using hmember
  by_cases hnil : ms = []
  · subst hnil
    exact .none blanks_nil
  · exact .some (joined_intercalate hnil member)

lemma Padded.self (V : List Char) : Padded V V := by
  have hpadded : Padded V ([] ++ (V ++ [])) := .mk blanks_nil blanks_nil
  rwa [List.nil_append, List.append_nil] at hpadded

lemma holdsObject_object {ms : List (String × List Char)}
    (hnames : ∀ m ∈ ms, ∀ c ∈ m.1.toList, IsPlain c) (hvalues : ∀ m ∈ ms, IsValue m.2) :
    HoldsObject (ms.map entry) (object ms) := by
  exact ⟨object ms, isObject_object hnames, .self _, List.forall_mem_map.2 hvalues⟩

end Switchboard.Json
