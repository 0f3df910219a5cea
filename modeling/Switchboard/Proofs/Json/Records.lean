import Switchboard.Proofs.Json.Skipping

/-! Records in a JSON document. A record is read from an object that names each of its fields or
from a list of their values, and what is read depends only on the members or the values. -/

namespace Switchboard.Json

variable {α β : Type} {b s r r' V : List Char} {c : Char}

structure Reads (read : Scan α) (means : List Char → α → Prop) : Prop where
  isValue : ∀ {V a}, means V a → IsValue V
  sound : ∀ {s a r}, read s = .ok (a, r) → ∃ b V, Blanks b ∧ means V a ∧ s = b ++ (V ++ r)
  complete : ∀ {V a b r}, means V a → Blanks b → Ends r → read (b ++ (V ++ r)) = .ok (a, r)

def Reading (read : Scan α) (V : List Char) (a : α) : Prop := IsValue V ∧ read V = .ok (a, [])

section Readers

variable {read : Scan α} {means : List Char → α → Prop} {a : α}

lemma ends_nil : Ends [] := nofun

lemma IsValue.no_blanks (hV : IsValue (b ++ s)) (hb : Blanks b) : b = [] := by
  obtain ⟨c, t, hs, hc⟩ := hV.head
  cases b with
  | nil => rfl
  | cons d b =>
    have hblank := hb d (List.mem_cons_self ..)
    rw [(List.cons.inj hs).1, not_isBlank_of_opens hc] at hblank
    cases hblank

lemma Reads.reading_iff (h : Reads read means) : Reading read V a ↔ means V a := by
  constructor
  · rintro ⟨hV, hread⟩
    obtain ⟨b, V', hb, hmeans, rfl⟩ := h.sound hread
    obtain rfl := hV.no_blanks hb
    rwa [List.nil_append, List.append_nil]
  · intro hmeans
    have hread := h.complete hmeans blanks_nil ends_nil
    rw [List.nil_append, List.append_nil] at hread
    exact ⟨h.isValue hmeans, hread⟩

lemma Reads.congr {means' : List Char → α → Prop} (h : Reads read means)
    (hmeans : ∀ V a, means V a ↔ means' V a) : Reads read means' := by
  obtain rfl : means = means' := funext₂ fun V a => propext (hmeans V a)
  exact h

lemma Reads.self (h : Reads read means) : Reads read (Reading read) :=
  h.congr fun _ _ => h.reading_iff.symm

lemma Reads.map (h : Reads read means) (f : α → β) :
    Reads (fun s => (read s).map fun (a, r) => (f a, r)) fun V b => ∃ a, means V a ∧ f a = b where
  isValue := fun ⟨_, hmeans, _⟩ => h.isValue hmeans
  sound := by
    intro s b r hread
    obtain ⟨⟨a, r'⟩, hread, heq⟩ := map_eq_ok hread
    cases heq
    obtain ⟨b, V, hb, hmeans, hs⟩ := h.sound hread
    exact ⟨b, V, hb, ⟨a, hmeans, rfl⟩, hs⟩
  complete := by
    rintro V _ b r ⟨a, hmeans, rfl⟩ hb hr
    simp only [h.complete hmeans hb hr, Except.map]

lemma Reads.reading_map (h : Reads read means) (f : α → β) (hmeans : means V a) :
    Reading (fun s => (read s).map fun (a, r) => (f a, r)) V (f a) :=
  (h.map f).reading_iff.2 ⟨a, hmeans, rfl⟩

lemma isValue_digits (n : Nat) : IsValue (Decimal.digits n) := .numeral (Numeral.written_ofNat n)

lemma natural_reads {limit : Nat} (hlimit : limit ≤ UInt64.size) :
    Reads (natural limit) fun V n => n < limit ∧ V = Decimal.digits n where
  isValue := by
    rintro V n ⟨-, rfl⟩
    exact isValue_digits n
  sound := by
    intro s n r hread
    obtain ⟨hn, b, hb, hs⟩ := natural_eq_ok hread
    exact ⟨b, _, hb, ⟨hn, rfl⟩, hs⟩
  complete := by
    rintro V n b r ⟨hn, rfl⟩ hb hr
    exact natural_append hlimit hn hb hr

lemma Blanks.append {b b' : List Char} (hb : Blanks b) (hb' : Blanks b') : Blanks (b ++ b') := by
  intro c hc
  exact (List.mem_append.1 hc).elim (hb c) (hb' c)

lemma Blanks.ends (hb : Blanks b) : Ends b := by
  intro d hd
  have hblank := hb d (List.mem_of_mem_head? hd)
  simp only [isBlank, Bool.or_eq_true, beq_iff_eq] at hblank
  rcases hblank with ((rfl | rfl) | rfl) | rfl <;> rfl

lemma Reads.document (h : Reads read means) :
    document read s = .ok a ↔ ∃ V, means V a ∧ Padded V s := by
  constructor
  · intro hread
    obtain ⟨⟨a', r⟩, hread, hrest⟩ := bind_eq_ok hread
    obtain ⟨b, V, hb, hmeans, rfl⟩ := h.sound hread
    dsimp only at hrest
    split at hrest
    · cases hrest
      exact ⟨V, hmeans, .mk hb (blanks_of_skipBlank ‹_›)⟩
    · cases hrest
  · rintro ⟨V, hmeans, ⟨hb, hb'⟩⟩
    have hskip := skipBlank_append hb' []
    rw [List.append_nil] at hskip
    simp only [Json.document, h.complete hmeans hb hb'.ends, bind, Except.bind, hskip]
    rfl

lemma Spells.isText {k name : List Char} (h : Spells k name) : IsText k := by
  induction h with
  | nil => exact .nil
  | plain hc _ ih => exact .plain hc ih
  | escape hc _ ih => exact .escape (hc ▸ rfl) ih
  | code hds _ _ _ ih => exact .code hds ih
  | pair hds _ hds' _ _ ih => exact .code hds (.code hds' ih)

lemma Joined.exists_unread {ms : List (List Char × List Char)} {t : List Char}
    (h : Joined (IsMember Spells) ms t) :
    ∃ ms', Joined (IsMember Unread) ms' t ∧ ms'.map (·.2) = ms.map (·.2) := by
  have unread {m : List Char × List Char} {t : List Char} (h : IsMember Spells m t) :
      ∃ k, IsMember Unread (k, m.2) t := by
    obtain @⟨k, _, _, _, _, hk, hb₁, hb₂, hb₃, hb₄⟩ := h
    exact ⟨k, .mk (m := (k, m.2)) ⟨hk.isText, rfl⟩ hb₁ hb₂ hb₃ hb₄⟩
  induction h with
  | one hm =>
    obtain ⟨k, hk⟩ := unread hm
    exact ⟨_, .one hk, rfl⟩
  | more hm _ ih =>
    obtain ⟨k, hk⟩ := unread hm
    obtain ⟨ms', hms', hvalues⟩ := ih
    exact ⟨_, .more hk hms', by simp [hvalues]⟩

lemma isValue_object {ms : List (List Char × List Char)} (h : IsObject Spells ms V)
    (hms : ∀ m ∈ ms, IsValue m.2) : IsValue V := by
  cases h with
  | none hb => exact .object (List.forall_mem_nil _) (.none hb)
  | some ht =>
    obtain ⟨ms', ht', hvalues⟩ := ht.exists_unread
    rw [← List.forall_mem_map, ← hvalues, List.forall_mem_map] at hms
    exact .object hms (.some ht')

end Readers

namespace Shape

variable {σ : Type} {sh : Shape σ α} {v w u : σ} {m : List Char × List Char}
  {ms : List (List Char × List Char)} {k t : List Char} {fuel : Nat} {first : Bool} {f : Field σ}

inductive Takes (sh : Shape σ α) (v : σ) : List Char × List Char → σ → Prop
  | field {k V : List Char} {f : Field σ} {w : σ}
      (hf : sh.fields.find? (fun f => f.name.toList == k) = some f) (hset : f.isSet v = false)
      (hV : Reading (f.read v) V w) : Takes sh v (k, V) w
  | other {k V : List Char} (hf : sh.fields.find? (fun f => f.name.toList == k) = none)
      (hopen : sh.isOpen = true) (hV : IsValue V) : Takes sh v (k, V) v

inductive TakesAll (sh : Shape σ α) : σ → List (List Char × List Char) → σ → Prop
  | nil {v : σ} : TakesAll sh v [] v
  | cons {v w u : σ} {m : List Char × List Char} {ms : List (List Char × List Char)}
      (hm : sh.Takes v m w) (hms : TakesAll sh w ms u) : TakesAll sh v (m :: ms) u

inductive TakesList : List (Field σ) → σ → List (List Char) → σ → Prop
  | nil {v : σ} : TakesList [] v [] v
  | cons {f : Field σ} {fs : List (Field σ)} {v w u : σ} {V : List Char} {vs : List (List Char)}
      (hV : Reading (f.read v) V w) (hvs : TakesList fs w vs u) :
      TakesList (f :: fs) v (V :: vs) u

inductive Means (sh : Shape σ α) : List Char → α → Prop
  | object {V : List Char} {ms : List (List Char × List Char)} {v : σ} {a : α}
      (hV : IsObject Spells ms V) (hms : sh.TakesAll sh.blank ms v) (ha : sh.finish v = some a) :
      Means sh V a
  | list {V : List Char} {vs : List (List Char)} {v : σ} {a : α} (hV : IsList vs V)
      (hvs : TakesList sh.fields sh.blank vs v) (ha : sh.finish v = some a) : Means sh V a

def ReadsFields (sh : Shape σ α) : Prop :=
  ∀ f ∈ sh.fields, ∀ v, Reads (f.read v) (Reading (f.read v))

lemma mem_of_find (hf : sh.fields.find? (fun f => f.name.toList == k) = some f) :
    f ∈ sh.fields :=
  List.mem_of_find?_eq_some hf

lemma colon_append (hb : Blanks b) (r : List Char) : colon (b ++ ':' :: r) = .ok r := by
  rw [colon, skipBlank_append hb, skipBlank_cons rfl]
  rfl

lemma colon_eq_ok (h : colon s = .ok r) : ∃ b, Blanks b ∧ s = b ++ ':' :: r := by
  rw [colon] at h
  split at h
  · cases h
  · cases h
    exact exists_blanks_of_skipBlank ‹_›
  · cases h

lemma Takes.isValue (h : sh.Takes v m w) : IsValue m.2 := by
  cases h with
  | field _ _ hV => exact hV.1
  | other _ _ hV => exact hV

lemma member_append (hsh : sh.ReadsFields) {k' : List Char} (hk : Spells k' k)
    (hm : sh.Takes v (k, V) w) {b₂ b₃ : List Char} (hb₂ : Blanks b₂) (hb₃ : Blanks b₃)
    (hr : Ends r) :
    sh.member v (k' ++ '"' :: (b₂ ++ ':' :: (b₃ ++ (V ++ r)))) = .ok (w, r) := by
  simp only [member, text_append hk, bind, Except.bind]
  cases hm with
  | field hf hset hV =>
    have hread := (hsh _ (mem_of_find hf) v).complete hV hb₃ hr
    simp only [hf, hset, colon_append hb₂, hread]
    rfl
  | other hf hopen hV => simp only [hf, hopen, colon_append hb₂, skip_append hV hb₃ hr, if_true]

lemma member_eq_ok (hsh : sh.ReadsFields) (h : sh.member v s = .ok (w, r)) :
    ∃ k' k b₂ b₃ V, Spells k' k ∧ sh.Takes v (k, V) w ∧ Blanks b₂ ∧ Blanks b₃ ∧
      s = k' ++ '"' :: (b₂ ++ ':' :: (b₃ ++ (V ++ r))) := by
  obtain ⟨⟨k, s₁⟩, htext, hvalue⟩ := bind_eq_ok h
  obtain ⟨k', hk, hs⟩ := text_eq_ok htext
  dsimp only at hvalue
  split at hvalue
  · rename_i f hf
    split at hvalue
    · cases hvalue
    · rename_i hset
      obtain ⟨s₂, hcolon, hread⟩ := bind_eq_ok hvalue
      obtain ⟨b₂, hb₂, rfl⟩ := colon_eq_ok hcolon
      obtain ⟨b₃, V, hb₃, hV, rfl⟩ := (hsh f (mem_of_find hf) v).sound hread
      exact ⟨k', k, b₂, b₃, V, hk, .field hf (Bool.eq_false_iff.2 hset) hV, hb₂, hb₃, hs⟩
  · rename_i hf
    split at hvalue
    · rename_i hopen
      obtain ⟨s₂, hcolon, hvalue⟩ := bind_eq_ok hvalue
      obtain ⟨s₃, hskip, hok⟩ := bind_eq_ok hvalue
      cases hok
      obtain ⟨b₂, hb₂, rfl⟩ := colon_eq_ok hcolon
      obtain ⟨b₃, V, hb₃, hV, rfl⟩ := skip_eq_ok hskip
      exact ⟨k', k, b₂, b₃, V, hk, .other hf hopen hV, hb₂, hb₃, hs⟩
    · cases hvalue

lemma nextMember_true (hb : Blanks b) (r : List Char) :
    nextMember true (b ++ '"' :: r) = .ok (true, r) := by
  rw [nextMember, skipBlank_append hb, skipBlank_cons rfl]
  rfl

lemma nextMember_close (hb : Blanks b) (first : Bool) (r : List Char) :
    nextMember first (b ++ '}' :: r) = .ok (false, r) := by
  rw [nextMember, skipBlank_append hb, skipBlank_cons rfl]
  rfl

lemma nextMember_comma (hb : Blanks b) (hs : skipBlank s = '"' :: r) :
    nextMember false (b ++ ',' :: s) = nextMember true s := by
  rw [nextMember, skipBlank_append hb, skipBlank_cons rfl, nextMember]
  simp [hs]

lemma nextMember_eq_ok {more : Bool} (h : nextMember first s = .ok (more, r)) :
    ∃ b, Blanks b ∧ ((more = false ∧ s = b ++ '}' :: r) ∨
      (more = true ∧ first = true ∧ s = b ++ '"' :: r) ∨
      (more = true ∧ first = false ∧ ∃ b', Blanks b' ∧ s = b ++ ',' :: (b' ++ '"' :: r))) := by
  rw [nextMember] at h
  split at h
  · cases h
  · cases h
    obtain ⟨b, hb, hs⟩ := exists_blanks_of_skipBlank ‹_›
    exact ⟨b, hb, .inl ⟨rfl, hs⟩⟩
  · obtain ⟨b, hb, hs⟩ := exists_blanks_of_skipBlank ‹_›
    split at h
    · cases h
      exact ⟨b, hb, .inr (.inl ⟨rfl, ‹_›, hs⟩)⟩
    · cases h
  · obtain ⟨b, hb, hs⟩ := exists_blanks_of_skipBlank ‹_›
    split at h
    · cases h
    · rename_i hfirst
      split at h
      · cases h
      · cases h
        obtain ⟨b', hb', rfl⟩ := exists_blanks_of_skipBlank ‹_›
        exact ⟨b, hb, .inr (.inr ⟨rfl, Bool.eq_false_iff.2 hfirst, b', hb', hs⟩)⟩
      · cases h
  · cases h

lemma members_more (h : nextMember first s = .ok (true, r)) (hm : sh.member v r = .ok (w, r')) :
    sh.members (fuel + 1) first v s = sh.members fuel false w r' := by
  simp [members, h, hm, bind, Except.bind]

lemma members_end (h : nextMember first s = .ok (false, r)) :
    sh.members (fuel + 1) first v s = .ok (v, r) := by
  simp [members, h, bind, Except.bind]

lemma members_append (hsh : sh.ReadsFields) (ht : Joined (IsMember Spells) ms t)
    (hms : sh.TakesAll v ms w) (hfuel : ms.length < fuel)
    (hs : nextMember first s = nextMember true (t ++ '}' :: r)) :
    sh.members fuel first v s = .ok (w, r) := by
  -- Over the members: the text may begin with a comma or not, and `hs` says that the reader cannot
  -- tell, so that the hypothesis applies behind the comma as well.
  induction ht generalizing fuel first v s with
  | one hm =>
    obtain ⟨fuel, rfl⟩ : ∃ k, fuel = k + 2 := ⟨fuel - 2, by simp at hfuel; omega⟩
    obtain ⟨hk, hb₁, hb₂, hb₃, hb₄⟩ := hm
    obtain ⟨⟩ | ⟨htake, ⟨⟩⟩ := hms
    simp only [List.append_assoc, List.cons_append, nextMember_true hb₁] at hs
    have hread := member_append hsh hk htake hb₂ hb₃ (ends_blanks (c := '}') hb₄ rfl r)
    rw [members_more hs hread, members_end (nextMember_close hb₄ false r)]
  | more hm ht ih =>
    obtain ⟨fuel, rfl⟩ : ∃ k, fuel = k + 1 := ⟨fuel - 1, by omega⟩
    obtain ⟨hk, hb₁, hb₂, hb₃, hb₄⟩ := hm
    cases hms with
    | cons htake hms =>
    simp only [List.append_assoc, List.cons_append, nextMember_true hb₁] at hs
    have hread (q : List Char) :=
      member_append hsh hk htake hb₂ hb₃ (ends_blanks (c := ',') hb₄ rfl q)
    obtain ⟨m, -, u, s', hu, rfl⟩ := ht.front
    obtain ⟨q, hfront⟩ := hu.front (s' ++ '}' :: r)
    rw [← List.append_assoc] at hfront
    rw [members_more hs (hread _)]
    exact ih hms (by simpa using hfuel) (nextMember_comma hb₄ hfront)

lemma members_succ (fuel : Nat) (first : Bool) (v : σ) (s : List Char) :
    sh.members (fuel + 1) first v s = nextMember first s >>= fun p =>
      if p.1 then sh.member v p.2 >>= fun q => sh.members fuel false q.1 q.2
      else .ok (v, p.2) :=
  rfl

lemma members_eq_ok (hsh : sh.ReadsFields) (h : sh.members fuel first v s = .ok (w, r)) :
    ∃ b, Blanks b ∧ ((s = b ++ '}' :: r ∧ w = v) ∨
      ∃ ms t, Joined (IsMember Spells) ms t ∧ sh.TakesAll v ms w ∧
        s = (if first then t else b ++ ',' :: t) ++ '}' :: r) := by
  induction fuel generalizing first v s with
  | zero => cases h
  | succ fuel ih =>
    rw [members_succ] at h
    obtain ⟨⟨more, s₁⟩, hnext, hread⟩ := bind_eq_ok h
    obtain ⟨b, hb, ⟨rfl, hs⟩ | hmore⟩ := nextMember_eq_ok hnext
    · cases hread
      exact ⟨b, hb, .inl ⟨hs, rfl⟩⟩
    · obtain rfl : more = true := hmore.elim And.left And.left
      obtain ⟨⟨w₁, s₂⟩, hmember, hmembers⟩ := bind_eq_ok hread
      obtain ⟨b₄, hb₄, hrest⟩ := ih hmembers
      obtain ⟨k', k, b₂, b₃, V, hk, hm, hb₂, hb₃, rfl⟩ := member_eq_ok hsh hmember
      have joined (b₁ : List Char) (hb₁ : Blanks b₁) : ∃ ms t, Joined (IsMember Spells) ms t ∧
          sh.TakesAll v ms w ∧
            b₁ ++ '"' :: (k' ++ '"' :: (b₂ ++ ':' :: (b₃ ++ (V ++ s₂)))) = t ++ '}' :: r := by
        have ht : IsMember Spells (k, V) _ := .mk hk hb₁ hb₂ hb₃ hb₄
        obtain ⟨rfl, rfl⟩ | ⟨ms, t, hms, htakes, rfl⟩ := hrest
        · exact ⟨_, _, .one ht, .cons hm .nil, by simp⟩
        · exact ⟨_, _, .more ht hms, .cons hm htakes, by simp⟩
      refine ⟨b, hb, .inr ?_⟩
      obtain ⟨-, rfl, rfl⟩ | ⟨-, rfl, b₁, hb₁, rfl⟩ := hmore
      · exact joined b hb
      · obtain ⟨ms, t, hms, htakes, ht⟩ := joined b₁ hb₁
        exact ⟨ms, t, hms, htakes, by simp [ht]⟩

lemma nextElement_true (hb : Blanks b) (hV : IsValue V) (r : List Char) :
    nextElement true (b ++ (V ++ r)) = .ok (V ++ r) := by
  obtain ⟨c, t, rfl, hc⟩ := hV.head
  have hne : c ≠ ']' := by
    rintro rfl
    cases hc
  rw [nextElement, skipBlank_append hb, List.cons_append, skipBlank_cons (not_isBlank_of_opens hc)]
  split
  · cases ‹_ = []›
  · exact absurd (List.cons.inj ‹_›).1 hne
  · cases ‹_ = _ :: _›
    rfl

lemma nextElement_comma (hb : Blanks b) (hs : skipBlank s = c :: r) (hc : c ≠ ']') :
    nextElement false (b ++ ',' :: s) = nextElement true s := by
  rw [nextElement, skipBlank_append hb, skipBlank_cons rfl, nextElement, hs]
  simp [hs, hc]

lemma nextElement_eq_ok (h : nextElement first s = .ok r) :
    ∃ b b', Blanks b ∧ Blanks b' ∧
      ((first = true ∧ s = b ++ r) ∨ (first = false ∧ s = b ++ ',' :: (b' ++ r))) := by
  rw [nextElement] at h
  split at h
  · cases h
  · cases h
  · rename_i c r' _ _
    obtain ⟨b, hb, hs⟩ := exists_blanks_of_skipBlank ‹_›
    split at h
    · cases h
      exact ⟨b, [], hb, blanks_nil, .inl ⟨‹_›, hs⟩⟩
    · rename_i hfirst
      split at h
      · rename_i hcomma
        rw [eq_of_beq hcomma] at hs
        split at h
        · cases h
        · cases h
        · cases h
          obtain ⟨b', hb', hr⟩ := exists_blanks r'
          rw [hr] at hs
          exact ⟨b, b', hb, hb', .inr ⟨Bool.eq_false_iff.2 hfirst, hs⟩⟩
      · cases h

lemma closeList_append (hb : Blanks b) (r : List Char) : closeList (b ++ ']' :: r) = .ok r := by
  rw [closeList, skipBlank_append hb, skipBlank_cons rfl]
  rfl

lemma closeList_eq_ok (h : closeList s = .ok r) : ∃ b, Blanks b ∧ s = b ++ ']' :: r := by
  rw [closeList] at h
  split at h
  · cases h
  · cases h
    exact exists_blanks_of_skipBlank ‹_›
  · cases h

lemma elements_cons (f : Field σ) (fs : List (Field σ)) (first : Bool) (v : σ) (s : List Char) :
    elements (f :: fs) first v s = nextElement first s >>= fun s =>
      f.read v s >>= fun p => elements fs false p.1 p.2 :=
  rfl

variable {fs : List (Field σ)} {vs : List (List Char)}

lemma TakesList.isValue (h : TakesList fs v vs w) : ∀ V ∈ vs, IsValue V := by
  induction h with
  | nil => nofun
  | cons hV _ ih => exact List.forall_mem_cons.2 ⟨hV.1, ih⟩

lemma elements_append (hfs : ∀ f ∈ fs, ∀ v, Reads (f.read v) (Reading (f.read v)))
    (ht : Joined Padded vs t) (hvs : TakesList fs v vs w)
    (hs : nextElement first s = nextElement true (t ++ ']' :: r)) :
    ∃ b, Blanks b ∧ elements fs first v s = .ok (w, b ++ ']' :: r) := by
  induction ht generalizing fs first v s with
  | one hV =>
    cases hvs with
    | @cons f fs _ _ _ V _ hread hrest =>
    cases hrest
    obtain ⟨hb, hb'⟩ := hV
    simp only [List.append_assoc, nextElement_true hb hread.1] at hs
    have hread :=
      (hfs f (by simp) v).complete hread blanks_nil (ends_blanks (c := ']') hb' rfl r)
    rw [List.nil_append] at hread
    exact ⟨_, hb', by simp [hs, hread, bind, Except.bind, elements]⟩
  | more hV ht ih =>
    cases hvs with
    | @cons f fs _ _ _ V _ hread hrest =>
    obtain ⟨hb, hb'⟩ := hV
    simp only [List.append_assoc, List.cons_append, nextElement_true hb hread.1] at hs
    have hread (q : List Char) :=
      (hfs f (by simp) v).complete hread blanks_nil (ends_blanks (c := ',') hb' rfl q)
    obtain ⟨V', hV', u, s', hu, rfl⟩ := ht.front
    obtain ⟨c, q, hfront, hc⟩ := hu.front (hrest.isValue V' hV') (s' ++ ']' :: r)
    rw [← List.append_assoc] at hfront
    have hne : c ≠ ']' := by
      rintro rfl
      cases hc
    obtain ⟨b'', hb'', helements⟩ := ih (fun g hg => hfs g (List.mem_cons_of_mem _ hg)) hrest
      (nextElement_comma hb' hfront hne)
    simp only [List.nil_append] at hread
    refine ⟨b'', hb'', ?_⟩
    simp only [elements_cons, hs, hread, bind, Except.bind]
    exact helements

lemma elements_eq_ok (hfs : ∀ f ∈ fs, ∀ v, Reads (f.read v) (Reading (f.read v)))
    (h : elements fs first v s = .ok (w, r')) (hclose : closeList r' = .ok r) :
    ∃ vs, TakesList fs v vs w ∧ ((vs = [] ∧ s = r') ∨ ∃ b t, Blanks b ∧ Joined Padded vs t ∧
      s = (if first then t else b ++ ',' :: t) ++ ']' :: r) := by
  induction fs generalizing first v s with
  | nil =>
    cases h
    exact ⟨[], .nil, .inl ⟨rfl, rfl⟩⟩
  | cons f fs ih =>
    rw [elements_cons] at h
    obtain ⟨s₁, hnext, hfield⟩ := bind_eq_ok h
    obtain ⟨⟨w₁, s₂⟩, hread, hrest⟩ := bind_eq_ok hfield
    obtain ⟨vs, hvs, htail⟩ := ih (fun g hg => hfs g (List.mem_cons_of_mem _ hg)) hrest
    obtain ⟨b', V, hb', hV, rfl⟩ := (hfs f (by simp) v).sound hread
    have joined (b₁ : List Char) (hb₁ : Blanks b₁) : ∃ t, Joined Padded (V :: vs) t ∧
        b₁ ++ (b' ++ (V ++ s₂)) = t ++ ']' :: r := by
      obtain ⟨rfl, rfl⟩ | ⟨b₄, t, hb₄, ht, rfl⟩ := htail
      · obtain ⟨b₄, hb₄, rfl⟩ := closeList_eq_ok hclose
        exact ⟨_, .one (.mk (hb₁.append hb') hb₄), by simp⟩
      · exact ⟨_, .more (.mk (hb₁.append hb') hb₄) ht, by simp⟩
    refine ⟨V :: vs, .cons hV hvs, .inr ?_⟩
    obtain ⟨b, b'', hb, hb'', ⟨rfl, rfl⟩ | ⟨rfl, rfl⟩⟩ := nextElement_eq_ok hnext
    · obtain ⟨t, hjoined, ht⟩ := joined b hb
      exact ⟨b, t, hb, hjoined, ht⟩
    · obtain ⟨t, hjoined, ht⟩ := joined b'' hb''
      exact ⟨b, t, hb, hjoined, by simp [ht]⟩

lemma TakesAll.isValue (h : sh.TakesAll v ms w) : ∀ m ∈ ms, IsValue m.2 := by
  induction h with
  | nil => nofun
  | cons hm _ ih => exact List.forall_mem_cons.2 ⟨hm.isValue, ih⟩

variable {a : α}

lemma complete_eq_ok : sh.complete v = .ok a ↔ sh.finish v = some a := by
  rw [complete]
  split <;> simp [*]

lemma read_object {x : List Char} (hb : Blanks b) (ha : sh.finish v = some a)
    (h : sh.members ((x ++ '}' :: r).length + 1) true sh.blank (x ++ '}' :: r) = .ok (v, r)) :
    sh.read (b ++ ('{' :: (x ++ ['}']) ++ r)) = .ok (a, r) := by
  have hskip : skipBlank (b ++ ('{' :: (x ++ ['}']) ++ r)) = '{' :: (x ++ '}' :: r) := by
    simp only [skipBlank_append hb, List.cons_append, List.append_assoc, List.nil_append]
    exact skipBlank_cons rfl _
  simp only [read, hskip, h, complete_eq_ok.2 ha, bind, Except.bind]

lemma read_list {x : List Char} (hb : Blanks b) (ha : sh.finish v = some a)
    (h : elements sh.fields true sh.blank (x ++ ']' :: r) = .ok (v, s))
    (hclose : closeList s = .ok r) :
    sh.read (b ++ ('[' :: (x ++ [']']) ++ r)) = .ok (a, r) := by
  have hskip : skipBlank (b ++ ('[' :: (x ++ [']']) ++ r)) = '[' :: (x ++ ']' :: r) := by
    simp only [skipBlank_append hb, List.cons_append, List.append_assoc, List.nil_append]
    exact skipBlank_cons rfl _
  simp only [read, hskip, h, complete_eq_ok.2 ha, hclose, bind, Except.bind]

lemma length_joined {γ : Type} {item : γ → List Char → Prop} {as : List γ}
    (h : Joined item as t) : as.length ≤ t.length + 1 := by
  induction h with
  | one => simp
  | more _ _ ih =>
    simp only [List.length_append, List.length_cons]
    omega

lemma reads (hsh : sh.ReadsFields) : Reads sh.read sh.Means where
  isValue := by
    rintro V a (⟨hV, hms, -⟩ | ⟨hV, hvs, -⟩)
    · exact isValue_object hV hms.isValue
    · exact .list hvs.isValue hV
  sound := by
    intro s a r h
    rw [read] at h
    split at h
    · cases h
    · obtain ⟨b, hb, rfl⟩ := exists_blanks_of_skipBlank ‹_›
      obtain ⟨⟨v, r₁⟩, hmembers, h⟩ := bind_eq_ok h
      obtain ⟨a', ha, h⟩ := bind_eq_ok h
      cases h
      rw [complete_eq_ok] at ha
      obtain ⟨b', hb', ⟨rfl, rfl⟩ | ⟨ms, t, ht, hms, rfl⟩⟩ := members_eq_ok hsh hmembers
      · exact ⟨b, _, hb, .object (.none hb') .nil ha, by simp⟩
      · exact ⟨b, _, hb, .object (.some ht) hms ha, by simp⟩
    · obtain ⟨b, hb, rfl⟩ := exists_blanks_of_skipBlank ‹_›
      obtain ⟨⟨v, r₁⟩, helements, h⟩ := bind_eq_ok h
      obtain ⟨a', ha, h⟩ := bind_eq_ok h
      obtain ⟨r₂, hclose, h⟩ := bind_eq_ok h
      cases h
      rw [complete_eq_ok] at ha
      obtain ⟨vs, hvs, ⟨rfl, rfl⟩ | ⟨b', t, hb', ht, rfl⟩⟩ := elements_eq_ok hsh helements hclose
      · obtain ⟨b', hb', rfl⟩ := closeList_eq_ok hclose
        exact ⟨b, _, hb, .list (.none hb') hvs ha, by simp⟩
      · exact ⟨b, _, hb, .list (.some ht) hvs ha, by simp⟩
    · cases h
  complete := by
    rintro _ a b r (⟨hV, hms, ha⟩ | ⟨hV, hvs, ha⟩) hb -
    · cases hV with
      | none hb' =>
        cases hms
        exact read_object hb ha (members_end (nextMember_close hb' true r))
      | some ht =>
        have hlength := length_joined ht
        refine read_object hb ha (members_append hsh ht hms ?_ rfl)
        simp only [List.length_append, List.length_cons]
        omega
    · cases hV with
      | none hb' =>
        generalize hfs : sh.fields = fs at hvs
        cases hvs
        refine read_list hb ha ?_ (closeList_append hb' r)
        rw [hfs]
        rfl
      | some ht =>
        obtain ⟨b', hb', helements⟩ := elements_append hsh ht hvs rfl
        exact read_list hb ha helements (closeList_append hb' r)

end Shape

end Switchboard.Json
