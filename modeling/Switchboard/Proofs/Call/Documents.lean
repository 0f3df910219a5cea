import Switchboard.Call.ResultDocument
import Switchboard.Proofs.Settings.Documents

namespace Switchboard

open Json Shape

variable {s r V : List Char}

namespace CallStatus

variable {st : CallStatus}

inductive Means : List Char → CallStatus → Prop
  | name {k : List Char} {st : CallStatus} (hk : Spells k st.name.toList) :
      Means ('"' :: (k ++ ['"'])) st
  | object {V : List Char} {st : CallStatus}
      (hV : IsObject Spells [(st.name.toList, "null".toList)] V) : Means V st

lemma ofName_name (st : CallStatus) : ofName? (String.ofList st.name.toList) = some st := by
  cases st <;> decide

lemma isPlain_of_mem_name (st : CallStatus) : ∀ c ∈ st.name.toList, IsPlain c := by
  cases st <;> decide

lemma name_of_ofName {name : String} (h : ofName? name = some st) : st.name = name := by
  have hfound := List.find?_some h
  exact eq_of_beq hfound

lemma ofText_append {k : List Char} (hk : Spells k st.name.toList) (r : List Char) :
    ofText (k ++ '"' :: r) = .ok (st, r) := by
  simp only [ofText, text_append hk, bind, Except.bind, ofName_name]

lemma ofText_eq_ok (h : ofText s = .ok (st, r)) :
    ∃ k, Spells k st.name.toList ∧ s = k ++ '"' :: r := by
  obtain ⟨⟨name, r'⟩, htext, hname⟩ := bind_eq_ok h
  obtain ⟨k, hk, hs⟩ := text_eq_ok htext
  dsimp only at hname
  split at hname
  · rename_i hfind
    cases hname
    rw [name_of_ofName hfind, String.toList_ofList]
    exact ⟨k, hk, hs⟩
  · cases hname

lemma isValue_null : IsValue "null".toList := .word (by decide)

lemma reads : Reads read Means where
  isValue := by
    rintro V st (hk | hV)
    · exact .text hk.isText
    · exact isValue_object hV (List.forall_mem_singleton.2 isValue_null)
  sound := by
    intro s st r h
    rw [read] at h
    split at h
    · cases h
    · obtain ⟨b, hb, rfl⟩ := exists_blanks_of_skipBlank ‹_›
      obtain ⟨k, hk, rfl⟩ := ofText_eq_ok h
      exact ⟨b, _, hb, .name hk, by simp⟩
    · obtain ⟨b, hb, rfl⟩ := exists_blanks_of_skipBlank ‹_›
      dsimp only at h
      split at h
      · cases h
      · obtain ⟨b₁, hb₁, rfl⟩ := exists_blanks_of_skipBlank ‹_›
        obtain ⟨⟨st', s₁⟩, hname, h⟩ := bind_eq_ok h
        obtain ⟨s₂, hcolon, h⟩ := bind_eq_ok h
        dsimp only at h
        split at h
        · cases h
        · obtain ⟨b₃, hb₃, rfl⟩ := exists_blanks_of_skipBlank ‹_›
          obtain ⟨s₃, hword, h⟩ := bind_eq_ok h
          split at h
          · cases h
          · obtain ⟨b₄, hb₄, rfl⟩ := exists_blanks_of_skipBlank ‹_›
            cases h
            obtain ⟨k, hk, rfl⟩ := ofText_eq_ok hname
            obtain ⟨b₂, hb₂, rfl⟩ := colon_eq_ok hcolon
            obtain rfl := word_eq_ok hword
            have hmember : IsMember Spells (st.name.toList, "null".toList) _ :=
              .mk hk hb₁ hb₂ hb₃ hb₄
            exact ⟨b, _, hb, .object (.some (.one hmember)), by simp⟩
          · cases h
        · cases h
      · cases h
    · cases h
  complete := by
    rintro _ st b r (hk | hV) hb -
    · simp only [List.cons_append, List.append_assoc, List.nil_append, read, skipBlank_append hb]
      exact ofText_append hk r
    · cases hV with
      | some ht =>
      cases ht with
      | more _ ht => cases ht
      | one hm =>
      obtain ⟨hk, hb₁, hb₂, hb₃, hb₄⟩ := hm
      have hbrace (s : List Char) : skipBlank ('{' :: s) = '{' :: s := skipBlank_cons rfl s
      have hquote (s : List Char) : skipBlank ('"' :: s) = '"' :: s := skipBlank_cons rfl s
      have hclose (s : List Char) : skipBlank ('}' :: s) = '}' :: s := skipBlank_cons rfl s
      have hsplit : "null".toList = 'n' :: "ull".toList := by decide
      have hnull := isValue_null.skipBlank_append hb₃
      simp only [List.cons_append, List.append_assoc, List.nil_append, read, skipBlank_append hb,
        hbrace, skipBlank_append hb₁, hquote, ofText_append hk, bind, Except.bind,
        colon_append hb₂, hnull]
      simp only [hsplit, List.cons_append, word_append, skipBlank_append hb₄, hclose]

end CallStatus

namespace Duration

lemma readsFields : shape.ReadsFields := by
  intro f hf d
  simp only [shape, List.mem_cons, List.not_mem_nil, or_false] at hf
  rcases hf with rfl | rfl
  · exact ((natural_reads (Nat.le_refl _)).map fun n => { d with secs := some n }).self
  · have hsize : UInt32.size ≤ UInt64.size := by decide
    exact ((natural_reads hsize).map fun n => { d with nanos := some n }).self

lemma ofNanos_nanos (d : Duration) : ofNanos? (d.seconds * second + d.subsecond) = some d := by
  have hnanos : d.seconds * second + d.subsecond = d.nanos := Nat.div_add_mod' ..
  rw [hnanos, ofNanos?, dif_pos d.lt_limit]

lemma seconds_lt (d : Duration) : d.seconds < UInt64.size :=
  Nat.div_lt_of_lt_mul (Nat.mul_comm .. ▸ d.lt_limit)

lemma subsecond_lt (d : Duration) : d.subsecond < UInt32.size :=
  (Nat.mod_lt _ (by decide)).trans (by decide)

lemma finish_eq (secs nanos : Option Nat) : Draft.finish ⟨secs, nanos⟩ =
    secs.bind fun k => nanos.bind fun n => ofNanos? (k * second + n) :=
  rfl

lemma finish_drafted (d : Duration) :
    Draft.finish ⟨some d.seconds, some d.subsecond⟩ = some d := by
  rw [finish_eq, Option.bind_some, Option.bind_some, ofNanos_nanos]

lemma means_document (d : Duration) : shape.Means d.document d := by
  have hsize : UInt32.size ≤ UInt64.size := by decide
  have hsecs : shape.Takes shape.blank ("secs".toList, Decimal.digits d.seconds)
      ⟨some d.seconds, none⟩ :=
    .field rfl rfl ((natural_reads (Nat.le_refl _)).reading_map
      (fun n => (⟨some n, none⟩ : Draft)) ⟨d.seconds_lt, rfl⟩)
  have hnanos : shape.Takes ⟨some d.seconds, none⟩ ("nanos".toList, Decimal.digits d.subsecond)
      ⟨some d.seconds, some d.subsecond⟩ :=
    .field rfl rfl ((natural_reads hsize).reading_map
      (fun n => (⟨some d.seconds, some n⟩ : Draft)) ⟨d.subsecond_lt, rfl⟩)
  refine .object (isObject_object ?_) (.cons hsecs (.cons hnanos .nil)) d.finish_drafted
  simp only [List.forall_mem_cons]
  decide

end Duration

namespace CallResult

lemma readsFields : shape.ReadsFields := by
  intro f hf d
  simp only [shape, List.mem_cons, List.not_mem_nil, or_false] at hf
  rcases hf with rfl | rfl | rfl
  · exact (CallStatus.reads.map fun v => { d with status := some v }).self
  · exact ((Shape.reads Duration.readsFields).map fun v => { d with duration := some v }).self
  · exact ((natural_reads (Nat.le_refl _)).map
      fun n => { d with callId := some (UInt64.ofNat n) }).self

lemma means_document (r : CallResult) : shape.Means r.document r := by
  have hstatus : shape.Takes shape.blank ("status".toList, r.status.document)
      ⟨some r.status, none, none⟩ :=
    .field rfl rfl (CallStatus.reads.reading_map
      (fun v => (⟨some v, none, none⟩ : Draft)) (.name (spells_self r.status.isPlain_of_mem_name)))
  have hduration : shape.Takes ⟨some r.status, none, none⟩
      ("call_duration".toList, r.duration.document) ⟨some r.status, some r.duration, none⟩ :=
    .field rfl rfl ((Shape.reads Duration.readsFields).reading_map
      (fun v => (⟨some r.status, some v, none⟩ : Draft)) r.duration.means_document)
  have hcallId : shape.Takes ⟨some r.status, some r.duration, none⟩
      ("call_id".toList, Decimal.digits r.callId.toNat)
      ⟨some r.status, some r.duration, some (UInt64.ofNat r.callId.toNat)⟩ :=
    .field rfl rfl ((natural_reads (Nat.le_refl _)).reading_map
      (fun n => (⟨some r.status, some r.duration, some (UInt64.ofNat n)⟩ : Draft))
      ⟨r.callId.toNat_lt, rfl⟩)
  rw [UInt64.ofNat_toNat] at hcallId
  refine .object (isObject_object ?_) (.cons hstatus (.cons hduration (.cons hcallId .nil))) rfl
  simp only [List.forall_mem_cons]
  decide

lemma ofDocument_document (r : CallResult) : ofDocument r.document = .ok r :=
  (Shape.reads readsFields).document.2 ⟨_, r.means_document, .self _⟩

end CallResult

lemma injective_of_ofDocument {ε α β : Type} {write : α → β} {read : β → Except ε α}
    (h : ∀ a, read (write a) = .ok a) : Function.Injective write := by
  intro a a' heq
  have hread := h a
  rw [heq, h a'] at hread
  exact (Except.ok.inj hread).symm

theorem documents_read_back :
    (∀ v : Settings, Settings.ofDocument v.document = .ok v) ∧
    (∀ r : CallResult, CallResult.ofDocument r.document = .ok r) ∧
    Function.Injective Settings.document ∧ Function.Injective CallResult.document ∧
    (∀ s, (Settings.ofDocument s >>= fun v => Settings.ofDocument v.document) =
      Settings.ofDocument s) ∧
    ∀ s, (CallResult.ofDocument s >>= fun r => CallResult.ofDocument r.document) =
      CallResult.ofDocument s := by
  have settled {α : Type} {write : α → List Char} {read : List Char → Except DocumentFault α}
      (h : ∀ a, read (write a) = .ok a) (s : List Char) :
      (read s >>= fun a => read (write a)) = read s := by
    cases hs : read s with
    | error e => rfl
    | ok a => exact h a
  exact ⟨Settings.ofDocument_document, CallResult.ofDocument_document,
    injective_of_ofDocument Settings.ofDocument_document,
    injective_of_ofDocument CallResult.ofDocument_document,
    settled Settings.ofDocument_document, settled CallResult.ofDocument_document⟩

end Switchboard
