import Switchboard.RecordFile
import Switchboard.Proofs.Records.Moments

/-! The line of a record and its fields. Only the number of the caller can put a semicolon or a line
break into a field, so a record is read back from its line just when the number has neither. -/

namespace Switchboard

def IsPlain (cs : List Char) : Prop := ∀ c ∈ cs, c ≠ ';' ∧ c ≠ '\n'

instance (cs : List Char) : Decidable (IsPlain cs) :=
  decidable_of_iff (cs.all fun c => c != ';' && c != '\n') (by simp [IsPlain])

section

variable {cs ds : List Char} {c : Char}

lemma isPlain_nil : IsPlain [] := nofun

lemma isPlain_cons : IsPlain (c :: cs) ↔ (c ≠ ';' ∧ c ≠ '\n') ∧ IsPlain cs :=
  List.forall_mem_cons

lemma isPlain_append : IsPlain (cs ++ ds) ↔ IsPlain cs ∧ IsPlain ds :=
  List.forall_mem_append

lemma isPlain_iff : IsPlain cs ↔ ';' ∉ cs ∧ '\n' ∉ cs := by
  constructor
  · intro h
    exact ⟨fun hm => (h _ hm).1 rfl, fun hm => (h _ hm).2 rfl⟩
  · intro ⟨hsemicolon, hbreak⟩ c hc
    exact ⟨fun heq => hsemicolon (heq ▸ hc), fun heq => hbreak (heq ▸ hc)⟩

lemma isPlain_padded (width n : Nat) : IsPlain (Decimal.padded width n) := by
  intro c hc
  have hdigit := Decimal.isDigit_of_mem_padded hc
  refine ⟨?_, ?_⟩ <;>
  · rintro rfl
    cases hdigit

lemma isPlain_digits (n : Nat) : IsPlain (Decimal.digits n) :=
  Decimal.padded_zero n ▸ isPlain_padded 0 n

lemma splitOn_eq_singleton_iff : (∃ x, cs.splitOn c = [x]) ↔ c ∉ cs := by
  constructor
  · intro ⟨x, hx⟩ hc
    obtain ⟨as, bs, rfl⟩ := List.append_of_mem hc
    have hlength := congrArg List.length hx
    have ha := List.length_pos_iff.2 (List.splitOn_ne_nil c as)
    have hb := List.length_pos_iff.2 (List.splitOn_ne_nil c bs)
    rw [List.splitOn_append_cons_self, List.length_append, List.length_singleton] at hlength
    omega
  · intro hc
    exact ⟨cs, List.splitOn_eq_singleton hc⟩

end

namespace Timestamp

lemma isPlain_yearText (y : Int) : IsPlain (yearText y) := by
  rw [yearText]
  split
  · exact isPlain_padded 4 _
  · refine isPlain_cons.2 ⟨?_, isPlain_padded 4 _⟩
    split <;> decide

lemma isPlain_text (t : Timestamp) : IsPlain t.text := by
  simp only [text, isPlain_append, isPlain_cons, isPlain_yearText, isPlain_padded]
  decide

lemma text_ne_nil (t : Timestamp) : t.text ≠ [] := by
  intro h
  simp only [text, List.append_assoc, List.append_eq_nil_iff, reduceCtorEq, and_false] at h

def optional? : List Char → Option (Option Timestamp)
  | [] => some none
  | c :: cs => (read? (c :: cs)).map some

lemma optional?_text (t : Option Timestamp) :
    optional? ((t.map text).getD []) = some (t.map printed) := by
  cases t with
  | none => rfl
  | some t =>
    have hread := read?_text t
    simp only [Option.map_some, Option.getD_some]
    cases htext : t.text with
    | nil => exact absurd htext (text_ne_nil t)
    | cons c cs =>
      rw [htext] at hread
      rw [optional?, hread]
      rfl

lemma isPlain_optional (t : Option Timestamp) : IsPlain ((t.map text).getD []) := by
  cases t with
  | none => exact isPlain_nil
  | some t => exact isPlain_text t

end Timestamp

namespace CallStatus

lemma ofName?_name (s : CallStatus) : ofName? s.name = some s := by
  cases s <;> decide

lemma isPlain_name (s : CallStatus) : IsPlain s.name.toList := by
  cases s <;> decide

end CallStatus

namespace Duration

def whole (d : Duration) : Duration :=
  ⟨d.seconds * second, Nat.lt_of_le_of_lt (Nat.div_mul_le_self ..) d.lt_limit⟩

def read? (cs : List Char) : Option Duration :=
  match Decimal.until? 's' cs with
  | some (n, []) => ofNanos? (n * second)
  | _ => none

lemma read?_seconds (d : Duration) :
    read? (Decimal.digits d.seconds ++ ['s']) = some d.whole := by
  have huntil : Decimal.until? 's' (Decimal.digits d.seconds ++ ['s']) = some (d.seconds, []) :=
    Decimal.padded_zero d.seconds ▸ Decimal.until?_padded (c := 's') (by decide) 0 d.seconds []
  rw [read?, huntil]
  exact dif_pos d.whole.lt_limit

end Duration

def Decimal.word? (cs : List Char) : Option UInt64 :=
  (value? cs).bind fun n => if n < UInt64.size then some (UInt64.ofNat n) else none

lemma Decimal.word?_digits (n : UInt64) : word? (digits n.toNat) = some n := by
  rw [word?, value?_digits, Option.bind_some, if_pos n.toNat_lt, UInt64.ofNat_toNat]

def RecordFile.Row.read? (row : Row) : Option CallRecord :=
  match row.fields with
  | [start, callId, number, ended, status, pickedUp, operatorId, duration] => do
    some
      { start := ← Timestamp.read? start
        callId := ← Decimal.word? callId
        number := String.ofList number
        ended := ← Timestamp.optional? ended
        status := ← CallStatus.ofName? (String.ofList status)
        pickedUp := ← Timestamp.optional? pickedUp
        operatorId := ← Decimal.word? operatorId
        duration := ← Duration.read? duration }
  | _ => none

namespace CallRecord

open RecordFile (Row)

variable {r : CallRecord}

def printed (r : CallRecord) : CallRecord :=
  { r with
    start := r.start.printed, ended := r.ended.map (·.printed)
    pickedUp := r.pickedUp.map (·.printed), duration := r.duration.whole }

def ending (r : CallRecord) : List (List Char) :=
  [ (r.ended.map Timestamp.text).getD [], r.status.name.toList
  , (r.pickedUp.map Timestamp.text).getD [], Decimal.digits r.operatorId.toNat
  , Decimal.digits r.duration.seconds ++ ['s'] ]

lemma line_eq (r : CallRecord) :
    r.line = r.start.text ++ ';' :: (Decimal.digits r.callId.toNat ++
      ';' :: (r.number.toList ++ ';' :: [';'].intercalate r.ending)) := by
  simp only [line, lineWith, fields, ending, List.intercalate_cons_cons, List.append_assoc,
    List.singleton_append]

lemma isPlain_ending (r : CallRecord) : ∀ field ∈ r.ending, IsPlain field := by
  have hseconds : IsPlain (Decimal.digits r.duration.seconds ++ ['s']) :=
    isPlain_append.2 ⟨isPlain_digits _, by decide⟩
  simp only [ending, List.forall_mem_cons, Timestamp.isPlain_optional, CallStatus.isPlain_name,
    isPlain_digits, hseconds, true_and]
  exact List.forall_mem_nil _

lemma splitOn_line (r : CallRecord) :
    r.line.splitOn ';' = [r.start.text, Decimal.digits r.callId.toNat] ++
      (r.number.toList.splitOn ';' ++ r.ending) := by
  have hstart := (isPlain_iff.1 r.start.isPlain_text).1
  have hcallId := (isPlain_iff.1 (isPlain_digits r.callId.toNat)).1
  have hending : ([';'].intercalate r.ending).splitOn ';' = r.ending :=
    List.splitOn_intercalate _ (fun field h => (isPlain_iff.1 (r.isPlain_ending field h)).1)
      (List.cons_ne_nil _ _)
  rw [line_eq, List.splitOn_append_cons_self_of_not_mem hstart,
    List.splitOn_append_cons_self_of_not_mem hcallId, List.splitOn_append_cons_self, hending]
  rfl

lemma break_mem_line (r : CallRecord) : '\n' ∈ r.line ↔ '\n' ∈ r.number.toList := by
  have hstart := (isPlain_iff.1 r.start.isPlain_text).2
  have hcallId := (isPlain_iff.1 (isPlain_digits r.callId.toNat)).2
  have hending : '\n' ∉ [';'].intercalate r.ending := by
    have hplain := r.isPlain_ending
    simp only [ending, List.forall_mem_cons, isPlain_iff] at hplain
    simp only [ending, List.intercalate_cons_cons, List.intercalate_singleton, List.mem_append,
      hplain]
    decide
  have hends : ('\n' = ';') = False := by decide
  simp only [line_eq, List.mem_append, List.mem_cons, hstart, hcallId, hending, hends, false_or,
    or_false]

lemma fields_length (h : ';' ∉ r.number.toList) : (r.line.splitOn ';').length = 8 := by
  rw [splitOn_line, List.splitOn_eq_singleton h]
  rfl

lemma read?_row (h : ';' ∉ r.number.toList) :
    Row.read? ⟨r.line.splitOn ';'⟩ = some r.printed := by
  rw [splitOn_line, List.splitOn_eq_singleton h]
  simp only [ending, List.cons_append, List.nil_append, Row.read?, Timestamp.read?_text,
    Decimal.word?_digits, Timestamp.optional?_text, String.ofList_toList,
    CallStatus.ofName?_name, Duration.read?_seconds, Option.bind_eq_bind, Option.bind_some]
  rfl

structure IsRow (r : CallRecord) : Prop where
  single : '\n' ∉ r.line
  length : (r.line.splitOn ';').length = 8
  third : (r.line.splitOn ';')[2]? = some r.number.toList
  fifth : (r.line.splitOn ';')[4]? = some r.status.name.toList

lemma isRow_iff : r.IsRow ↔ IsPlain r.number.toList := by
  rw [isPlain_iff]
  constructor
  · intro h
    refine ⟨splitOn_eq_singleton_iff.1 ?_, mt r.break_mem_line.2 h.single⟩
    have hlength := h.length
    have hending : r.ending.length = 5 := rfl
    simp only [splitOn_line, List.length_append, List.length_cons, List.length_nil] at hlength
    exact List.length_eq_one_iff.1 (by omega)
  · intro ⟨hsemicolon, hbreak⟩
    have hfields := r.splitOn_line
    rw [List.splitOn_eq_singleton hsemicolon] at hfields
    exact ⟨mt r.break_mem_line.1 hbreak, fields_length hsemicolon, by rw [hfields]; rfl,
      by rw [hfields]; rfl⟩

end CallRecord

end Switchboard
