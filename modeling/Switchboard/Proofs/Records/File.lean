import Switchboard.Proofs.Records.Rows

/-! The file of records is read back. It only ever grows at its end, and the rows that were added to
it are the records that were written, in their order. -/

namespace Switchboard

namespace RecordFile

def IsWhole (file : List Char) : Prop := ∀ c ∈ file.getLast?, c = '\n'

instance (file : List Char) : Decidable (IsWhole file) :=
  decidable_of_iff (file.getLast?.all (· == '\n')) (by simp [IsWhole, Option.all_eq_true])

inductive Deed
  | opening
  | write (r : CallRecord)

namespace Deed

def lines : Deed → List (List Char)
  | opening => heading
  | write r => [r.line]

def record? : Deed → Option CallRecord
  | opening => none
  | write r => some r

end Deed

def act (file : List Char) : Deed → List Char
  | .opening => opened file
  | .write r => write file r

def run (file : List Char) (deeds : List Deed) : List Char := deeds.foldl act file

variable {file line : List Char}

lemma isWhole_addLine (file line : List Char) : IsWhole (addLine file line) := by
  intro c hc
  rw [addLine, List.getLast?_append, List.getLast?_singleton, Option.some_or] at hc
  exact (Option.some.inj hc).symm

lemma eq_of_isWhole (h : IsWhole file) : file = [] ∨ ∃ cs, file = cs ++ ['\n'] := by
  obtain rfl | ⟨cs, c, rfl⟩ := List.eq_nil_or_concat file
  · exact .inl rfl
  · rw [List.concat_eq_append] at h ⊢
    exact .inr ⟨cs, by rw [h c List.getLast?_concat]⟩

lemma lines_of_break (cs : List Char) : lines (cs ++ ['\n']) = cs.splitOn '\n' := by
  have hsplit : (cs ++ ['\n']).splitOn '\n' = cs.splitOn '\n' ++ [[]] :=
    List.splitOn_append_cons_self cs []
  simp only [lines, hsplit, List.getLast?_concat, beq_self_eq_true, if_true,
    List.dropLast_concat]

lemma lines_addLine (h : IsWhole file) (line : List Char) :
    lines (addLine file line) = lines file ++ line.splitOn '\n' := by
  rw [addLine, lines_of_break]
  obtain rfl | ⟨cs, rfl⟩ := eq_of_isWhole h
  · rfl
  · rw [List.append_assoc, List.singleton_append, List.splitOn_append_cons_self, lines_of_break]

lemma lines_addLines (h : IsWhole file) (added : List (List Char)) :
    lines (added.foldl addLine file) = lines file ++ added.flatMap (·.splitOn '\n') ∧
      IsWhole (added.foldl addLine file) := by
  induction added generalizing file with
  | nil => exact ⟨(List.append_nil _).symm, h⟩
  | cons line added ih =>
    obtain ⟨hlines, hwhole⟩ := ih (isWhole_addLine file line)
    refine ⟨?_, hwhole⟩
    rw [List.foldl_cons, hlines, lines_addLine h, List.flatMap_cons, List.append_assoc]

lemma addLines_eq (file : List Char) (added : List (List Char)) :
    added.foldl addLine file = file ++ added.flatMap (· ++ ['\n']) := by
  induction added generalizing file with
  | nil => exact (List.append_nil _).symm
  | cons line added ih =>
    rw [List.foldl_cons, ih, addLine, List.flatMap_cons, List.append_assoc, List.append_assoc,
      List.append_assoc]

lemma run_eq_addLines (file : List Char) (deeds : List Deed) :
    run file deeds = (deeds.flatMap Deed.lines).foldl addLine file := by
  induction deeds generalizing file with
  | nil => rfl
  | cons deed deeds ih =>
    rw [List.flatMap_cons, List.foldl_append, run, List.foldl_cons]
    cases deed <;> exact ih _

lemma mem_heading : ∀ line ∈ heading, isHeading line = true ∧ '\n' ∉ line := by
  have hrule : isHeading rule = true ∧ '\n' ∉ rule := by
    refine ⟨rfl, fun h => ?_⟩
    cases (List.mem_replicate.1 h).2
  have hcolumns : isHeading columns = true ∧ '\n' ∉ columns := by decide +kernel
  exact List.forall_mem_cons.2 ⟨hrule, List.forall_mem_cons.2 ⟨hcolumns,
    List.forall_mem_cons.2 ⟨hrule, List.forall_mem_nil _⟩⟩⟩

lemma isHeading_line (r : CallRecord) : isHeading r.line = false := by
  -- The line begins with a year, and that with a sign or a digit.
  have hyear : ∃ c cs, Timestamp.yearText r.start.year = c :: cs ∧ c ≠ '#' := by
    have hpadded (n : Nat) : ∃ c cs, Decimal.padded 4 n = c :: cs ∧ c ≠ '#' := by
      cases hp : Decimal.padded 4 n with
      | nil => exact absurd hp (Decimal.padded_ne_nil 4 n)
      | cons c cs =>
        refine ⟨c, cs, rfl, ?_⟩
        rintro rfl
        cases Decimal.isDigit_of_mem_padded (hp ▸ List.mem_cons_self : '#' ∈ Decimal.padded 4 n)
    rw [Timestamp.yearText]
    split
    · exact hpadded _
    · refine ⟨_, _, rfl, ?_⟩
      split <;> decide
  obtain ⟨c, cs, htext, hc⟩ := hyear
  simp only [isHeading, CallRecord.line_eq, Timestamp.text, htext, List.cons_append,
    List.head?_cons, Option.some_beq_some, beq_eq_false_iff_ne]
  exact hc

def Deed.rows (deed : Deed) : List Row := (deed.record?.map fun r => ⟨r.line.splitOn ';'⟩).toList

lemma rows_lines (deed : Deed) :
    ((deed.lines.filter fun line => !isHeading line).map fun line => ⟨line.splitOn ';'⟩) =
      deed.rows := by
  cases deed with
  | opening =>
    have hnone : heading.filter (fun line => !isHeading line) = [] := by
      apply List.filter_eq_nil_iff.2
      intro line hline
      simp [(mem_heading line hline).1]
    simp only [Deed.lines, hnone]
    rfl
  | write r =>
    simp only [Deed.lines, List.filter_cons, isHeading_line]
    rfl

lemma splitOn_lines {deed : Deed} (h : ∀ r ∈ deed.record?, '\n' ∉ r.number.toList) :
    deed.lines.flatMap (·.splitOn '\n') = deed.lines := by
  have hsingle : ∀ line ∈ deed.lines, line.splitOn '\n' = [line] := by
    intro line hline
    apply List.splitOn_eq_singleton
    cases deed with
    | opening => exact (mem_heading line hline).2
    | write r =>
      obtain rfl := List.mem_singleton.1 hline
      exact fun hbreak => h r rfl ((r.break_mem_line).1 hbreak)
  rw [List.flatMap_def, List.map_congr_left hsingle, ← List.flatMap_def, List.flatMap_singleton']

lemma flatMap_lines {deeds : List Deed}
    (h : ∀ r ∈ deeds.filterMap Deed.record?, '\n' ∉ r.number.toList) :
    (deeds.flatMap Deed.lines).flatMap (·.splitOn '\n') = deeds.flatMap Deed.lines := by
  rw [List.flatMap_assoc, List.flatMap_def, List.flatMap_def]
  congr 1
  refine List.map_congr_left fun deed hdeed => splitOn_lines fun r hr => ?_
  exact h r (List.mem_filterMap.2 ⟨deed, hdeed, hr⟩)

lemma rows_flatMap (deeds : List Deed) :
    (((deeds.flatMap Deed.lines).filter fun line => !isHeading line).map
        fun line => ⟨line.splitOn ';'⟩) =
      (deeds.filterMap Deed.record?).map fun r : CallRecord => Row.mk (r.line.splitOn ';') := by
  induction deeds with
  | nil => rfl
  | cons deed deeds ih =>
    rw [List.flatMap_cons, List.filter_append, List.map_append, ih, rows_lines, Deed.rows]
    cases deed <;> rfl

lemma rows_eq_of_lines {file after : List Char} {added : List (List Char)}
    (h : lines after = lines file ++ added) :
    rows after = rows file ++
      (added.filter fun line => !isHeading line).map fun line => ⟨line.splitOn ';'⟩ := by
  rw [rows, h, List.filter_append, List.map_append, rows]

lemma mapM_read? {records : List CallRecord} (h : ∀ r ∈ records, ';' ∉ r.number.toList) :
    (records.map fun r => Row.mk (r.line.splitOn ';')).mapM Row.read? =
      some (records.map CallRecord.printed) := by
  induction records with
  | nil => rfl
  | cons r records ih =>
    obtain ⟨hr, hrecords⟩ := List.forall_mem_cons.1 h
    rw [List.map_cons, List.mapM_cons, CallRecord.read?_row hr, ih hrecords]
    rfl

/-- A file of records only grows, by the lines of each heading and by the line of each record. When
the numbers have no semicolons and no line breaks, the rows that were added are the records. -/
theorem records_read_back_from_file {file : List Char} (whole : IsWhole file) (deeds : List Deed) :
    let added := deeds.flatMap Deed.lines
    let records := deeds.filterMap Deed.record?
    run file deeds = file ++ added.flatMap (· ++ ['\n']) ∧
      (heading.length = 3 ∧ ∀ line ∈ heading, isHeading line = true ∧ '\n' ∉ line) ∧
      (∀ r ∈ records, isHeading r.line = false ∧
        ('\n' ∉ r.number.toList → '\n' ∉ r.line)) ∧
      ((∀ r ∈ records, IsPlain r.number.toList) →
        lines (run file deeds) = lines file ++ added ∧
        ∃ new, rows (run file deeds) = rows file ++ new ∧ (∀ row ∈ new, row.fields.length = 8) ∧
          new.mapM Row.read? = some (records.map CallRecord.printed)) := by
  intro added records
  have hrun : run file deeds = added.foldl addLine file := run_eq_addLines file deeds
  have hlines := (lines_addLines whole added).1
  refine ⟨hrun.trans (addLines_eq file added), ⟨rfl, mem_heading⟩, fun r _ => ?_, fun hplain => ?_⟩
  · exact ⟨isHeading_line r, mt r.break_mem_line.1⟩
  have hsemicolon : ∀ r ∈ records, ';' ∉ r.number.toList :=
    fun r hr => (isPlain_iff.1 (hplain r hr)).1
  rw [flatMap_lines fun r hr => (isPlain_iff.1 (hplain r hr)).2, ← hrun] at hlines
  refine ⟨hlines, _, rows_eq_of_lines hlines, ?_, ?_⟩
  · rw [rows_flatMap]
    intro row hrow
    obtain ⟨r, hr, rfl⟩ := List.mem_map.1 hrow
    exact r.fields_length (hsemicolon r hr)
  · rw [rows_flatMap]
    exact mapM_read? hsemicolon

def earlyRecord : CallRecord :=
  let start : Timestamp :=
    ⟨-44, .last 11, .last 30, .last 23, .last 59, .last 60, .last 999999999⟩
  { CallRecord.opened "+7 (916)" start with callId := 12 }

theorem early_record_reads_back :
    let added := [Deed.opening, .write earlyRecord, .opening].flatMap Deed.lines
    IsWhole "##\n".toList ∧ IsPlain earlyRecord.number.toList ∧
      lines (run "##\n".toList [.opening, .write earlyRecord, .opening]) =
        lines "##\n".toList ++ added ∧
      earlyRecord.line = "-0044-12-31 23:59:60.999;12;+7 (916);;Awaiting;;0;0s".toList ∧
      ∃ new, rows (run "##\n".toList [.opening, .write earlyRecord, .opening]) =
          rows "##\n".toList ++ new ∧
        new.mapM Row.read? = some [earlyRecord.printed] := by
  have hwhole : IsWhole "##\n".toList := by decide
  have hplain : IsPlain earlyRecord.number.toList := by decide
  obtain ⟨-, -, -, h⟩ :=
    records_read_back_from_file hwhole [.opening, .write earlyRecord, .opening]
  obtain ⟨hlines, new, hrows, -, hread⟩ := h (List.forall_mem_singleton.2 hplain)
  exact ⟨hwhole, hplain, hlines, by decide, new, hrows, hread⟩

end RecordFile

end Switchboard
