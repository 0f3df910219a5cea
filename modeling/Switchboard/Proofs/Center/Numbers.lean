import Switchboard.Web
import Switchboard.Proofs.Center.Updates
import Switchboard.Proofs.Floor.Numbers
import Switchboard.Proofs.Records.Rows

/-! The number of a caller on its way to a line of the record file. It gets there as it was sent, so
a semicolon in it makes fields of its own and a line break in it makes a line of its own. -/

namespace Switchboard

lemma Floor.Led.exists_door {f : Floor} {o : Estate} {p : Nat} {running : Bool}
    (h : f.Led o p running) : ∃ id, f.door? p = some (o.queue, id) := by
  obtain ⟨pool, hp, hq, -⟩ := h.exists_pool
  obtain ⟨queue, hqueue, -⟩ := h.queue
  refine ⟨(f.nextId pool.ids).1, ?_⟩
  simp only [door?, hp, hq, queueOf?, Option.bind_some, hqueue]

namespace Bureau

variable {b : Bureau} {o : Estate} {k : Nat} {number : String}

lemma lists_submit (h : b.Fit o) (number : String) (now : Timestamp) :
    (b.act (.submit number now)).center.floor.exchange.Lists b.calls number := by
  obtain ⟨id, hd⟩ := h.led.exists_door
  exact h.sound.lists_bring hd b.center.dispatcher.bounds number now false now

lemma lists_act (h : b.Fit o) (hx : b.center.floor.exchange.Lists k number) (deed : Deed) :
    (b.act deed).center.floor.exchange.Lists k number := by
  obtain he | ⟨d, he⟩ := exchange_act h deed
  · rw [he]
    exact hx
  · rw [he]
    exact h.sound.lists_act hx d

lemma lists_run (h : b.Fit o) (hx : b.center.floor.exchange.Lists k number) (deeds : List Deed) :
    (b.run deeds).center.floor.exchange.Lists k number := by
  induction deeds generalizing b with
  | nil => exact hx
  | cons deed deeds ih => exact ih (fit_act h deed) (lists_act h hx deed)

end Bureau

namespace Web

lemma after?_append (start rest : List Char) : after? start (start ++ rest) = some rest := by
  induction start with
  | nil => rfl
  | cons c start ih => rw [List.cons_append, after?, if_pos rfl, ih]

lemma of_phone {target number : List Char} (h : pathOf target = phonePath ++ number) :
    Request.of "GET" target = .call (String.ofList number) := by
  simp only [Request.of, h, after?_append]
  rfl

lemma request_of_phone {number : String} (h : ∀ c ∈ number.toList, c ≠ '?' ∧ c ≠ '#') :
    Request.of "GET" (phonePath ++ number.toList) = .call number := by
  have hserver : onServer (phonePath ++ number.toList) = phonePath ++ number.toList := rfl
  have hpath : pathOf (phonePath ++ number.toList) = phonePath ++ number.toList := by
    have hphone : phonePath.all (fun c => c != '?' && c != '#') = true := by decide
    have hall : ∀ c ∈ phonePath ++ number.toList, (c != '?' && c != '#') = true := by
      intro c hc
      obtain hc | hc := List.mem_append.1 hc
      · exact List.all_eq_true.1 hphone c hc
      · simp [h c hc]
    rw [pathOf, hserver, ← List.append_nil (phonePath ++ _), List.takeWhile_append_of_pos hall]
    rfl
  rw [of_phone hpath, String.ofList_toList]

end Web

theorem number_decides_the_line {c : Center} (hc : c.Opens) (before : List Bureau.Deed)
    (number : String) (now : Timestamp) (after : List Bureau.Deed) (ending : List Floor.Deed) :
    let b := (Bureau.of c).run before
    let called := b.act (.submit number now)
    let x := (ending.foldl Floor.act (called.run after).center.floor).exchange
    (∀ target, Web.Request.of "GET" target = .call number →
      (Web.serve b.center now (.of "GET" target)).2 = called.center) ∧
    ((∀ ch ∈ number.toList, ch ≠ '?' ∧ ch ≠ '#') →
      Web.Request.of "GET" (Web.phonePath ++ number.toList) = .call number) ∧
    (∃ r, x.HasRecord b.calls r) ∧
    ∀ r, x.HasRecord b.calls r → r.number = number ∧
      r.line.splitOn ';' = [r.start.text, Decimal.digits r.callId.toNat] ++
        (number.toList.splitOn ';' ++ r.ending) ∧
      ('\n' ∈ r.line ↔ '\n' ∈ number.toList) ∧ (r.IsRow ↔ IsPlain number.toList) := by
  intro b called x
  obtain ⟨o, hopen⟩ := Bureau.fit_of_opens hc
  have h : b.Fit o := Bureau.fit_run hopen before
  have hcalled : called.Fit o := Bureau.fit_act h _
  have hlists : x.Lists b.calls number :=
    (Bureau.fit_run hcalled after).sound.lists_run
      (Bureau.lists_run hcalled (Bureau.lists_submit h number now) after) ending
  refine ⟨fun target htarget => ?_, Web.request_of_phone, hlists.kept, fun r hr => ?_⟩
  · rw [htarget]
    rfl
  · have hnumber : r.number = number := hlists.number_eq hr
    exact ⟨hnumber, hnumber ▸ r.splitOn_line, hnumber ▸ r.break_mem_line, hnumber ▸ r.isRow_iff⟩

theorem number_decides_the_line_of_a_waiting_call :
    let called := (Bureau.of Bureau.smallCenter).run [.submit "555;0100" Bureau.noon]
    let x := ([.close 0].foldl Floor.act called.center.floor).exchange
    Bureau.smallCenter.Opens ∧ ∃ r, x.HasRecord 0 r ∧ r.number = "555;0100" ∧ ¬ r.IsRow := by
  intro called x
  have hf : Floor.furnished 1 (some 4) [] 1 = .ok Bureau.small := rfl
  have hc : Bureau.smallCenter.Opens := .around hf ..
  obtain ⟨-, -, ⟨r, hr⟩, h⟩ :=
    number_decides_the_line hc [] "555;0100" Bureau.noon [] [.close 0]
  obtain ⟨hnumber, -, -, hrow⟩ := h r hr
  exact ⟨hc, r, hr, hnumber, hrow.not.2 (by decide)⟩

def Bureau.crowdedCenter : Center :=
  .around ((Floor.furnished 1 (some 0) [] 1).toOption.getD .empty)
    (.fixed (.of ⟨1, 20, 1, 0⟩ false)) .zero ⟨.absent, 0⟩

theorem forged_line_of_a_refused_call :
    let number := "1;;Completed;;3;12s"
    let called := (Bureau.of Bureau.crowdedCenter).act (.submit number Bureau.noon)
    let target := Web.phonePath ++ number.toList
    Bureau.crowdedCenter.Opens ∧
      (Web.serve Bureau.crowdedCenter Bureau.noon (.of "GET" target)).2 = called.center ∧
      ∃ set r, called.center.floor.exchange.records = [(0, set, r)] ∧ r.number = number ∧
        r.status = .overloaded ∧ ¬ r.IsRow ∧
        let row : RecordFile.Row := ⟨r.line.splitOn ';'⟩
        row.fields.length = 13 ∧ row.number = "1".toList ∧ row.status = "Completed".toList ∧
          row.duration = "12s".toList := by
  intro number called target
  have hf : Floor.furnished 1 (some 0) [] 1 =
    .ok ((Floor.furnished 1 (some 0) [] 1).toOption.getD .empty) := rfl
  have hplain : number.toList.all (fun c => decide (c ≠ '?' ∧ c ≠ '#')) = true := by decide
  have hphone : Web.Request.of "GET" target = .call number :=
    Web.request_of_phone fun c hc => of_decide_eq_true (List.all_eq_true.1 hplain c hc)
  refine ⟨.around hf .., by rw [hphone]; rfl, _, _, rfl, rfl, rfl, ?_, by decide⟩
  rw [CallRecord.isRow_iff]
  decide

end Switchboard
