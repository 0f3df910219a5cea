import Switchboard.Proofs.Center.Identifiers
import Switchboard.Proofs.Center.Numbers

namespace Switchboard

lemma Floor.counts_bring (f : Floor) (p : Nat) (bounds : ServiceBounds) (number : String)
    (start : Timestamp) (taken : Bool) (now : Timestamp) :
    let x := (f.bring p bounds number start taken now).1.exchange
    x.tasks.length = f.exchange.tasks.length + 1 ∧ x.promises = f.exchange.promises + 1 := by
  intro x
  cases hd : f.door? p with
  | none =>
    have hx : x = _ := congrArg exchange (bring_of_no_door bounds number start now hd taken)
    obtain ⟨hkeeps, -⟩ := (f.exchange.welcome
      (.newcomer f.exchange.promises bounds number start taken)).releaseAll_spec
        [f.exchange.tasks.length] now
    rw [hx]
    exact ⟨hkeeps.length.trans (length_welcome ..), hkeeps.promises⟩
  | some door =>
    obtain ⟨q, id⟩ := door
    obtain ⟨_, _, _, _, _, _, _, _, _, _, _, _, _, departs⟩ :=
      bring_arrives bounds number start now hd taken
    exact ⟨departs.length.trans (length_welcome ..), departs.promises⟩

namespace Web

variable {c : Center} {method : String} {target number rest : List Char} {now : Timestamp}

lemma eq_append_of_after? {start path : List Char} (h : after? start path = some rest) :
    path = start ++ rest := by
  induction start generalizing path with
  | nil => exact Option.some.inj h
  | cons d start ih =>
    cases path with
    | nil => cases h
    | cons e path =>
      rw [after?] at h
      split at h
      · subst d
        exact congrArg (e :: ·) (ih h)
      · cases h

lemma after?_eq_none {start path : List Char} (h : ¬ start <+: path) :
    after? start path = none := by
  cases ha : after? start path with
  | none => rfl
  | some rest => exact absurd ⟨rest, (eq_append_of_after? ha).symm⟩ h

lemma of_update (h : pathOf target = updatePath ++ rest) : Request.of "GET" target = .update := by
  have hphone : after? phonePath (updatePath ++ rest) = none := rfl
  simp only [Request.of, h, after?_append, hphone]
  rfl

lemma of_other (h : method = "GET" →
    ¬ phonePath <+: pathOf target ∧ ¬ updatePath <+: pathOf target) :
    Request.of method target = .other := by
  rw [Request.of]
  by_cases hm : method = "GET"
  · obtain ⟨hphone, hupdate⟩ := h hm
    simp [hm, after?_eq_none hphone, after?_eq_none hupdate]
  · simp [hm]

inductive Answers (id : CallId) : Option (Option Outcome) → Option Response → Prop
  | waiting : Answers id none none
  | done (r : CallResult) :
      Answers id (some (some (.ok r))) (some ⟨statusCode r.status, callBody r⟩)
  | failed (e : DispatchError) :
      Answers id (some (some (.error e))) (some ⟨500, s!"CallID: {id}\n Error: {e.message}\n"⟩)
  | withdrawn :
      Answers id (some none)
        (some ⟨500, s!"CallID: {id}\n Error: {CallFuture.closed.message}\n"⟩)

structure Calls (c : Center) (now : Timestamp) (number : String)
    (served : Except Crash Reply × Center) : Prop where
  state : served.2 = (c.submit number now).2
  frame : served.2 = { c with floor := served.2.floor }
  task : served.2.floor.exchange.tasks.length = c.floor.exchange.tasks.length + 1
  promise : served.2.floor.exchange.promises = c.floor.exchange.promises + 1
  crashed : ∀ crash, (c.submit number now).1 = .error crash → served.1 = .error crash
  refused : ∀ e, (c.submit number now).1 = .ok (.error e) →
    served.1 = .ok (.now ⟨500, s!"Call refused: {e.message}\n"⟩)
  accepted : ∀ ticket, (c.submit number now).1 = .ok (.ok ticket) →
    served.1 = .ok (.later ticket) ∧ ticket.future = .of c.floor.exchange.promises ∧
      ∃ q, c.floor.door? c.dispatcher.pool = some (q, ticket.callId)

structure Renews (c : Center) (now : Timestamp) (served : Except Crash Reply × Center) : Prop where
  state : served.2 = (c.reconfigure now).2
  done : (c.reconfigure now).1 = .ok true → served.1 = .ok (.now ⟨200, "Updated"⟩)
  undone : (c.reconfigure now).1 ≠ .ok true → served.1 = .ok (.now ⟨403, "Could not update"⟩)

lemma response?_later (id : CallId) (p : PromiseId) (log : Log) :
    (Reply.later ⟨id, .of p⟩).response? log =
      (log.ending? p).map fun o => .ofOutcome id (o.getD (.error CallFuture.closed)) := by
  rw [Reply.response?, CallFuture.tryResult, CallFuture.of]
  cases log.ending? p <;> rfl

lemma answers (id : CallId) (p : PromiseId) (log : Log) :
    Answers id (log.ending? p) ((Reply.later ⟨id, .of p⟩).response? log) := by
  rw [response?_later]
  cases log.ending? p with
  | none => exact .waiting
  | some e =>
    cases e with
    | none => exact .withdrawn
    | some o =>
      cases o with
      | ok r => exact .done r
      | error e => exact .failed e

lemma calls_serve (c : Center) (now : Timestamp) (number : String) :
    Calls c now number (serve c now (.call number)) := by
  obtain ⟨htask, hpromise⟩ := c.floor.counts_bring c.dispatcher.pool c.dispatcher.bounds number now
    false now
  refine ⟨rfl, rfl, htask, hpromise, ?_, ?_, ?_⟩
  · intro crash h
    simp only [serve, h]
    rfl
  · intro e h
    simp only [serve, h]
    rfl
  · intro ticket h
    have hbring := h
    rw [Center.submit_eq_bring] at hbring
    refine ⟨?_, Floor.bring_ticket _ _ _ _ hbring⟩
    simp only [serve, h]
    rfl

lemma renews_serve (c : Center) (now : Timestamp) : Renews c now (serve c now .update) := by
  refine ⟨rfl, fun h => ?_, fun h => ?_⟩
  · simp only [serve, h]
    rfl
  · rw [serve]
    generalize c.reconfigure now = r at h ⊢
    obtain ⟨reply, c'⟩ := r
    cases reply with
    | error crash => rfl
    | ok updated =>
      cases updated with
      | false => rfl
      | true => exact absurd rfl h

lemma response?_append {id : CallId} {p : PromiseId} {log : Log} {response : Response}
    (h : (Reply.later ⟨id, .of p⟩).response? log = some response) (more : Log) :
    (Reply.later ⟨id, .of p⟩).response? (log ++ more) = some response := by
  rw [response?_later] at h ⊢
  rw [Log.ending?_append]
  cases he : log.ending? p with
  | none =>
    rw [he] at h
    cases h
  | some e =>
    rw [he] at h
    exact h

lemma ticket_of_later {number : String} {served : Except Crash Reply × Center} {ticket : Ticket}
    (h : Calls c now number served) (hs : served.1 = .ok (.later ticket)) :
    ticket.future = .of c.floor.exchange.promises := by
  cases hsubmit : (c.submit number now).1 with
  | error crash => cases (h.crashed crash hsubmit).symm.trans hs
  | ok reply =>
    cases reply with
    | error e => cases (h.refused e hsubmit).symm.trans hs
    | ok ticket' =>
      obtain ⟨hlater, hfuture, -⟩ := h.accepted ticket' hsubmit
      obtain rfl : ticket' = ticket := by simpa using hlater.symm.trans hs
      exact hfuture

end Web

namespace Bureau

variable {b : Bureau} {o : Estate}

lemma proper (h : b.Fit o) : b.center.floor.exchange.Proper := by
  obtain ⟨admissions, hs⟩ := h.sound
  exact Accounted.proper hs

lemma response?_eq (h : b.Fit o) (number : String) (now : Timestamp) (later : List Deed)
    (id : CallId) :
    let reply := Web.Reply.later ⟨id, .of b.center.floor.exchange.promises⟩
    let x := ((b.act (.submit number now)).run later).center.floor.exchange
    reply.response? x.log = reply.response? (x.story b.calls) := by
  intro reply x
  have hx : x.Proper := proper (fit_run (fit_act h _) later)
  have hpromise : b.center.floor.exchange.promises = b.calls := by
    obtain ⟨admissions, hs⟩ := h.sound
    exact Accounted.promises hs
  simp only [reply, Web.response?_later, hpromise, hx.ending?_log]

end Bureau

theorem requests_do_as_their_path_begins (c : Center) (now : Timestamp) (method : String)
    (target : List Char) :
    let served := Web.serve c now (.of method target)
    let path := Web.pathOf target
    (∀ number, method = "GET" → path = Web.phonePath ++ number →
      Web.Calls c now (String.ofList number) served ∧
      ∀ ticket, served.1 = .ok (.later ticket) →
        (∀ log, Web.Answers ticket.callId (log.ending? c.floor.exchange.promises)
          ((Web.Reply.later ticket).response? log)) ∧
        (∀ log response, (Web.Reply.later ticket).response? log = some response →
          ∀ more, (Web.Reply.later ticket).response? (log ++ more) = some response) ∧
        ∀ first before, first.Opens → c = ((Bureau.of first).run before).center → ∀ later,
          let b := ((Bureau.of first).run before).act (.submit (String.ofList number) now)
          let x := (b.run later).center.floor.exchange
          let k := c.floor.exchange.tasks.length
          served.2 = b.center ∧ x.Lists k (String.ofList number) ∧
            (Web.Reply.later ticket).response? x.log =
              (Web.Reply.later ticket).response? (x.story k)) ∧
    (∀ rest, method = "GET" → path = Web.updatePath ++ rest → Web.Renews c now served) ∧
    ((method = "GET" → ¬ Web.phonePath <+: path ∧ ¬ Web.updatePath <+: path) →
      served = (.ok (.now ⟨404, "Not Found"⟩), c)) := by
  intro served path
  refine ⟨?_, ?_, ?_⟩
  · rintro number rfl hpath
    have hserved : served = Web.serve c now (.call (String.ofList number)) := by
      rw [← Web.of_phone hpath]
    have hcalls : Web.Calls c now (String.ofList number) served :=
      hserved ▸ Web.calls_serve c now (String.ofList number)
    refine ⟨hcalls, ?_⟩
    rintro ⟨id, future⟩ hticket
    obtain rfl : future = _ := Web.ticket_of_later hcalls hticket
    refine ⟨Web.answers id _, fun _ _ => Web.response?_append, ?_⟩
    rintro first before hopen rfl later b x k
    obtain ⟨o, hfirst⟩ := Bureau.fit_of_opens hopen
    have h : ((Bureau.of first).run before).Fit o := Bureau.fit_run hfirst before
    refine ⟨hcalls.state, ?_, Bureau.response?_eq h _ now later id⟩
    exact Bureau.lists_run (Bureau.fit_act h _) (Bureau.lists_submit h _ now) later
  · rintro rest rfl hpath
    have hserved : served = Web.serve c now .update := by rw [← Web.of_update hpath]
    exact hserved ▸ Web.renews_serve c now
  · intro h
    have hserved : served = Web.serve c now .other := by rw [← Web.of_other h]
    exact hserved

theorem requests_do_as_their_path_begins_of_a_refused_call :
    let c := Bureau.crowdedCenter
    let served := Web.serve c Bureau.noon (.of "GET" (Web.phonePath ++ "555-0100".toList))
    let b := (Bureau.of c).act (.submit "555-0100" Bureau.noon)
    Web.Calls c Bureau.noon "555-0100" served ∧ served.1 = .ok (.later ⟨1, .of 0⟩) ∧
      (Web.Reply.later ⟨1, .of 0⟩).response? b.center.floor.exchange.log =
        some ⟨429, "CallID: 1 call duration: 0s\n Status: Overloaded\n"⟩ := by
  intro c served b
  have hf : Floor.furnished 1 (some 0) [] 1 =
    .ok ((Floor.furnished 1 (some 0) [] 1).toOption.getD .empty) := rfl
  obtain ⟨h, -, -⟩ := requests_do_as_their_path_begins c Bureau.noon "GET"
    (Web.phonePath ++ "555-0100".toList)
  obtain ⟨hcalls, hticket⟩ := h "555-0100".toList rfl (by decide)
  rw [String.ofList_toList] at hcalls hticket
  have hlater : served.1 = .ok (.later ⟨1, .of 0⟩) := (hcalls.accepted ⟨1, .of 0⟩ rfl).1
  obtain ⟨-, -, hown⟩ := hticket _ hlater
  obtain ⟨-, -, hx⟩ := hown c [] (.around hf ..) rfl []
  have hstory : (b.center.floor.exchange.story 0).ending? 0 =
      some (some (.ok ⟨.overloaded, .zero, 1⟩)) := rfl
  have hbody : Web.callBody ⟨.overloaded, .zero, 1⟩ =
      "CallID: 1 call duration: 0s\n Status: Overloaded\n" := by decide
  have hresponse : (Web.Reply.later ⟨1, .of 0⟩).response? (b.center.floor.exchange.story 0) =
      some ⟨429, Web.callBody ⟨.overloaded, .zero, 1⟩⟩ := by
    rw [Web.response?_later, hstory]
    rfl
  rw [hbody] at hresponse
  exact ⟨hcalls, hlater, hx.trans hresponse⟩

theorem updates_is_taken_for_update :
    let c := ((Bureau.of Bureau.smallCenter).act (.stage 0 ⟨3, 7, 1, 4⟩)).center
    let target := "/updates".toList
    let served := Web.serve c Bureau.noon (.of "GET" target)
    Web.pathOf target ≠ Web.updatePath ∧ ¬ Web.phonePath <+: Web.pathOf target ∧
      served.1 = .ok (.now ⟨200, "Updated"⟩) ∧ c.dispatcher.bounds = ⟨1, 20, .zero⟩ ∧
      served.2.dispatcher.bounds = ⟨3, 7, .zero⟩ := by
  exact ⟨by decide, by decide, rfl, rfl, rfl⟩

end Switchboard
