import Switchboard.Center
import Switchboard.Text.Decimal

/-! A path that begins with `/phone=` calls a number, one that begins with `/update` has the
settings read again, and nothing else is found. -/

namespace Switchboard.Web

inductive Request
  | call (number : String)
  | update
  | other
deriving DecidableEq

def phonePath : List Char := "/phone=".toList

def updatePath : List Char := "/update".toList

def after? : List Char → List Char → Option (List Char)
  | [], path => some path
  | _ :: _, [] => none
  | c :: start, d :: path => if c = d then after? start path else none

def isOfScheme (c : Char) : Bool := c.isAlphanum || c == '+' || c == '-' || c == '.'

def onServer (target : List Char) : List Char :=
  match after? "://".toList (target.dropWhile isOfScheme) with
  | none => target
  | some rest => rest.dropWhile fun c => c != '/' && c != '?' && c != '#'

def pathOf (target : List Char) : List Char :=
  (onServer target).takeWhile fun c => c != '?' && c != '#'

def Request.of (method : String) (target : List Char) : Request :=
  let path := pathOf target
  if method ≠ "GET" then .other
  else
    match after? phonePath path with
    | some number => .call (String.ofList number)
    | none => if (after? updatePath path).isSome then .update else .other

structure Response where
  code : Nat
  body : String
deriving DecidableEq

def statusCode : CallStatus → Nat
  | .awaiting | .completed => 200
  | .duplication => 409
  | .overloaded => 429
  | .rejected => 406
  | .timeout => 408

def callBody (r : CallResult) : String :=
  s!"CallID: {r.callId} call duration: {r.duration.seconds}s\n Status: {r.status.name}\n"

namespace Response

def notFound : Response := ⟨404, "Not Found"⟩

def refused (e : DispatchError) : Response := ⟨500, s!"Call refused: {e.message}\n"⟩

def ofUpdate (updated : Bool) : Response :=
  if updated then ⟨200, "Updated"⟩ else ⟨403, "Could not update"⟩

def ofOutcome (id : CallId) : Outcome → Response
  | .ok r => ⟨statusCode r.status, callBody r⟩
  | .error e => ⟨500, s!"CallID: {id}\n Error: {e.message}\n"⟩

end Response

inductive Reply
  | now (response : Response)
  | later (ticket : Ticket)

def Reply.response? (log : Log) : Reply → Option Response
  | now r => some r
  | later ticket => ((ticket.future.tryResult log).1).map (.ofOutcome ticket.callId)

def serve (c : Center) (now : Timestamp) : Request → Except Crash Reply × Center
  | .call number =>
    let (r, c) := c.submit number now
    (r.map fun
      | .ok ticket => .later ticket
      | .error e => .now (.refused e), c)
  | .update =>
    let (updated, c) := c.reconfigure now
    (.ok (.now (.ofUpdate (updated.toOption.getD false))), c)
  | .other => (.ok (.now .notFound), c)

end Switchboard.Web
