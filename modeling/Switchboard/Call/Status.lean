namespace Switchboard

inductive CallStatus
  | awaiting
  | completed
  | duplication
  | overloaded
  | rejected
  | timeout
deriving DecidableEq, Repr

namespace CallStatus

def name : CallStatus → String
  | awaiting => "Awaiting"
  | completed => "Completed"
  | duplication => "Duplication"
  | overloaded => "Overloaded"
  | rejected => "Rejected"
  | timeout => "Timeout"

def all : List CallStatus :=
  [awaiting, completed, duplication, overloaded, rejected, timeout]

def ofName? (s : String) : Option CallStatus :=
  all.find? (·.name == s)

def isFinal : CallStatus → Bool
  | awaiting => false
  | _ => true

end CallStatus

end Switchboard
