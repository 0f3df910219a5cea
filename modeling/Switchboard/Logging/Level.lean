import Switchboard.Error
import Switchboard.Text.Decimal

namespace Switchboard.Logging

inductive Level
  | error
  | warn
  | info
  | debug
  | trace
deriving DecidableEq, Repr

namespace Level

def name : Level → String
  | error => "ERROR"
  | warn => "WARN"
  | info => "INFO"
  | debug => "DEBUG"
  | trace => "TRACE"

def rank : Level → Nat
  | error => 1
  | warn => 2
  | info => 3
  | debug => 4
  | trace => 5

def all : List Level := [error, warn, info, debug, trace]

def shows (limit l : Level) : Bool := l.rank ≤ limit.rank

def ofRank? (n : Nat) : Option Level := all.find? (·.rank == n)

def ofName? (s : String) : Option Level := all.find? (·.name == s.map Char.toUpper)

def ofText (s : String) : Except DispatchError Level :=
  match (ofName? s).or ((Decimal.unsigned? s.toList).bind ofRank?) with
  | some l => .ok l
  | none => .error (.config s!"Invalid log level: {s}")

end Level

end Switchboard.Logging
