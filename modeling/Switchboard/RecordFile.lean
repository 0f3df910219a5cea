import Switchboard.Call.Record
import Switchboard.Text.Decimal

/-! The file of call records. Each opening writes three lines of heading, each record adds one line,
and what was there before is left alone. -/

namespace Switchboard.RecordFile

def ruleWidth : Nat := 136

def rule : List Char := List.replicate ruleWidth '#'

def columns : List Char :=
  ("#DT of the incoming call;Incoming Call ID;Caller number;DT of call termination;Call status;" ++
    "DT operator answer;Operator ID;Call duration#").toList

def heading : List (List Char) := [rule, columns, rule]

def addLine (file line : List Char) : List Char := file ++ line ++ ['\n']

def opened (file : List Char) : List Char := heading.foldl addLine file

def write (file : List Char) (r : CallRecord) : List Char := addLine file r.line

/-- A file of records: what it held when `before` of them had been written. -/
structure Book where
  text : List Char
  before : Nat
deriving DecidableEq

def Book.content (b : Book) (records : List CallRecord) : List Char :=
  (records.drop b.before).foldl write b.text

def lines (file : List Char) : List (List Char) :=
  let pieces := file.splitOn '\n'
  if pieces.getLast? == some [] then pieces.dropLast else pieces

def isHeading (line : List Char) : Bool := line.head? == some '#'

structure Row where
  fields : List (List Char)
deriving DecidableEq

def rows (file : List Char) : List Row :=
  ((lines file).filter fun l => !isHeading l).map fun l => ⟨l.splitOn ';'⟩

namespace Row

def field (r : Row) (i : Nat) : List Char := (r.fields[i]?).getD []

def callId (r : Row) : List Char := r.field 1

def number (r : Row) : List Char := r.field 2

def status (r : Row) : List Char := r.field 4

def duration (r : Row) : List Char := r.field 7

def isServed (r : Row) : Bool := r.field 6 != ['0']

def moments (r : Row) : List Bool := [0, 3, 5].map fun i => (Timestamp.read? (r.field i)).isSome

def order (r : Row) : Nat := (Decimal.value? r.callId).getD 0

end Row

def sortedRows (file : List Char) : List Row :=
  (rows file).mergeSort fun a b => a.order ≤ b.order

end Switchboard.RecordFile
