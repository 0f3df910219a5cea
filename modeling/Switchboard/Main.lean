import Std.Time.DateTime.Timestamp
import Switchboard.CommandLine
import Switchboard.Logging.Level
import Switchboard.Web

/-! The program. It opens a center as the command line says and serves the requests on standard
input: each line is a method and a target, and each answer a status code and a body. -/

namespace Switchboard.Console

def usage : String :=
  "Usage: switchboard [OPTIONS]\n\n" ++
  "  -p, --port <PORT>                 port to listen on [8080]\n" ++
  "  -c, --config <FILE>               configuration file [base.json]\n" ++
  "      --cdr-file <FILE>             file of call records [cdrFile.txt]\n" ++
  "      --log-level <LEVEL>           trace, debug, info, warn or error [debug]\n" ++
  "      --log-file <FILE>             file with a copy of the log [logfile.txt]\n" ++
  "      --json-logs                   log JSON objects\n" ++
  "      --monitor-interval <SECONDS>  time between looks at the configuration file [60]\n" ++
  "  -h, --help                        print this text\n" ++
  "  -V, --version                     print the version\n"

def stopText : CommandLine.Stop → String
  | .helpWanted => usage
  | .versionWanted => "switchboard 0.1.0\n"
  | .unknownWord => "error: unexpected argument\n"
  | .missingValue => "error: a value is required\n"
  | .emptyValue => "error: a value is empty\n"
  | .badNumber => "error: a value is no number in range\n"
  | .repeated => "error: an option is given twice\n"
  | .valueForFlag => "error: a flag takes no value\n"

def clock : IO Timestamp := do
  return .ofPosition (← Std.Time.Timestamp.now).toNanosecondsSinceUnixEpoch.toInt

def readState (path : String) : IO FileState := do
  try return .content (← IO.FS.readBinFile path)
  catch _ => return .absent

def look (path : String) (before : WatchedFile) : IO WatchedFile := do
  let state ← readState path
  let same := match before.state, state with
    | .absent, .absent => true
    | .content a, .content b => a == b
    | _, _ => false
  return if same then before else ⟨state, before.changed + 1⟩

def openRecords (path : String) : IO (Except FileFault IO.FS.Handle) := do
  try return .ok (← IO.FS.Handle.mk path .append)
  catch _ => return .error (if path.endsWith "/" then .isDirectory else .notFound)

structure Session where
  center : Center
  records : IO.FS.Handle
  written : Nat
  polled : Timestamp

def Session.flush (s : Session) : IO Session := do
  let text := (s.center.recordFile?).getD []
  s.records.putStr (String.ofList (text.drop s.written))
  s.records.flush
  return { s with written := text.length }

def Session.work (s : Session) : IO Session := do
  let now ← clock
  let draw ← IO.rand 0 4294967295
  let (f, ended) := s.center.floor.settle [] now draw
  IO.sleep (UInt32.ofNat (ended.since now / 1000000))
  { s with center := { s.center with floor := f.reap ended } }.flush

def Session.poll (s : Session) (o : Options) : IO Session := do
  let now ← clock
  let center := { s.center with file := ← look o.config s.center.file }
  if now.since s.polled < o.monitorInterval.toNat * second then return { s with center := center }
  return { s with center := center.poll now, polled := now }

def Session.serve (s : Session) (line : String) : IO Session := do
  let words := (line.trimAscii.toString.splitOn " ").filter (!·.isEmpty)
  let request := match words with
    | [method, target] => Web.Request.of method target.toList
    | _ => .other
  let (reply, center) := Web.serve s.center (← clock) request
  let s ← { s with center := center }.work
  match reply with
  | .error c => IO.eprintln c.reason
  | .ok reply =>
    match reply.response? s.center.floor.log with
    | none => IO.println "no answer"
    | some r => IO.println s!"{r.code} {r.body}"
  return s

partial def Session.run (s : Session) (o : Options) (input : IO.FS.Stream) : IO Session := do
  let line ← input.getLine
  if line.isEmpty then return s
  let s ← s.poll o
  (← s.serve line).run o input

def run (o : Options) : IO UInt32 := do
  match Logging.Level.ofText o.logLevel with
  | .error e => IO.eprintln e.message; return 1
  | .ok _ =>
    let now ← clock
    let file : WatchedFile := ⟨← readState o.config, 0⟩
    let records ← openRecords o.recordFile
    let plan := { Center.Plan.initial with
      source := some (.file o.config), recordFile := some (records.map fun _ => []) }
    match records, Center.ofPlan plan file with
    | .ok handle, .ok (.ok center) =>
      let s ← Session.flush ⟨center.start, handle, 0, now⟩
      let s ← s.run o (← IO.getStdin)
      let _ ← { s with center := s.center.stop.close }.work
      return 0
    | _, .ok (.error e) => IO.eprintln e.message; return 1
    | _, .error crash => IO.eprintln crash.reason; return 1
    | .error _, _ => return 1

end Switchboard.Console

def main (args : List String) : IO UInt32 := do
  match Switchboard.CommandLine.read args with
  | .ok o => Switchboard.Console.run o
  | .error s =>
    (if s.exitCode = 0 then IO.print else IO.eprint) (Switchboard.Console.stopText s)
    return UInt32.ofNat s.exitCode
