import Switchboard.Text.Decimal

namespace Switchboard

structure Options where
  port : UInt16
  config : String
  recordFile : String
  logLevel : String
  logFile : String
  jsonLogs : Bool
  /-- Seconds between two looks at the configuration file. -/
  monitorInterval : UInt64
deriving DecidableEq

namespace Options

def initial : Options := ⟨8080, "base.json", "cdrFile.txt", "debug", "logfile.txt", false, 60⟩

end Options

namespace CommandLine

inductive Stop
  | helpWanted
  | versionWanted
  | unknownWord
  | missingValue
  | emptyValue
  | badNumber
  | repeated
  | valueForFlag
deriving DecidableEq, Repr

def Stop.exitCode : Stop → Nat
  | helpWanted | versionWanted => 0
  | _ => 2

inductive Valued
  | port
  | config
  | recordFile
  | logLevel
  | logFile
  | monitorInterval
deriving DecidableEq

inductive Flag
  | jsonLogs
  | help
  | version
deriving DecidableEq

inductive Name
  | valued (v : Valued)
  | flag (f : Flag)
deriving DecidableEq

def long? : String → Option Name
  | "port" => some (.valued .port)
  | "config" => some (.valued .config)
  | "cdr-file" => some (.valued .recordFile)
  | "log-level" => some (.valued .logLevel)
  | "log-file" => some (.valued .logFile)
  | "monitor-interval" => some (.valued .monitorInterval)
  | "json-logs" => some (.flag .jsonLogs)
  | "help" => some (.flag .help)
  | "version" => some (.flag .version)
  | _ => none

def short? : Char → Option Name
  | 'p' => some (.valued .port)
  | 'c' => some (.valued .config)
  | 'h' => some (.flag .help)
  | 'V' => some (.flag .version)
  | _ => none

def number (limit : Nat) (read : List Char → Option Int) (value : String) : Except Stop Nat :=
  match read value.toList with
  | some n => if 0 ≤ n ∧ n < limit then .ok n.toNat else .error .badNumber
  | none => .error .badNumber

def path (value : String) : Except Stop String :=
  if value.isEmpty then .error .emptyValue else .ok value

def assign (o : Options) (v : Valued) (value : String) : Except Stop Options :=
  match v with
  | .port => (number UInt16.size Decimal.signed? value).map fun n => { o with port := .ofNat n }
  | .config => (path value).map fun p => { o with config := p }
  | .recordFile => (path value).map fun p => { o with recordFile := p }
  | .logLevel => .ok { o with logLevel := value }
  | .logFile => (path value).map fun p => { o with logFile := p }
  | .monitorInterval =>
    (number UInt64.size (fun cs => (Decimal.unsigned? cs).map Int.ofNat) value).map fun n =>
      { o with monitorInterval := .ofNat n }

structure Reading where
  options : Options
  given : List Name
  pending : Option (Valued × Option String)

namespace Reading

def initial : Reading := ⟨.initial, [], none⟩

def take (r : Reading) (v : Valued) (value : Option String) : Except Stop Reading := do
  match value with
  | none => .error .missingValue
  | some value =>
    if r.given.contains (.valued v) then .error .repeated
    else
      let options ← assign r.options v value
      .ok ⟨options, .valued v :: r.given, none⟩

def resolve (r : Reading) : Except Stop Reading :=
  match r.pending with
  | none => .ok r
  | some (v, value) => r.take v value

def flag (r : Reading) (f : Flag) : Except Stop Reading := do
  let r ← r.resolve
  match f with
  | .help => .error .helpWanted
  | .version => .error .versionWanted
  | .jsonLogs =>
    if r.given.contains (.flag f) then .error .repeated
    else .ok { r with options := { r.options with jsonLogs := true }, given := .flag f :: r.given }

def valued (r : Reading) (v : Valued) (value : Option String) : Except Stop Reading := do
  let r ← r.resolve
  match value with
  | none => .ok { r with pending := some (v, none) }
  | some _ => r.take v value

def long (r : Reading) (word : List Char) : Except Stop Reading :=
  let name := String.ofList (word.takeWhile (· != '='))
  let value := match word.dropWhile (· != '=') with
    | [] => none
    | _ :: cs => some (String.ofList cs)
  match long? name, value with
  | none, _ => .error .unknownWord
  | some (.valued v), value => r.valued v value
  | some (.flag f), none => r.flag f
  | some (.flag _), some _ => .error .valueForFlag

def short (r : Reading) : List Char → Except Stop Reading
  | [] => .ok r
  | c :: cs =>
    match short? c with
    | none => .error .unknownWord
    | some (.flag f) =>
      match r.flag f with
      | .error e => .error e
      | .ok r => r.short cs
    | some (.valued v) =>
      r.valued v (match cs with
        | [] => none
        | '=' :: cs => some (String.ofList cs)
        | cs => some (String.ofList cs))

def plain (r : Reading) (word : String) : Except Stop Reading :=
  match r.pending with
  | some (v, none) => .ok { r with pending := some (v, some word) }
  | _ => .error .unknownWord

def word (r : Reading) (w : String) : Except Stop Reading :=
  match w.toList with
  | '-' :: '-' :: cs => r.long cs
  | '-' :: c :: cs => r.short (c :: cs)
  | _ => r.plain w

end Reading

def words (r : Reading) : List String → Except Stop Reading
  | [] => r.resolve
  | "--" :: [] => r.resolve
  | "--" :: _ :: _ => .error .unknownWord
  | w :: ws => do words (← r.word w) ws

def read (args : List String) : Except Stop Options :=
  (words .initial args).map (·.options)

end CommandLine

end Switchboard
