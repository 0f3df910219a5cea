import Switchboard.Logging.Config

/-! What a process logs: the lines of the setup, and events inside a span. Logging is set up once in
the life of a process. -/

namespace Switchboard.Logging

structure Line where
  level : Level
  target : String
  span : Option String
  message : String
  fields : List (String × String)
deriving DecidableEq

def plain (c : Char) : String :=
  match c.toNat with
  | 0x07 => "\\x07"
  | 0x08 => "\\x08"
  | 0x0c => "\\x0c"
  | 0x1b => "\\x1b"
  | 0x7f => "\\x7f"
  | n =>
    if 0x80 ≤ n ∧ n ≤ 0x9f then "\\u\x7b" ++ String.ofList (Nat.toDigits 16 n) ++ "\x7d"
    else c.toString

namespace Line

def text (l : Line) : String :=
  let span := match l.span with
    | none => ""
    | some s => s ++ ": "
  let fields := l.fields.map fun (k, v) => " " ++ k ++ "=" ++ v
  let message := String.join (l.message.toList.map plain)
  s!"{l.level.name} main {span}{l.target}: {message}" ++ String.join fields

def rows (l : Line) : List (List Char) :=
  (l.text.toList.splitOn '\n').map fun row =>
    let row := row.dropWhile (· == ' ')
    if row.getLast? == some '\r' then row.dropLast else row

end Line

def ownTarget : String := "callcenter_dispatch_core::logging"

def setupLine (c : Config) : Line :=
  ⟨.info, ownTarget, none, "📝 Logging initialized", [("app", c.app), ("level", c.level.name)]⟩

def welcomeLine (app version : String) : Line :=
  ⟨.info, ownTarget, none, s!"Starting {app} v{version}", []⟩

structure Span where
  name : String
  target : String
  level : Level
deriving DecidableEq

def Span.lines (s : Span) (c : Config) (events : List (Level × String)) : List Line :=
  let shown := if c.level.shows s.level then some s.name else none
  let mark (message : String) : List Line :=
    if c.spans && shown.isSome then [⟨s.level, s.target, shown, message, []⟩] else []
  mark "enter" ++ events.map (fun (l, m) => ⟨l, s.target, shown, m, []⟩) ++ mark "exit"

def session (c : Config) (version : String) (s : Span) (events : List (Level × String)) :
    List Line :=
  (setupLine c :: welcomeLine c.app version :: s.lines c events).filter fun l =>
    c.level.shows l.level

def install (installed : Option Config) (c : Config) : Except DispatchError Config :=
  match installed with
  | none => .ok c
  | some _ => .error (.config
      ("Failed to install logger: " ++ "a global default trace dispatcher has already been set"))

end Switchboard.Logging
