import Switchboard.Logging.Level
import Switchboard.Path

namespace Switchboard.Logging

structure Config where
  level : Level
  json : Bool
  fileInfo : Bool
  spans : Bool
  app : String
  logFile : Option String
deriving DecidableEq

namespace Config

def of (level : Level) (app : String) : Config := ⟨level, false, false, false, app, none⟩

def initial : Config := of .info "callcenter-dispatch"

def withJson (c : Config) : Config := { c with json := true }

def withFileInfo (c : Config) : Config := { c with fileInfo := true }

def withSpans (c : Config) : Config := { c with spans := true }

def withLogFile (c : Config) (path : String) : Config := { c with logFile := some path }

def plainName : List Char := "logfile.txt".toList

def filePieces (path : List Char) : List (List Char) × List Char :=
  let ps := Path.moves path
  match ps.getLast? with
  | none => (ps, plainName)
  | some p => (ps.dropLast, if p = Path.above then plainName else p)

def filePlace? (path : List Char) : Option (List Char) :=
  if Path.isAbsolute path && !(Path.moves path).isEmpty then none
  else
    let (folder, name) := filePieces path
    (Path.walk [] (folder ++ [name])).map ['/'].intercalate

end Config

end Switchboard.Logging
