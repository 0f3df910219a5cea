import Switchboard.Settings.Document

/-! Settings that are read from a file. When the file cannot be used at the beginning, the initial
settings stay for good; when it cannot be used later, the settings stay as they are. -/

namespace Switchboard

inductive FileState
  | absent
  | folder
  | content (bytes : ByteArray)

namespace FileState

def ofText (s : String) : FileState := .content s.toUTF8

def readText : FileState → Except FileFault String
  | absent => .error .notFound
  | folder => .error .isDirectory
  | content bytes =>
    match String.fromUTF8? bytes with
    | some s => .ok s
    | none => .error .notText

def text? (f : FileState) : Option (List Char) := f.readText.toOption.map (·.toList)

def readSettings (f : FileState) : Except DispatchError Settings :=
  match f.readText with
  | .error e => .error (.file e)
  | .ok s =>
    match Settings.ofDocument s.toList with
    | .error e => .error (.document e)
    | .ok settings => .ok settings.normalized

end FileState

structure FileConfig where
  path : String
  settings : Settings
  /-- A reload succeeded since this was last asked. -/
  updated : Bool
  updatesEnabled : Bool
  /-- The last one that subscribed. -/
  listener : Option Nat

namespace FileConfig

def load (path : String) (file : FileState) : FileConfig :=
  match file.readSettings with
  | .ok s => ⟨path, s, false, true, none⟩
  | .error _ => ⟨path, .initial, false, false, none⟩

def reload (c : FileConfig) (file : FileState) : Except DispatchError Unit × FileConfig :=
  if c.updatesEnabled then
    match file.readSettings with
    | .ok s => (.ok (), { c with settings := s, updated := true })
    | .error e => (.error e, c)
  else (.error (.config s!"updates disabled: {c.path} was unreadable at startup"), c)

def takeUpdated (c : FileConfig) : Bool × FileConfig := (c.updated, { c with updated := false })

def subscribe (c : FileConfig) (i : Nat) : FileConfig := { c with listener := some i }

def request (c : FileConfig) (file : FileState) :
    Except DispatchError (Option Nat) × FileConfig :=
  let (r, c) := c.reload file
  (r.map fun _ => c.listener, c)

end FileConfig

end Switchboard
