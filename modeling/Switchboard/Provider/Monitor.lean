import Switchboard.Provider.FileConfig
import Switchboard.Provider.Listeners

/-! The watch over a configuration file. At each poll it looks at the moment of the last change of
the file, and only a later one than any before makes it reload the configuration. -/

namespace Switchboard

structure WatchedFile where
  state : FileState
  /-- Meaningless for an absent file. -/
  changed : Int

def WatchedFile.changed? (f : WatchedFile) : Option Int :=
  match f.state with
  | .absent => none
  | _ => some f.changed

structure Monitor where
  lastChange : Option Int
  running : Bool
deriving DecidableEq

namespace Monitor

def isLater : Option Int → Option Int → Bool
  | some a, some b => b < a
  | some _, none => true
  | none, _ => false

def start? (c : FileConfig) (file : WatchedFile) : Option Monitor :=
  if c.updatesEnabled then some ⟨file.changed?, true⟩ else none

/-- One poll. The configuration is none when nobody else holds it any more. -/
def poll (m : Monitor) (file : WatchedFile) (config : Option FileConfig) (listeners : Listeners) :
    Monitor × Option FileConfig × Listeners :=
  if !m.running || !isLater file.changed? m.lastChange then (m, config, listeners)
  else
    match config with
    | none => ({ m with running := false }, none, listeners)
    | some c =>
      let (r, c) := c.request file.state
      let listeners := match r with
        | .ok l => listeners.tellSome l
        | .error _ => listeners
      ({ m with lastChange := file.changed? }, some c, listeners)

end Monitor

end Switchboard
