import Switchboard.Settings
import Switchboard.Error

/-! Settings that are held in memory. Staged values take effect, as they are, at the next reload. -/

namespace Switchboard

structure FixedConfig where
  staged : Settings
  settings : Settings
  /-- A reload succeeded since this was last asked. -/
  updated : Bool
  readOnly : Bool
  listener : Option Nat

namespace FixedConfig

def of (s : Settings) (readOnly : Bool) : FixedConfig := ⟨s, s, false, readOnly, none⟩

def stage (c : FixedConfig) (s : Settings) : FixedConfig := { c with staged := s }

def reload (c : FixedConfig) : Except DispatchError Unit × FixedConfig :=
  if c.readOnly then (.error (.config "updates disabled"), c)
  else (.ok (), { c with settings := c.staged, updated := true })

def takeUpdated (c : FixedConfig) : Bool × FixedConfig := (c.updated, { c with updated := false })

def subscribe (c : FixedConfig) (i : Nat) : FixedConfig := { c with listener := some i }

end FixedConfig

end Switchboard
