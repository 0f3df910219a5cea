import Switchboard.Provider.FixedConfig
import Switchboard.Provider.FileConfig

/-! Providers of settings: from memory, from a file, or such that their settings move on after the
first reading. -/

namespace Switchboard

inductive Provider
  | fixed (c : FixedConfig)
  | file (c : FileConfig)
  /-- Answers `first` once and `later` from then on. -/
  | shifting (first later : Settings) (read : Bool)

namespace Provider

def settings : Provider → Settings × Provider
  | fixed c => (c.settings, fixed c)
  | file c => (c.settings, file c)
  | shifting first later read => (if read then later else first, shifting first later true)

def reload (p : Provider) (f : FileState) : Except DispatchError Unit × Provider :=
  match p with
  | fixed c => let (r, c) := c.reload; (r, fixed c)
  | file c => let (r, c) := c.reload f; (r, file c)
  | shifting .. => (.ok (), p)

def takeUpdated : Provider → Bool × Provider
  | fixed c => let (u, c) := c.takeUpdated; (u, fixed c)
  | file c => let (u, c) := c.takeUpdated; (u, file c)
  | shifting first later read => (true, shifting first later read)

def subscribe (p : Provider) (i : Nat) : Provider :=
  match p with
  | fixed c => fixed (c.subscribe i)
  | file c => file (c.subscribe i)
  | shifting .. => p

def listener : Provider → Option Nat
  | fixed c => c.listener
  | file c => c.listener
  | shifting .. => none

def request (p : Provider) (f : FileState) : Except DispatchError (Option Nat) × Provider :=
  let (r, p) := p.reload f
  (r.map fun _ => p.listener, p)

end Provider

end Switchboard
