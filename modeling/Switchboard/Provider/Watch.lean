import Switchboard.Provider
import Switchboard.Provider.Monitor

/-! A provider of settings in use: the file it may read, those who may be told of new settings, and
the watch that is kept over the file. -/

namespace Switchboard

structure Watch where
  /-- None once nobody holds the provider any more. -/
  provider : Option Provider
  listeners : Listeners
  file : WatchedFile
  monitor : Option Monitor

namespace Watch

def ofFixed (c : FixedConfig) : Watch := ⟨some (.fixed c), [], ⟨.absent, 0⟩, none⟩

def ofFile (c : FileConfig) (file : WatchedFile) : Watch := ⟨some (.file c), [], file, none⟩

def settings? (w : Watch) : Option Settings := w.provider.map (·.settings.1)

def fileConfig? (w : Watch) : Option FileConfig :=
  match w.provider with
  | some (.file c) => some c
  | _ => none

def reload (w : Watch) (p : Provider) : Except DispatchError Unit × Watch :=
  let (r, p) := p.reload w.file.state
  (r, { w with provider := some p })

def request (w : Watch) (p : Provider) : Except DispatchError Unit × Watch :=
  let (r, p) := p.request w.file.state
  match r with
  | .error e => (.error e, { w with provider := some p })
  | .ok l => (.ok (), { w with provider := some p, listeners := w.listeners.tellSome l })

def takeUpdated (w : Watch) (p : Provider) : Bool × Watch :=
  let (u, p) := p.takeUpdated
  (u, { w with provider := some p })

def subscribe (w : Watch) (p : Provider) : Nat × Watch :=
  let (i, ls) := w.listeners.add
  (i, { w with provider := some (p.subscribe i), listeners := ls })

def dropListener (w : Watch) (i : Nat) : Watch := { w with listeners := w.listeners.drop i }

def stage (w : Watch) (s : Settings) : Watch :=
  match w.provider with
  | some (.fixed c) => { w with provider := some (.fixed (c.stage s)) }
  | _ => w

def dropProvider (w : Watch) : Watch := { w with provider := none }

def setFile (w : Watch) (f : WatchedFile) : Watch := { w with file := f }

def watch (w : Watch) : Watch :=
  { w with monitor := w.fileConfig?.bind (Monitor.start? · w.file) }

def unwatch (w : Watch) : Watch := { w with monitor := none }

def tick (w : Watch) : Watch :=
  match w.monitor with
  | none => w
  | some m =>
    let (m, c, ls) := m.poll w.file w.fileConfig? w.listeners
    { w with provider := c.map .file, listeners := ls, monitor := some m }

end Watch

end Switchboard
