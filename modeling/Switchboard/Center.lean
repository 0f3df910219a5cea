import Switchboard.Dispatcher
import Switchboard.Floor.Settling
import Switchboard.Folder
import Switchboard.Provider
import Switchboard.Provider.Monitor
import Switchboard.RecordFile

/-! The call center: a floor with one live pool, directed by a dispatcher that follows a provider of
settings. -/

namespace Switchboard

structure Center where
  floor : Floor
  dispatcher : Dispatcher
  providers : List Provider
  file : WatchedFile
  monitor : Option Monitor
  book : Option RecordFile.Book
  /-- Call records are kept in the configuration file. -/
  shared : Bool
  orders : List (Nat × Order)
  /-- Nobody listens to the providers any more. -/
  closed : Bool

namespace Center

def listener : Nat := 0

def fileRecorder : String := "file"

def livePool? (c : Center) : Option Pool := c.floor.pool? c.dispatcher.pool

def liveQueue? (c : Center) : Option CallQueue := c.livePool?.bind c.floor.queueOf?

def size (c : Center) : Nat :=
  match c.livePool? with
  | none => 0
  | some pool => pool.size

def queued (c : Center) : Nat :=
  match c.livePool? with
  | none => 0
  | some pool => c.floor.queued pool

def recorders (c : Center) : List Recorder :=
  match c.livePool? with
  | none => []
  | some pool => pool.recorders.members

def written (c : Center) : List CallRecord := c.floor.log.kept fileRecorder

def recordFile? (c : Center) : Option (List Char) :=
  match c.book with
  | some b => some (b.content c.written)
  | none => if c.shared then c.file.state.text? else none

def configFile (c : Center) : FileState :=
  match c.shared, c.book with
  | true, some b => .ofText (String.ofList (b.content c.written))
  | _, _ => c.file.state

def writeConfig (c : Center) (text : String) : Center :=
  { c with
    file := ⟨.ofText text, 0⟩
    book := if c.shared then c.book.map fun _ => ⟨text.toList, c.written.length⟩ else c.book }

def deleteConfig (c : Center) : Center :=
  { c with file := ⟨.absent, 0⟩, book := if c.shared then none else c.book }

def submit (c : Center) (number : String) (now : Timestamp) :
    Except Crash (Except DispatchError Ticket) × Center :=
  let (t, f) := c.floor.newTask c.dispatcher.bounds number now
  let (f, r) := f.addTask c.dispatcher.pool t now
  (r, { c with floor := f })

def order (c : Center) (p : Nat) (o : Order) : Center :=
  { c with
    floor := match o with
      | .start => c.floor.start p
      | .stop => c.floor.stop p
    orders := c.orders ++ [(p, o)] }

def ordersTo (c : Center) (p : Nat) (o : Order) : Nat := c.orders.count (p, o)

def start (c : Center) : Center :=
  { c with dispatcher := { c.dispatcher with running := true } }.order c.dispatcher.pool .start

def stop (c : Center) : Center :=
  { c with dispatcher := { c.dispatcher with running := false } }.order c.dispatcher.pool .stop

def swapIn (c : Center) (p : Nat) (now : Timestamp) : Center :=
  let old := c.dispatcher.pool
  let c := c.order old .stop
  let (f, _) := c.floor.transfer p old now
  let c := { c with floor := f }
  let c := if c.dispatcher.running then c.order p .start else c
  { c with floor := c.floor.close old, dispatcher := { c.dispatcher with pool := p } }

def build (c : Center) (size : Nat) (capacity : UInt64) : Except Crash (Nat × Center) :=
  (c.floor.buildPool size capacity).map fun (p, f) => (p, { c with floor := f })

def replacePool (c : Center) (size : Nat) (capacity : UInt64) (now : Timestamp) :
    Option Crash × Center :=
  match c.build size capacity with
  | .error crash => (some crash, c)
  | .ok (p, c) => (none, c.swapIn p now)

def setProvider (c : Center) (i : Nat) (p : Provider) : Center :=
  { c with providers := c.providers.set i p }

def readSettings (c : Center) : Settings × Center :=
  match c.providers[c.dispatcher.provider]? with
  | none => (.initial, c)
  | some p =>
    let (s, p) := p.settings
    (s, c.setProvider c.dispatcher.provider p)

/-- First half of an update, in which nobody is kept waiting: a pool is built if another number of
operators is wanted. -/
def prepare (c : Center) : Except Crash (Option Nat) × Center :=
  let (s, c) := c.readSettings
  if s.operators.toNat = c.size then (.ok none, c)
  else
    match c.build s.operators.toNat s.queueSize with
    | .error crash => (.error crash, c)
    | .ok (p, c) => (.ok (some p), c)

def adopt (c : Center) (s : Settings) : Center :=
  let c := { c with
    dispatcher := { c.dispatcher with bounds := ⟨s.rMin, s.rMax, c.dispatcher.unit⟩ } }
  match c.livePool?.bind (·.queue) with
  | none => c
  | some q => { c with floor := c.floor.setCapacity q s.queueSize }

def discard (c : Center) : Option Nat → Center
  | none => c
  | some p => { c with floor := c.floor.close p }

def suits (c : Center) (s : Settings) (spare : Option Nat) : Option Nat :=
  spare.filter fun p => (c.floor.pool? p).any (·.size == s.operators.toNat)

/-- Second half of an update: the settings are read again and all of them take effect. -/
def apply (c : Center) (spare : Option Nat) (now : Timestamp) : Option Crash × Center :=
  let (s, c) := c.readSettings
  let c := c.adopt s
  if s.operators.toNat = c.size then (none, c.discard spare)
  else
    match c.suits s spare with
    | some p => (none, c.swapIn p now)
    | none => (c.discard spare).replacePool s.operators.toNat s.queueSize now

def update (c : Center) (now : Timestamp) : Option Crash × Center :=
  match c.prepare with
  | (.error crash, c) => (some crash, c)
  | (.ok spare, c) => c.apply spare now

def reload (c : Center) (i : Nat) : Except DispatchError Unit × Center :=
  match c.providers[i]? with
  | none => (.ok (), c)
  | some p =>
    let (r, p) := p.reload c.configFile
    (r, c.setProvider i p)

def fixed? (c : Center) (i : Nat) : Option FixedConfig :=
  match c.providers[i]? with
  | some (.fixed f) => some f
  | _ => none

def takeUpdated (c : Center) (i : Nat) : Bool × Center :=
  match c.providers[i]? with
  | none => (false, c)
  | some p =>
    let (u, p) := p.takeUpdated
    (u, c.setProvider i p)

def reconfigure (c : Center) (now : Timestamp) : Except Crash Bool × Center :=
  let i := c.dispatcher.provider
  match c.reload i with
  | (.error _, c) => (.ok false, c)
  | (.ok _, c) =>
    match c.update now with
    | (some crash, c) => (.error crash, c)
    | (none, c) =>
      let (u, c) := c.takeUpdated i
      (.ok u, c)

def request (c : Center) (i : Nat) (now : Timestamp) :
    Except Crash (Except DispatchError Unit) × Center :=
  match c.providers[i]? with
  | none => (.ok (.ok ()), c)
  | some p =>
    let (r, p) := p.request c.configFile
    let c := c.setProvider i p
    match r with
    | .error e => (.ok (.error e), c)
    | .ok none => (.ok (.ok ()), c)
    | .ok (some _) =>
      if c.closed then (.ok (.ok ()), c)
      else
        match c.update now with
        | (some crash, c) => (.error crash, c)
        | (none, c) => (.ok (.ok ()), c)

def useProvider (c : Center) (p : Provider) : Center :=
  { c with
    providers := c.providers ++ [p.subscribe listener]
    dispatcher := { c.dispatcher with provider := c.providers.length } }

def poll (c : Center) (now : Timestamp) : Center :=
  match c.monitor with
  | none => c
  | some m =>
    if m.running && Monitor.isLater c.file.changed? m.lastChange then
      if c.dispatcher.provider = 0 then
        match c.request 0 now with
        | (.ok _, c) => { c with monitor := some { m with lastChange := c.file.changed? } }
        | (.error _, c) => { c with monitor := some { m with running := false } }
      else { c with monitor := some { m with running := false } }
    else c

def setRecorders (c : Center) (members : List Recorder) : Center :=
  let (set, f) := c.floor.newRecorders members
  { c with floor := f.setRecorders c.dispatcher.pool set }

def setQueue (c : Center) (capacity : UInt64) (now : Timestamp) : Option Crash × Center :=
  let (f, crash) := c.floor.replaceQueue c.dispatcher.pool capacity now
  (crash, { c with floor := f })

inductive Source
  | file (path : String)
  | provider (p : Provider)

structure Plan where
  source : Option Source
  recordFile : Option (Except FileFault (List Char))
  shared : Bool
  recorders : List Recorder
  unit : Duration
  watched : Bool

def Plan.initial : Plan := ⟨none, none, false, [], .ofSeconds 1, true⟩

def configName : List Char := "base.json".toList

def Plan.withRecordFile (plan : Plan) (config : FileState) (path : List Char) : Plan :=
  let folder := match config.text? with
    | none => Folder.empty
    | some text => Folder.empty.edit configName fun _ => text
  let name := folder.target path
  { plan with
    recordFile := some (name.map fun n => (folder.text? n).getD [])
    shared := name.toOption == some configName }

def withProvider (plan : Plan) (file : WatchedFile) (p : Provider) (monitor : Option Monitor) :
    Except Crash (Except DispatchError Center) :=
  match plan.recordFile with
  | some (.error e) => .ok (.error (.file e))
  | records =>
    let book := (records.bind (·.toOption)).map fun text => ⟨RecordFile.opened text, 0⟩
    let members := plan.recorders ++ (book.map fun _ => Recorder.keeping fileRecorder).toList
    let (set, f) := Floor.empty.newRecorders members
    let (s, p) := p.settings
    let (bounds, p) := p.settings
    (f.buildPool s.operators.toNat s.queueSize).map fun (n, f) => .ok
      { floor := f.setRecorders n set
        dispatcher := ⟨⟨bounds.rMin, bounds.rMax, plan.unit⟩, plan.unit, 0, n, false⟩
        providers := [p.subscribe listener]
        file := file
        monitor := monitor
        book := book
        shared := plan.shared
        orders := []
        closed := false }

def ofPlan (plan : Plan) (file : WatchedFile) : Except Crash (Except DispatchError Center) :=
  match plan.source with
  | none => .ok (.error (.config "no configuration source"))
  | some (.provider p) => withProvider plan file p none
  | some (.file path) =>
    let config := FileConfig.load path file.state
    withProvider plan file (.file config)
      (if plan.watched then Monitor.start? config file else none)

def close (c : Center) : Center :=
  { c with floor := c.floor.close c.dispatcher.pool, closed := true }

end Center

end Switchboard
