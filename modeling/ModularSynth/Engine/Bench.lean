import ModularSynth.Engine.Device

/-!
This module contains the test bench: an engine that holds one device for each module id and can tell
which edges are live.
-/

namespace ModularSynth

abbrev Bench := SortedMap ModuleId Device ModuleId.order

namespace Bench

def add (bench : Bench) (d : Device) : Bench :=
  bench.insert d.id d

/-- Make a device for a module, unless there is one already. -/
def addModule (bench : Bench) (m : Module) : Bench :=
  bench.insertIfNew m.id (.ofModule m)

/--
Drop the devices whose module has left the rack and make devices for the modules that are new. The
other devices stay as they are.
-/
def sync (bench : Bench) (rack : Rack) : Bench :=
  rack.foldl addModule (bench.filterKeys fun id => (rack.find? id).isSome)

def ofRack (rack : Rack) : Bench :=
  sync .empty rack

/-- Make a device for a module as `addModule` does, if its banks have room. -/
def tryAddModule (bench : Bench) (m : Module) : Except DeviceError Unit × Bench :=
  if bench.contains m.id then
    (.ok (), bench)
  else
    match Device.tryModule m with
    | .ok d => (.ok (), bench.insert m.id d)
    | .error e => (.error e, bench)

/-- Make devices one after the other, up to the first one whose banks have no room. -/
def tryAddModules (bench : Bench) : Rack → Except DeviceError Unit × Bench
  | [] => (.ok (), bench)
  | m :: rest =>
    match tryAddModule bench m with
    | (.ok (), bench) => tryAddModules bench rest
    | (.error e, bench) => (.error e, bench)

def trySync (bench : Bench) (rack : Rack) : Except DeviceError Unit × Bench :=
  tryAddModules (bench.filterKeys fun id => (rack.find? id).isSome) rack

def setReady (bench : Bench) (id : ModuleId) (ready : Bool) : Option Bench := do
  let d ← bench.get? id
  return bench.insert id { d with ready := ready }

/-- All live edges, device by device in ascending order of ids. -/
def liveEdges (bench : Bench) : List Edge :=
  bench.values.flatMap (·.live)

/-- All live edges in ascending order, each once. -/
def edgeSet (bench : Bench) : List Edge :=
  (bench.liveEdges.mergeSort fun a b => (Edge.order a b).isLE).eraseReps

def total (count : Device → Nat) (bench : Bench) : Nat :=
  bench.values.foldr (fun d n => count d + n) 0

def connects (bench : Bench) : Nat :=
  bench.total (·.connects)

def disconnects (bench : Bench) : Nat :=
  bench.total (·.disconnects)

instance : Engine Bench Device where
  ids bench := bench.keys
  object? bench id := bench.get? id
  editable? bench id := bench.get? id
  put bench id d := bench.insert id d
  moduleAdded := addModule
  moduleRemoved bench id := bench.erase id

end Bench
end ModularSynth
