import ModularSynth.Engine.Bench

/-!
This module contains a host that answers only in part. Around the devices of a bench it lists ids
that have no object, keeps objects from being changed, and puts stubs in front of devices.
-/

namespace ModularSynth

/--
Stubs of type `σ`: each answers as it likes under its id, and refuses every connection. It may
answer differently once it has refused one or has been disconnected.
-/
class Stub (σ : Type) where
  hasOutput : ModuleId → σ → String → Bool
  input? : ModuleId → σ → String → Option Inlet
  slotCount : ModuleId → σ → String → Nat
  slot? : ModuleId → σ → String → UInt64 → Option Inlet
  param? : ModuleId → σ → String → Option Inlet
  refuse : ModuleId → σ → String → Inlet → EngineError × σ
  disconnect : ModuleId → σ → σ

/--
A reason is a stub that refuses for that reason. It claims to have every output, input and
parameter, but no slots, and never changes.
-/
instance : Stub String where
  hasOutput _ _ _ := true
  input? id _ port := some (.input id port)
  slotCount _ _ _ := 0
  slot? _ _ _ _ := none
  param? id _ param := some (.param id param)
  refuse id reason _ _ := (.refused id reason, reason)
  disconnect _ reason := reason

/-- An object of a host: a device, or a stub under some id. -/
inductive HostObject (σ : Type)
  | device (device : Device)
  | stub (id : ModuleId) (stub : σ)

namespace HostObject

instance {σ : Type} [Stub σ] : EngineObject (HostObject σ) where
  hasOutput
    | .device d, port => d.hasOutput port
    | .stub id s, port => Stub.hasOutput id s port
  input?
    | .device d, port => d.input? port
    | .stub id s, port => Stub.input? id s port
  slotCount
    | .device d, port => d.slotCount port
    | .stub id s, port => Stub.slotCount id s port
  slot?
    | .device d, port, index => d.slot? port index
    | .stub id s, port, index => Stub.slot? id s port index
  param?
    | .device d, param => d.param? param
    | .stub id s, param => Stub.param? id s param
  connect
    | .device d, port, target =>
      let (result, d) := d.connect port target
      (result, .device d)
    | .stub id s, port, target =>
      let (error, s) := Stub.refuse id s port target
      (.error error, .stub id s)
  disconnect
    | .device d => .device d.disconnect
    | .stub id s => .stub id (Stub.disconnect id s)

end HostObject

/-- A bench with objects that are missing, locked or replaced by stubs. -/
structure Host (σ : Type) where
  bench : Bench
  /-- A stub hides a device of the same id. -/
  stubs : SortedMap ModuleId σ ModuleId.order
  /-- Ids that are listed without having an object of their own. -/
  ghosts : List ModuleId
  /-- Ids whose object can be looked at but not changed. -/
  locks : List ModuleId
  sink : Inlet

namespace Host

variable {σ : Type}

def object? (host : Host σ) (id : ModuleId) : Option (HostObject σ) :=
  match host.stubs.get? id with
  | some s => some (.stub id s)
  | none => (host.bench.get? id).map .device

def editable? (host : Host σ) (id : ModuleId) : Option (HostObject σ) :=
  if host.locks.contains id then none else host.object? id

/-- A device goes back to the bench, and a stub in front of it. -/
def put (host : Host σ) (id : ModuleId) : HostObject σ → Host σ
  | .device d => { host with bench := host.bench.insert id d }
  | .stub _ s => { host with stubs := host.stubs.insert id s }

instance : Engine (Host σ) (HostObject σ) where
  ids host := host.bench.keys ++ host.stubs.keys ++ host.ghosts
  object? := object?
  editable? := editable?
  put := put
  sink host := host.sink

end Host

/-- A host whose stubs are reasons. -/
abbrev PartialHost := Host String

/-- A host that answers just as its bench does. -/
def PartialHost.ofBench (bench : Bench) : PartialHost :=
  ⟨bench, .empty, [], [], .destination⟩

end ModularSynth
