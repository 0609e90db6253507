import ModularSynth.Engine.Basic
import ModularSynth.SortedMap

/-!
This module contains devices: processing objects that make no sound and remember what they are
connected to, for tests and dry runs.
-/

namespace ModularSynth

/-- Why a device cannot be made. -/
inductive DeviceError
  /-- The gains of a bank take more bytes than a list may have. -/
  | bankTooLarge
  deriving DecidableEq

def DeviceError.message : DeviceError → String
  | .bankTooLarge => "capacity overflow"

structure SlotGain where
  inlet : Inlet
  /-- How often the gain was disconnected. -/
  resets : Nat
  deriving DecidableEq

/-- A processing object that remembers what it is connected to. -/
structure Device where
  id : ModuleId
  outputs : List String
  inputs : List String
  banks : SortedMap String (List SlotGain) compare
  params : List String
  /-- The edges the device emits, in connection order. -/
  live : List Edge
  /-- A device that is not ready refuses every connection. -/
  ready : Bool
  connects : Nat
  disconnects : Nat

namespace Device

def new (id : ModuleId) : Device where
  id := id
  outputs := []
  inputs := []
  banks := .empty
  params := []
  live := []
  ready := true
  connects := 0
  disconnects := 0

def withOutput (d : Device) (port : String) : Device :=
  { d with outputs := d.outputs ++ [port] }

def withInput (d : Device) (port : String) : Device :=
  { d with inputs := d.inputs ++ [port] }

def withParam (d : Device) (param : String) : Device :=
  { d with params := d.params ++ [param] }

/-- The gains of a new bank, each with the handle of its own slot. -/
def newGains (id : ModuleId) (port : String) (slots : UInt64) : List SlotGain :=
  (List.range slots.toNat).map fun i => ⟨.slot id port (UInt64.ofNat i), 0⟩

/-- Add a bank; a bank of the same name is replaced. -/
def withBank (d : Device) (port : String) (slots : UInt64) : Device :=
  { d with banks := d.banks.insert port (newGains d.id port slots) }

/-- Add an input, as a bank if it is one. -/
def withSink (d : Device) (port : Port) : Device :=
  if port.isBank then d.withBank port.name port.slots else d.withInput port.name

/-- A device with exactly the ports and parameters that the schema of a module declares. -/
def ofModule (m : Module) : Device :=
  let d := m.schema.sources.foldl (fun d port => d.withOutput port.name) (new m.id)
  let d := m.schema.sinks.foldl withSink d
  m.schema.params.foldl withParam d

/-- A list has at most 2^63 - 1 bytes, and each gain takes 64 of them. -/
def maxGains : Nat := 9223372036854775807 / 64

/-- Add a bank if its gains have room. -/
def tryBank (d : Device) (port : String) (slots : UInt64) : Except DeviceError Device :=
  if slots.toNat ≤ maxGains then .ok (d.withBank port slots) else .error .bankTooLarge

def trySink (d : Device) (port : Port) : Except DeviceError Device :=
  if port.isBank then d.tryBank port.name port.slots else .ok (d.withInput port.name)

/-- The device of a module, if all its banks have room. -/
def tryModule (m : Module) : Except DeviceError Device := do
  let d := m.schema.sources.foldl (fun d port => d.withOutput port.name) (new m.id)
  let d ← m.schema.sinks.foldlM trySink d
  return m.schema.params.foldl withParam d

/-- The number of resets of each slot of a bank; no number if there is no such bank. -/
def slotResets (d : Device) (port : String) : List Nat :=
  ((d.banks.get? port).getD []).map (·.resets)

def hasOutput (d : Device) (port : String) : Bool :=
  d.outputs.contains port

def input? (d : Device) (port : String) : Option Inlet :=
  if d.inputs.contains port then some (.input d.id port) else none

def slotCount (d : Device) (port : String) : Nat :=
  ((d.banks.get? port).getD []).length

def slot? (d : Device) (port : String) (index : UInt64) : Option Inlet := do
  let gains ← d.banks.get? port
  let gain ← gains[index.toNat]?
  return gain.inlet

def param? (d : Device) (param : String) : Option Inlet :=
  if d.params.contains param then some (.param d.id param) else none

/-- Connect an output; only a device that is ready and has that output does. -/
def connect (d : Device) (port : String) (target : Inlet) : Except EngineError Unit × Device :=
  if !d.ready then
    (.error (.notReady d.id), d)
  else if !d.hasOutput port then
    (.error (.refused d.id s!"no output named '{port}'"), d)
  else
    (.ok (), { d with live := d.live ++ [⟨⟨d.id, port⟩, target⟩], connects := d.connects + 1 })

/-- Drop all live edges, and with them those of the gains of every bank. -/
def disconnect (d : Device) : Device :=
  { d with
    live := []
    banks := d.banks.map fun gains => gains.map fun g => { g with resets := g.resets + 1 }
    disconnects := d.disconnects + 1 }

instance : EngineObject Device where
  hasOutput := hasOutput
  input? := input?
  slotCount := slotCount
  slot? := slot?
  param? := param?
  connect := connect
  disconnect := disconnect

end Device
end ModularSynth
