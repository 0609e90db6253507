import ModularSynth.Connection
import ModularSynth.Resolve

/-!
This module contains the rules a connection has to keep before it enters the wiring of a patch:

1. direction: signal flows from an output to an input, a parameter or the global sink
2. signal: the signal of the source may feed the target
3. duplicate: the endpoints are not linked yet, and a slot holds one connection at most
4. self loop: the endpoints are on different modules

The rules are tried in that order and the first that is broken is reported.
-/

namespace ModularSynth

/-- What the target of a connection is, as far as signals are concerned. -/
inductive TargetKind
  /-- An input, or one slot of a bank of inputs. -/
  | port (signal : Signal)
  | parameter
  | destination
  deriving DecidableEq

namespace TargetKind

/-- A parameter takes `cv` only and the global sink takes `audio` only. -/
def accepts : TargetKind → Signal → Bool
  | .port sink, signal => signal.canDrive sink
  | .parameter, signal => signal == .cv
  | .destination, signal => signal == .audio

def text : TargetKind → String
  | .port signal => s!"{signal.name} input"
  | .parameter => "parameter target"
  | .destination => "destination"

end TargetKind

inductive EndFault
  | unresolved (error : ResolveError)
  | notASource
  | notASink
  deriving DecidableEq

def EndFault.message : EndFault → String
  | .unresolved error => s!"does not resolve: {error.message}"
  | .notASource => "is not an output port"
  | .notASink => "is not an input, parameter, or destination"

/-- Why a connection is refused; there is one shape for each rule. -/
inductive Rejection
  | direction (side : Side) (reference : String) (fault : EndFault)
  | incompatible (signal : Signal) (target : TargetKind)
  | duplicate (source target : Endpoint)
  | selfLoop (module : ModuleId)
  deriving DecidableEq

def Rejection.message : Rejection → String
  | .direction side reference fault => s!"{side.name} '{reference}' {fault.message}"
  | .incompatible signal target => s!"{signal.name} output cannot drive a {target.text}"
  | .duplicate source target => s!"{source.text} → {target.text} is already connected"
  | .selfLoop m => s!"module '{m.text}' cannot feed itself"

namespace Endpoint

/-- The signal an endpoint emits; only outputs emit any. -/
def emits (rack : Rack) : Endpoint → Except EndFault Signal
  | .port id name => do
    let port ← (rack.port id name).mapError .unresolved
    if port.direction = .source then .ok port.signal else .error .notASource
  | _ => .error .notASource

/-- What an endpoint is as a target. A bank is fed slot by slot, every other input as a whole. -/
def receives (rack : Rack) : Endpoint → Except EndFault TargetKind
  | .port id name => do
    let port ← (rack.port id name).mapError .unresolved
    if port.direction ≠ .sink then
      .error .notASink
    else if port.isBank then
      .error (.unresolved (.slotRequired id name port.slots.toNat))
    else
      .ok (.port port.signal)
  | .slot id name index => do
    let port ← (rack.port id name).mapError .unresolved
    if port.direction ≠ .sink then
      .error .notASink
    else if !port.isBank then
      .error (.unresolved (.notMultiSlot id name))
    else if port.slots ≤ index then
      .error (.unresolved (.slotOutOfRange id name (slotNumber index) port.slots.toNat))
    else
      .ok (.port port.signal)
  | .param id name => do
    let schema ← (rack.schema id).mapError .unresolved
    if schema.hasParam name then .ok .parameter else .error (.unresolved (.unknownParam id name))
  | .sink => .ok .destination

end Endpoint

namespace Rule

/-- Rule 1. It finds out the signal of the source and what the target is, which rule 2 compares. -/
def direction (rack : Rack) (source target : Endpoint) :
    Except Rejection (Signal × TargetKind) := do
  let signal ← (source.emits rack).mapError (.direction .source source.text)
  let kind ← (target.receives rack).mapError (.direction .target target.text)
  return (signal, kind)

/-- Rule 2. -/
def signal (signal : Signal) (target : TargetKind) : Except Rejection Unit :=
  if target.accepts signal then .ok () else .error (.incompatible signal target)

/-- Rule 3. A second source for a slot is reported with the source that occupies the slot. -/
def duplicate (wiring : Wiring) (source target : Endpoint) : Except Rejection Unit :=
  if wiring.linked source target then
    .error (.duplicate source target)
  else if target.isSlot then
    match wiring.occupant? target with
    | some c => .error (.duplicate c.source target)
    | none => .ok ()
  else
    .ok ()

/-- Rule 4. The global sink is on no module and is never part of a loop. -/
def selfLoop (source target : Endpoint) : Except Rejection Unit :=
  match source.owner?, target.owner? with
  | some a, some b => if a = b then .error (.selfLoop a) else .ok ()
  | _, _ => .ok ()

end Rule

/-- The connection of two endpoints, if no rule is broken. -/
def validate (rack : Rack) (wiring : Wiring) (source target : Endpoint) :
    Except Rejection Connection := do
  let (signal, kind) ← Rule.direction rack source target
  Rule.signal signal kind
  Rule.duplicate wiring source target
  Rule.selfLoop source target
  return ⟨source, target, signal⟩

namespace Wiring

def canConnect (wiring : Wiring) (rack : Rack) (source target : Endpoint) : Bool :=
  (validate rack wiring source target).isOk

/-- Append the connection of two endpoints, if it is valid. -/
def connect (wiring : Wiring) (rack : Rack) (source target : Endpoint) :
    Except Rejection Connection × Wiring :=
  match validate rack wiring source target with
  | .ok c => (.ok c, wiring ++ [c])
  | .error rejection => (.error rejection, wiring)

end Wiring
end ModularSynth
