import ModularSynth.Validation
import ModularSynth.Observer

/-!
This module contains the patch: a rack, the wiring between its modules, and the observers that are
told about compilations. Edits come as ids and textual addresses. Each gives an answer and the patch
it leaves; the error of an edit that fails says which rule or which part of the text was at fault.
-/

namespace ModularSynth

inductive EditError
  | invalidModuleId (id : ModuleId)
  | duplicateModule (id : ModuleId)
  | moduleNotFound (id : ModuleId)
  | address (side : Side) (error : AddressError)
  | rejected (rejection : Rejection)
  deriving DecidableEq

def EditError.message : EditError → String
  | .invalidModuleId id => s!"invalid module id '{id.text}'"
  | .duplicateModule id => s!"module '{id.text}' already exists"
  | .moduleNotFound id => s!"module '{id.text}' not found"
  | .address side error => s!"{side.name} address: {error.message}"
  | .rejected rejection => s!"connection rejected: {rejection.message}"

structure Patch where
  rack : Rack
  wiring : Wiring
  observers : Observers
  deriving DecidableEq

namespace Patch

def empty : Patch := ⟨[], [], .none⟩

/-- Add a module; its id has to be valid and new. -/
def addModule (p : Patch) (id : ModuleId) (schema : Schema) : Except EditError Module × Patch :=
  if !id.isValid then
    (.error (.invalidModuleId id), p)
  else if (p.rack.find? id).isSome then
    (.error (.duplicateModule id), p)
  else
    (.ok ⟨id, schema⟩, { p with rack := p.rack ++ [⟨id, schema⟩] })

/-- Remove a module with the connections that touch it, and count these. -/
def removeModule (p : Patch) (id : ModuleId) : Except EditError Nat × Patch :=
  if (p.rack.find? id).isSome then
    (.ok (p.wiring.touching id),
      { p with rack := p.rack.erase id, wiring := p.wiring.disconnectModule id })
  else
    (.error (.moduleNotFound id), p)

/-- Read the address at one end of a connection. -/
def parse (side : Side) (text : String) : Except EditError Address :=
  (Address.parse text).mapError (.address side)

/-- The endpoint of an address at one end of a connection, which is named as it was written. -/
def resolve (p : Patch) (side : Side) (text : String) (address : Address) :
    Except EditError Endpoint :=
  (address.resolve p.rack).mapError fun e =>
    .rejected (.direction side (trimmed text) (.unresolved e))

/-- The endpoints of two texts. Both are read before either is resolved. -/
def endpoints (p : Patch) (source target : String) : Except EditError (Endpoint × Endpoint) := do
  let sourceAddress ← parse .source source
  let targetAddress ← parse .target target
  let sourceEnd ← p.resolve .source source sourceAddress
  let targetEnd ← p.resolve .target target targetAddress
  return (sourceEnd, targetEnd)

def connect (p : Patch) (source target : Endpoint) : Except EditError Connection × Patch :=
  let (result, wiring) := p.wiring.connect p.rack source target
  (result.mapError .rejected, { p with wiring := wiring })

def propose (p : Patch) (source target : String) : Except EditError Connection × Patch :=
  match p.endpoints source target with
  | .ok (sourceEnd, targetEnd) => p.connect sourceEnd targetEnd
  | .error e => (.error e, p)

def canConnect (p : Patch) (source target : String) : Bool :=
  match p.endpoints source target with
  | .ok (sourceEnd, targetEnd) => p.wiring.canConnect p.rack sourceEnd targetEnd
  | .error _ => false

/-- Disconnect two endpoints, and tell whether they were connected. -/
def disconnect (p : Patch) (source target : Endpoint) : Bool × Patch :=
  (p.wiring.linked source target, { p with wiring := p.wiring.disconnect source target })

/--
Disconnect the endpoints of two texts, and tell whether they were connected. A text that denotes no
endpoint is connected to nothing; a text that is no address is an error.
-/
def remove (p : Patch) (source target : String) : Except EditError Bool × Patch :=
  match parse .source source, parse .target target with
  | .error e, _ => (.error e, p)
  | .ok _, .error e => (.error e, p)
  | .ok sourceAddress, .ok targetAddress =>
    match sourceAddress.resolve p.rack, targetAddress.resolve p.rack with
    | .ok sourceEnd, .ok targetEnd =>
      let (linked, p) := p.disconnect sourceEnd targetEnd
      (.ok linked, p)
    | _, _ => (.ok false, p)

/-- Rebuild an engine from the wiring, then tell the observers. -/
def compile {β ο : Type} [EngineObject ο] [Engine β ο] (p : Patch) (engine : β) :
    Report × Patch × β :=
  let (report, engine) := ModularSynth.compile p.wiring engine
  (report, { p with observers := p.observers.notify ⟨p.wiring, report.skips⟩ }, engine)

end Patch
end ModularSynth
