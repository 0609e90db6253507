import ModularSynth.Address

/-!
This module contains endpoints, the resolved ends of connections, and why an address does not
resolve to one.
-/

namespace ModularSynth

/-- The number slot `index` is written with: slots count from 1 in texts and from 0 elsewhere. The
largest index has no successor and is written as itself. -/
def slotNumber (index : UInt64) : UInt64 :=
  if index = UInt64.ofNat (UInt64.size - 1) then index else index + 1

inductive Endpoint
  /-- A port that is not a bank. -/
  | port (module : ModuleId) (port : String)
  /-- One slot of a bank; the first has index 0. -/
  | slot (module : ModuleId) (port : String) (index : UInt64)
  | param (module : ModuleId) (param : String)
  | sink
  deriving DecidableEq

namespace Endpoint

/-- The module an endpoint is on; the global sink is on none. -/
def owner? : Endpoint → Option ModuleId
  | .port module _ => some module
  | .slot module _ _ => some module
  | .param module _ => some module
  | .sink => none

def isOwnedBy (e : Endpoint) (id : ModuleId) : Bool :=
  e.owner? == some id

def isSlot : Endpoint → Bool
  | .slot .. => true
  | _ => false

def address : Endpoint → Address
  | .port m name => .named m name
  | .slot m name index => .slotted m name (slotNumber index)
  | .param m name => .named m name
  | .sink => .destination

def text (e : Endpoint) : String :=
  e.address.text

def rank : Endpoint → Nat
  | .port .. => 0
  | .slot .. => 1
  | .param .. => 2
  | .sink => 3

/-- The name of the port or parameter; the global sink has none. -/
def name : Endpoint → String
  | .port _ name => name
  | .slot _ name _ => name
  | .param _ name => name
  | .sink => ""

def index : Endpoint → UInt64
  | .slot _ _ index => index
  | _ => 0

/-- Endpoints are ordered by shape, and within a shape by module, name and index. -/
def order : Endpoint → Endpoint → Ordering :=
  compareLex (compareOn rank) <| compareLex (compareOn fun e => e.owner?.map (·.text)) <|
    compareLex (compareOn name) (compareOn index)

instance : Std.TransCmp order := by
  unfold order
  infer_instance

def sort (endpoints : List Endpoint) : List Endpoint :=
  endpoints.mergeSort fun a b => (order a b).isLE

end Endpoint

inductive ResolveError
  | unknownModule (module : ModuleId)
  | unknownPort (module : ModuleId) (port : String)
  | unknownParam (module : ModuleId) (param : String)
  /-- Neither a port nor a parameter has that name. -/
  | unknownTarget (module : ModuleId) (name : String)
  /-- The slot number is not among `1, …, slots`. -/
  | slotOutOfRange (module : ModuleId) (port : String) (slot : UInt64) (slots : Nat)
  /-- A bank was named without a slot number. -/
  | slotRequired (module : ModuleId) (port : String) (slots : Nat)
  /-- A slot was named on a port that is not a bank. -/
  | notMultiSlot (module : ModuleId) (port : String)
  /-- The endpoint has a shape that emits no signal. -/
  | notEmitting (reference : String)
  deriving DecidableEq

def ResolveError.message : ResolveError → String
  | .unknownModule m => s!"unknown module '{m.text}'"
  | .unknownPort m port => s!"module '{m.text}' has no port '{port}'"
  | .unknownParam m param => s!"module '{m.text}' has no parameter '{param}'"
  | .unknownTarget m name => s!"module '{m.text}' has no port or parameter named '{name}'"
  | .slotOutOfRange m port slot slots =>
    s!"slot {slot} of '{m.text}/{port}' is out of range 1..={slots}"
  | .slotRequired m port slots =>
    s!"port '{m.text}/{port}' has {slots} slots; address one as {m.text}/{port}/N"
  | .notMultiSlot m port => s!"port '{m.text}/{port}' is not a multi-slot port"
  | .notEmitting reference => s!"'{reference}' cannot emit signal"

end ModularSynth
