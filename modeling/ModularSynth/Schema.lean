import ModularSynth.Signal

/-!
This module contains the declaration of a module kind: its ports and its parameters.
-/

namespace ModularSynth

structure Port where
  name : String
  direction : Direction
  signal : Signal
  /-- Number of slots that can be addressed one by one; a port with more than one is a bank. -/
  slots : UInt64
  deriving DecidableEq

inductive DeclarationError
  | emptyBank
  deriving DecidableEq

def DeclarationError.message : DeclarationError → String
  | .emptyBank => "a port bank needs at least one slot"

namespace Port

def source (name : String) (signal : Signal) : Port :=
  ⟨name, .source, signal, 1⟩

def sink (name : String) (signal : Signal) : Port :=
  ⟨name, .sink, signal, 1⟩

/-- A bank of inputs, such as the channels of a mixer; there is no bank without slots. -/
def bank (name : String) (signal : Signal) (slots : UInt64) : Except DeclarationError Port :=
  if slots = 0 then .error .emptyBank else .ok ⟨name, .sink, signal, slots⟩

/-- Ports that take a slot number. -/
def isBank (port : Port) : Bool :=
  decide (1 < port.slots)

end Port

structure Schema where
  kind : String
  ports : List Port
  /-- Controls that can be driven by `cv` directly. -/
  params : List String
  deriving DecidableEq

namespace Schema

def port? (schema : Schema) (name : String) : Option Port :=
  schema.ports.find? (·.name == name)

def hasParam (schema : Schema) (name : String) : Bool :=
  schema.params.contains name

/-- The outputs, in declaration order. -/
def sources (schema : Schema) : List Port :=
  schema.ports.filter (·.direction == .source)

/-- The inputs, in declaration order. -/
def sinks (schema : Schema) : List Port :=
  schema.ports.filter (·.direction == .sink)

end Schema
end ModularSynth
