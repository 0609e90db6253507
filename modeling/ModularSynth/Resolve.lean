import ModularSynth.Endpoint

/-!
This module contains the resolution of addresses: which endpoint an address denotes on a rack.
-/

namespace ModularSynth

namespace Rack

def schema (rack : Rack) (id : ModuleId) : Except ResolveError Schema :=
  match rack.schema? id with
  | some schema => .ok schema
  | none => .error (.unknownModule id)

def port (rack : Rack) (id : ModuleId) (name : String) : Except ResolveError Port := do
  let schema ← rack.schema id
  match schema.port? name with
  | some port => .ok port
  | none => .error (.unknownPort id name)

end Rack

namespace Address

/--
The endpoint an address denotes. A name denotes a port if the schema declares one, else a parameter.
Slots are numbered from 1; slot 1 of a port that is not a bank denotes the port itself.
-/
def resolve (rack : Rack) : Address → Except ResolveError Endpoint
  | .destination => .ok .sink
  | .named id name => do
    let schema ← rack.schema id
    match schema.port? name with
    | some port =>
      if port.isBank then .error (.slotRequired id name port.slots.toNat) else .ok (.port id name)
    | none => if schema.hasParam name then .ok (.param id name) else .error (.unknownTarget id name)
  | .slotted id name slot => do
    let port ← rack.port id name
    if slot = 0 ∨ port.slots < slot then
      .error (.slotOutOfRange id name slot port.slots.toNat)
    else if port.isBank then
      .ok (.slot id name (slot - 1))
    else
      .ok (.port id name)

end Address

/-- Why a text denotes no endpoint: it is no address, or the address does not resolve. -/
inductive ReferenceError
  | parse (error : AddressError)
  | resolve (error : ResolveError)
  deriving DecidableEq

def ReferenceError.message : ReferenceError → String
  | .parse error => error.message
  | .resolve error => error.message

def Rack.endpoint (rack : Rack) (text : String) : Except ReferenceError Endpoint :=
  match Address.parse text with
  | .error e => .error (.parse e)
  | .ok address =>
    match address.resolve rack with
    | .error e => .error (.resolve e)
    | .ok endpoint => .ok endpoint

end ModularSynth
