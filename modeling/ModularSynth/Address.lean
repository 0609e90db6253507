import ModularSynth.Text.Blank
import ModularSynth.Decimal.Numeral
import ModularSynth.Rack

/-!
This module contains textual addresses: `destination`, `module/name` and `module/port/slot`, with
blanks allowed around each part. An address only names an endpoint; what it resolves to is decided
by the schemas of a rack.
-/

namespace ModularSynth

/-- An address as it is written, before it is resolved. -/
inductive Address
  | destination
  /-- A port or a parameter of a module; the schema decides which. -/
  | named (module : ModuleId) (name : String)
  /-- A slot of a port. Slots are numbered from 1. -/
  | slotted (module : ModuleId) (port : String) (slot : UInt64)
  deriving DecidableEq

inductive AddressError
  | empty
  /-- The wrong number of parts, or a blank one. -/
  | malformed (text : String)
  /-- Three parts, the last of which is no numeral. -/
  | invalidSlot (text : String) (slot : String)
  deriving DecidableEq

def AddressError.message : AddressError → String
  | .empty => "address is empty"
  | .malformed text =>
    s!"malformed address '{text}' (expected module/port, module/port/slot, module/parameter, or "
      ++ "destination)"
  | .invalidSlot text slot => s!"invalid slot index '{slot}' in address '{text}'"

namespace Address

def separator : Char := '/'

def ofTrimmed (text : List Char) : Except AddressError Address :=
  if text = [] then
    .error .empty
  else if text = sinkName.toList then
    .ok .destination
  else
    let parts := text.splitOn separator
    if parts.any Text.isAllBlank then
      .error (.malformed (String.ofList text))
    else
      match parts.map Text.trim with
      | [module, name] => .ok (.named ⟨String.ofList module⟩ (String.ofList name))
      | [module, port, slot] =>
        match Numeral.read? slot with
        | some n => .ok (.slotted ⟨String.ofList module⟩ (String.ofList port) n)
        | none => .error (.invalidSlot (String.ofList text) (String.ofList slot))
      | _ => .error (.malformed (String.ofList text))

/-- Read an address. Blanks at the ends of the text and around each part do not count. -/
def parse (text : String) : Except AddressError Address :=
  ofTrimmed (Text.trim text.toList)

def text : Address → String
  | .destination => sinkName
  | .named module name => s!"{module.text}/{name}"
  | .slotted module port slot => s!"{module.text}/{port}/{String.ofList (Numeral.write slot)}"

end Address
end ModularSynth
